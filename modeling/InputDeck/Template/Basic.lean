import InputDeck.Formula.Eval
import InputDeck.Template.Variables

/-!
# Templates

A template is a deck that has been read: its lines, taken apart into pieces, and its variables.
Reading also checks every formula, with a number in the place of each slot inside it, so that
only the values it is given can keep a template from being compiled.

Compiling puts a value in the place of every slot and every formula and copies all else. A
variable has the value it is bound to or, where defaults are allowed, the default of its domain.
A slot inside a formula stands for its number in parentheses. A formula sees the values of the
variables first and then every other binding. There is no partial result.
-/

namespace InputDeck

/-- A deck that has been read. -/
structure Template where
  style : MarkerStyle
  lines : List Line
  /-- The variables in the order in which they first appear. -/
  declared : List Variable
  /-- The declarations that were left out. -/
  notices : List Redeclaration
deriving DecidableEq

namespace Piece

/-- The text of a formula with every slot filled in, without white space at its ends. -/
def fill (fillSlot : Text → Except Formula.EvalError Text) :
    List Part → Except Formula.EvalError Text
  | [] => .ok []
  | .char c :: rest => (fill fillSlot rest).map (c :: ·)
  | .slot s :: rest =>
    match fillSlot s.name with
    | .error cause => .error cause
    | .ok t => (fill fillSlot rest).map (t ++ ·)

/-- The formula that a formula is checked as: zero stands for every slot. -/
def checked (parts : List Part) : Except Formula.EvalError Formula.Expr :=
  match fill (fun _ => .ok ['(', '0', ')']) parts with
  | .error cause => .error cause
  | .ok t => (Formula.parse (Text.trim t)).mapError .malformed

/-- A value in the place of a slot inside a formula. -/
def fillNumber (name : Text) (bound : Value) : Except Formula.EvalError Text :=
  match bound.toNumeric? with
  | none => .error (.nonNumeric name bound.render)
  | some v =>
    if v.isNonFinite then .error (.arithmetic (.nonFiniteBinding name v))
    else .ok ('(' :: (v.render ++ [')']))

/-- The value of a formula. The values of the variables take precedence over other bindings. -/
def evaluate (resolved : List (Text × Value)) (bindings : Bindings) (parts : List Part) :
    Except Formula.EvalError Value :=
  let values := Bindings.ofList resolved
  match fill (fun name => fillNumber name ((values name).getD default)) parts with
  | .error cause => .error cause
  | .ok t => Formula.evaluate (Text.trim t) (values.layered bindings)

end Piece

namespace Template

/-- The error of a formula on a line. A name without a value is reported as a variable. -/
def formulaError (style : MarkerStyle) (number : Nat) (parts : List Part) :
    Formula.EvalError → TemplateError
  | .unbound name => .unresolved name
  | cause => .formula (Piece.expression style parts) number cause

/-- Checks every formula of a row of pieces. -/
def checkPieces (style : MarkerStyle) (number : Nat) : List Piece → Except TemplateError Unit
  | [] => .ok ()
  | .formula parts :: rest =>
    match Piece.checked parts with
    | .error cause => .error (formulaError style number parts cause)
    | .ok _ => checkPieces style number rest
  | _ :: rest => checkPieces style number rest

/-- Checks every formula of the lines, the first of which has the given number. -/
def checkLines (style : MarkerStyle) : Nat → List Line → Except TemplateError Unit
  | _, [] => .ok ()
  | number, line :: rest =>
    match checkPieces style number line.pieces with
    | .error error => .error error
    | .ok _ => checkLines style (number + 1) rest

/-- Reads a deck. Malformed markers are reported before declarations that do not go together, and
these before malformed formulas. -/
def ofText? (style : MarkerStyle) (t : Text) : Except TemplateError Template :=
  match scan style t with
  | .error error => .error error
  | .ok lines =>
    match Variable.collect ((Line.slots style lines).map SlotOccurrence.declaration) with
    | .error error => .error error
    | .ok (declared, notices) =>
      match checkLines style 1 lines with
      | .error error => .error error
      | .ok _ => .ok ⟨style, lines, declared, notices⟩

/-- The text of the deck. -/
def text (template : Template) : Text := template.lines.flatMap (Line.source template.style)

/-- The slots, in the order of the text. -/
def slots (template : Template) : List SlotOccurrence := Line.slots template.style template.lines

/-- The formulas, in the order of the text. -/
def formulas (template : Template) : List FormulaOccurrence :=
  Line.formulas template.style template.lines

/-- The default of every variable. -/
def defaults (template : Template) : List (Text × Value) :=
  template.declared.map fun v => (v.name, v.domain.defaultValue)

/-- The value of every variable: the one it is bound to, else its default where defaults are
allowed. -/
def resolveAll (useDefaults : Bool) (bindings : Bindings) :
    List Variable → Except TemplateError (List (Text × Value))
  | [] => .ok []
  | v :: rest =>
    match (bindings v.name).or (if useDefaults then some v.domain.defaultValue else none) with
    | none => .error (.unresolved v.name)
    | some value => (resolveAll useDefaults bindings rest).map ((v.name, value) :: ·)

/-- The value of every variable of a template. -/
def resolve (template : Template) (useDefaults : Bool) (bindings : Bindings) :
    Except TemplateError (List (Text × Value)) :=
  resolveAll useDefaults bindings template.declared

/-- The pieces of a line with values in the place of slots and formulas. -/
def compilePieces (style : MarkerStyle) (number : Nat) (resolved : List (Text × Value))
    (bindings : Bindings) : List Piece → Except TemplateError Text
  | [] => .ok []
  | piece :: rest =>
    match
      (match piece with
        | .char c => .ok [c]
        | .slot s => .ok ((Bindings.ofList resolved s.name).getD default).render
        | .formula parts =>
          match Piece.evaluate resolved bindings parts with
          | .error cause => .error (formulaError style number parts cause)
          | .ok v => .ok v.render : Except TemplateError Text) with
    | .error error => .error error
    | .ok t => (compilePieces style number resolved bindings rest).map (t ++ ·)

/-- The lines with values in the place of slots and formulas; the first line has the given
number. -/
def compileLines (style : MarkerStyle) (resolved : List (Text × Value)) (bindings : Bindings) :
    Nat → List Line → Except TemplateError Text
  | _, [] => .ok []
  | number, line :: rest =>
    match compilePieces style number resolved bindings line.pieces with
    | .error error => .error error
    | .ok t =>
      (compileLines style resolved bindings (number + 1) rest).map (t ++ line.ending ++ ·)

/-- The compiled deck. -/
def compile (template : Template) (useDefaults : Bool) (bindings : Bindings) :
    Except TemplateError Text :=
  match template.resolve useDefaults bindings with
  | .error error => .error error
  | .ok resolved => compileLines template.style resolved bindings 1 template.lines

end Template

/-- Reads a deck and compiles it with defaults. -/
def compileText (style : MarkerStyle) (t : Text) (bindings : Bindings) :
    Except TemplateError Text :=
  match Template.ofText? style t with
  | .error error => .error error
  | .ok template => template.compile true bindings

end InputDeck
