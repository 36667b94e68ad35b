import InputDeck.Template.Occurrence

/-!
# Variables and their declarations

A variable may be marked many times. It is listed where it first appears, with the domain of its
first declaration; a bare mark declares nothing and goes with every domain. A later declaration
of another kind is an error. One of the same kind with another content is left out, and a notice
names its line and the line of the declaration that stays.
-/

namespace InputDeck

/-- What one mark says about a variable. -/
structure Declaration where
  name : Text
  domain : Domain
  line : Nat

/-- A variable, its domain, and the line that the domain stands on. -/
structure Variable where
  name : Text
  domain : Domain
  declaredAt : Nat
deriving DecidableEq

/-- A declaration that was left out. -/
structure Redeclaration where
  name : Text
  line : Nat
  firstLine : Nat
deriving DecidableEq

namespace Variable

/-- Puts a variable in the place of the one with its name. -/
def replace (declared : List Variable) (v : Variable) : List Variable :=
  declared.map fun old => if old.name = v.name then v else old

/-- The variables after one more declaration, and a notice if it was left out. -/
def declare (declared : List Variable) (d : Declaration) :
    Except TemplateError (List Variable × List Redeclaration) :=
  match declared.find? (·.name == d.name) with
  | none => .ok (declared ++ [⟨d.name, d.domain, d.line⟩], [])
  | some known =>
    if d.domain.kind = .unconstrained then .ok (declared, [])
    else if known.domain.kind = .unconstrained then
      .ok (replace declared ⟨d.name, d.domain, d.line⟩, [])
    else if known.domain.kind ≠ d.domain.kind then
      .error (.inconsistentDomain d.name known.domain.kind d.domain.kind d.line)
    else if known.domain.same d.domain then .ok (declared, [])
    else .ok (declared, [⟨d.name, d.line, known.declaredAt⟩])

/-- The variables after a row of declarations, and the notices on the way. -/
def declareAll (declared : List Variable) :
    List Declaration → Except TemplateError (List Variable × List Redeclaration)
  | [] => .ok (declared, [])
  | d :: rest =>
    match declare declared d with
    | .error error => .error error
    | .ok (declared, notices) =>
      (declareAll declared rest).map fun (declared, later) => (declared, notices ++ later)

/-- The variables that a row of declarations leaves, and the notices. -/
def collect : List Declaration → Except TemplateError (List Variable × List Redeclaration) :=
  declareAll []

end Variable

/-- What an occurrence of a slot says about its variable. -/
def SlotOccurrence.declaration (slot : SlotOccurrence) : Declaration :=
  ⟨slot.name, slot.domain, slot.line⟩

/-- The variables of a deck, and the notices about their declarations. -/
def discover (style : MarkerStyle) (t : Text) :
    Except TemplateError (List Variable × List Redeclaration) :=
  match scan style t with
  | .error error => .error error
  | .ok lines => Variable.collect ((Line.slots style lines).map SlotOccurrence.declaration)

end InputDeck
