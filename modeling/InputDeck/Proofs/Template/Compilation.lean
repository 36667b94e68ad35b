import InputDeck.Proofs.Outcome
import InputDeck.Proofs.Template.Placement
import InputDeck.Template.Basic

/-!
# How a template compiles

A template that has been read keeps its lines as they were scanned, a variable for every slot and
formulas that can be read. Compiling it fails with the first variable that has no value, else with
the first formula of the text that has none, and otherwise exchanges every slot and every formula
for its new text and copies the rest.
-/

namespace InputDeck

namespace Variable

/-- The names of variables. -/
def names (declared : List Variable) : List Text := declared.map Variable.name

/-- A variable that takes the place of another keeps its name. -/
theorem names_replace (declared : List Variable) (v : Variable) :
    names (replace declared v) = names declared := by
  simp only [names, replace, List.map_map]
  apply List.map_congr_left
  intro old _
  by_cases same : old.name = v.name
  · simp [same]
  · simp [same]

/-- A declaration adds its name behind the others, if it is new. -/
theorem names_declare {declared later : List Variable} {d : Declaration}
    {notices : List Redeclaration} (done : declare declared d = .ok (later, notices)) :
    names later =
      if d.name ∈ names declared then names declared else names declared ++ [d.name] := by
  unfold declare at done
  split at done
  · rename_i absent
    simp only [Except.ok.injEq, Prod.mk.injEq] at done
    obtain ⟨rfl, -⟩ := done
    have new : d.name ∉ names declared := by
      intro member
      obtain ⟨v, known, same⟩ := List.mem_map.1 member
      simpa [same] using List.find?_eq_none.1 absent v known
    rw [if_neg new, names, names, List.map_append]
    rfl
  · rename_i known found
    have present : d.name ∈ names declared := by
      have same : known.name = d.name := by simpa using List.find?_some found
      exact same ▸ List.mem_map_of_mem (List.mem_of_find?_eq_some found)
    rw [if_pos present]
    split at done
    · cases done
      rfl
    · split at done
      · cases done
        exact names_replace _ _
      · split at done
        · cases done
        · split at done <;> cases done <;> rfl

/-- A declaration adds its name, if it is new, and changes no other. -/
theorem mem_names_declare_iff {declared later : List Variable} {d : Declaration}
    {notices : List Redeclaration} (done : declare declared d = .ok (later, notices))
    (name : Text) : name ∈ names later ↔ name ∈ names declared ∨ name = d.name := by
  rw [names_declare done]
  split
  · rename_i present
    exact ⟨.inl, fun either => either.elim id fun same => same ▸ present⟩
  · rw [List.mem_append, List.mem_singleton]

/-- A row of declarations is taken up one after the other, and leaves its notices in that order. -/
theorem exists_of_declareAll_cons {declared later : List Variable} {d : Declaration}
    {rest : List Declaration} {notices : List Redeclaration}
    (done : declareAll declared (d :: rest) = .ok (later, notices)) :
    ∃ next first behind, declare declared d = .ok (next, first) ∧
      declareAll next rest = .ok (later, behind) ∧ notices = first ++ behind := by
  unfold declareAll at done
  split at done
  · cases done
  · rename_i next first step
    obtain ⟨⟨last, behind⟩, doneRest, same⟩ := (map_eq_ok_iff _ _ _).1 done
    obtain ⟨rfl, rfl⟩ := Prod.mk.inj same
    exact ⟨next, first, behind, step, doneRest, rfl⟩

/-- The declared names are those there were and those of the declarations. -/
theorem mem_names_declareAll_iff {declared later : List Variable} {ds : List Declaration}
    {notices : List Redeclaration} (done : declareAll declared ds = .ok (later, notices))
    (name : Text) :
    name ∈ names later ↔ name ∈ names declared ∨ name ∈ ds.map Declaration.name := by
  induction ds generalizing declared notices with
  | nil =>
    cases done
    simp
  | cons d rest inductionHypothesis =>
    obtain ⟨next, first, behind, step, doneRest, -⟩ := exists_of_declareAll_cons done
    rw [inductionHypothesis doneRest, mem_names_declare_iff step, List.map_cons, List.mem_cons,
      or_assoc]

end Variable

namespace Template

/-- What reading a deck has established about the template. -/
structure Reads (style : MarkerStyle) (t : Text) (template : Template) : Prop where
  style_eq : template.style = style
  scanned : scan style t = .ok template.lines
  declared : ∀ s ∈ template.slots, s.name ∈ Variable.names template.declared
  checked : ∀ line ∈ template.lines, ∀ parts, .formula parts ∈ line.pieces →
    ∃ e, Piece.checked parts = .ok e

/-- In checked pieces every formula can be read. -/
theorem checked_of_checkPieces {style : MarkerStyle} {number : Nat} {pieces : List Piece}
    (passed : checkPieces style number pieces = .ok ()) :
    ∀ parts, .formula parts ∈ pieces → ∃ e, Piece.checked parts = .ok e := by
  induction pieces with
  | nil => simp
  | cons piece rest inductionHypothesis =>
    intro parts member
    cases piece with
    | char c => exact inductionHypothesis passed parts (by simpa using member)
    | slot s => exact inductionHypothesis passed parts (by simpa using member)
    | formula others =>
      unfold checkPieces at passed
      split at passed
      · cases passed
      · rename_i e readable
        rcases List.mem_cons.1 member with same | later
        · cases same
          exact ⟨e, readable⟩
        · exact inductionHypothesis passed parts later

/-- In checked lines every formula can be read. -/
theorem checked_of_checkLines {style : MarkerStyle} {number : Nat} {lines : List Line}
    (passed : checkLines style number lines = .ok ()) :
    ∀ line ∈ lines, ∀ parts, .formula parts ∈ line.pieces →
      ∃ e, Piece.checked parts = .ok e := by
  induction lines generalizing number with
  | nil => simp
  | cons line rest inductionHypothesis =>
    unfold checkLines at passed
    split at passed
    · cases passed
    · rename_i passedLine
      intro found member
      rcases List.mem_cons.1 member with rfl | later
      · exact checked_of_checkPieces passedLine
      · exact inductionHypothesis passed found later

/-- A template that is read from a text has these properties. -/
theorem reads_of_ofText? {style : MarkerStyle} {t : Text} {template : Template}
    (read : ofText? style t = .ok template) : template.Reads style t := by
  unfold ofText? at read
  split at read
  · cases read
  · rename_i lines scanned
    split at read
    · cases read
    · rename_i declared notices collected
      split at read
      · cases read
      · rename_i passed
        cases read
        refine ⟨rfl, scanned, ?_, checked_of_checkLines passed⟩
        intro s member
        apply (Variable.mem_names_declareAll_iff collected s.name).2
        apply Or.inr
        rw [List.map_map]
        exact List.mem_map_of_mem member

/-- The text of a template is the text it was read from. -/
theorem Reads.text_eq {style : MarkerStyle} {t : Text} {template : Template}
    (reads : template.Reads style t) : template.text = t := by
  rw [text, reads.style_eq, source_of_scan reads.scanned]

/-- Resolved variables are the declared ones, in their order. -/
theorem names_of_resolveAll {useDefaults : Bool} {bindings : Bindings}
    {declared : List Variable} {resolved : List (Text × Value)}
    (done : resolveAll useDefaults bindings declared = .ok resolved) :
    resolved.map Prod.fst = Variable.names declared := by
  induction declared generalizing resolved with
  | nil =>
    cases done
    rfl
  | cons v rest inductionHypothesis =>
    unfold resolveAll at done
    split at done
    · cases done
    · obtain ⟨later, doneLater, rfl⟩ := (map_eq_ok_iff _ _ _).1 done
      simpa [Variable.names] using inductionHypothesis doneLater

/-- With defaults every variable has a value. -/
theorem resolveAll_defaults (bindings : Bindings) (declared : List Variable) :
    ∃ resolved, resolveAll true bindings declared = .ok resolved := by
  induction declared with
  | nil => exact ⟨[], rfl⟩
  | cons v rest inductionHypothesis =>
    obtain ⟨later, doneLater⟩ := inductionHypothesis
    refine ⟨(v.name, (bindings v.name).getD v.domain.defaultValue) :: later, ?_⟩
    unfold resolveAll
    cases bindings v.name <;> simp [doneLater]

/-- Only a variable without a value keeps the variables from being resolved. -/
theorem unresolved_of_resolveAll {useDefaults : Bool} {bindings : Bindings}
    {declared : List Variable} {error : TemplateError}
    (failed : resolveAll useDefaults bindings declared = .error error) :
    ∃ name, error = .unresolved name := by
  induction declared with
  | nil => cases failed
  | cons v rest inductionHypothesis =>
    unfold resolveAll at failed
    split at failed
    · cases failed
      exact ⟨v.name, rfl⟩
    · exact inductionHypothesis ((map_eq_error_iff _ _ _).1 failed)

/-- A listed name has a value. -/
theorem exists_lookup_of_mem {resolved : List (Text × Value)} {name : Text}
    (member : name ∈ resolved.map Prod.fst) : ∃ v, resolved.lookup name = some v := by
  apply Option.ne_none_iff_exists'.1
  intro absent
  obtain ⟨pair, pairMember, rfl⟩ := List.mem_map.1 member
  have differs := List.lookup_eq_none_iff.1 absent pair pairMember
  simp at differs

/-- The name of a variable is resolved. -/
theorem exists_resolved {useDefaults : Bool} {bindings : Bindings} {declared : List Variable}
    {resolved : List (Text × Value)}
    (done : resolveAll useDefaults bindings declared = .ok resolved) {name : Text}
    (member : name ∈ Variable.names declared) :
    ∃ value, Bindings.ofList resolved name = some value := by
  rw [← names_of_resolveAll done] at member
  exact exists_lookup_of_mem member

/-- Every slot of a template that has been read has a resolved value. -/
theorem Reads.exists_lookup {style : MarkerStyle} {t : Text} {template : Template}
    (reads : template.Reads style t) {useDefaults : Bool} {bindings : Bindings}
    {resolved : List (Text × Value)}
    (done : template.resolve useDefaults bindings = .ok resolved) {s : SlotOccurrence}
    (member : s ∈ template.slots) : ∃ v, resolved.lookup s.name = some v :=
  exists_resolved done (reads.declared s member)

end Template

namespace Piece

/-- A value stands in for no number only because it is text or not finite. -/
theorem cause_of_fillNumber {name : Text} {bound : Value} {cause : Formula.EvalError}
    (failed : fillNumber name bound = .error cause) :
    (∃ fault, cause = .arithmetic fault) ∨ ∃ name content, cause = .nonNumeric name content := by
  unfold fillNumber at failed
  split at failed
  · cases failed
    exact .inr ⟨name, bound.render, rfl⟩
  · rename_i v _
    split at failed
    · cases failed
      exact .inl ⟨.nonFiniteBinding name v, rfl⟩
    · cases failed

/-- Filling fails where a slot cannot be filled. -/
theorem exists_slot_of_fill {fillSlot : Text → Except Formula.EvalError Text} {parts : List Part}
    {cause : Formula.EvalError} (failed : fill fillSlot parts = .error cause) :
    ∃ s, .slot s ∈ parts ∧ fillSlot s.name = .error cause := by
  induction parts with
  | nil => cases failed
  | cons part rest inductionHypothesis =>
    cases part with
    | char c =>
      obtain ⟨s, member, slotFailed⟩ :=
        inductionHypothesis ((map_eq_error_iff _ _ _).1 failed)
      exact ⟨s, List.mem_cons_of_mem _ member, slotFailed⟩
    | slot s =>
      unfold fill at failed
      split at failed
      · rename_i slotFailed
        cases failed
        exact ⟨s, List.mem_cons_self, slotFailed⟩
      · obtain ⟨later, member, laterFailed⟩ :=
          inductionHypothesis ((map_eq_error_iff _ _ _).1 failed)
        exact ⟨later, List.mem_cons_of_mem _ member, laterFailed⟩

end Piece

section Outcomes

variable {ε α : Type}

/-- The error of an outcome, if there is an outcome and it is one. -/
def failure? : Option (Except ε α) → Option ε
  | some (.error error) => some error
  | _ => none

/-- The result of an outcome, if there is an outcome and it has one. -/
def result? : Option (Except ε α) → Option α
  | some (.ok a) => some a
  | _ => none

/-- The error, or the result where there is none. -/
def outcomeOf (error : Option ε) (a : α) : Except ε α :=
  match error with
  | some error => .error error
  | none => .ok a

end Outcomes

/-- What takes the place of a piece; a character stays. -/
def Piece.compiled? (style : MarkerStyle) (number : Nat) (resolved : List (Text × Value))
    (bindings : Bindings) : Piece → Option (Except TemplateError Text)
  | .char _ => none
  | .slot s => some (.ok ((Bindings.ofList resolved s.name).getD default).render)
  | .formula parts =>
    match Piece.evaluate resolved bindings parts with
    | .error cause => some (.error (Template.formulaError style number parts cause))
    | .ok v => some (.ok v.render)

/-- Located items stand on the line where they begin. -/
theorem Position.findSome?_locate {α ε : Type} (source : α → Text) (f : Nat → α → Option ε)
    (place : Position) (items : List α) :
    (place.locate source items).findSome? (fun found => f found.1.line found.2) =
      items.findSome? (f place.line) := by
  induction items generalizing place with
  | nil => rfl
  | cons item rest inductionHypothesis =>
    rw [locate, List.findSome?_cons, List.findSome?_cons, inductionHypothesis]
    rfl

namespace Template

variable (style : MarkerStyle) (resolved : List (Text × Value)) (bindings : Bindings)

/-- The first piece compiles to its new text in front of the others, or fails. -/
theorem compilePieces_cons (number : Nat) (piece : Piece) (rest : List Piece) :
    compilePieces style number resolved bindings (piece :: rest) =
      match (piece.compiled? style number resolved bindings).getD (.ok (piece.source style)) with
      | .error error => .error error
      | .ok t => (compilePieces style number resolved bindings rest).map (t ++ ·) := by
  cases piece with
  | char c => rfl
  | slot s => rfl
  | formula parts =>
    simp only [compilePieces, Piece.compiled?]
    cases Piece.evaluate resolved bindings parts <;> rfl

/-- The new text of a row of pieces whose formulas have values. -/
def newPieces (number : Nat) (pieces : List Piece) : Text :=
  pieces.flatMap fun piece =>
    (result? (piece.compiled? style number resolved bindings)).getD (piece.source style)

/-- The new text of lines whose formulas have values. -/
def newLines : Nat → List Line → Text
  | _, [] => []
  | number, line :: rest =>
    newPieces style resolved bindings number line.pieces ++ line.ending
      ++ newLines (number + 1) rest

/-- A row of pieces compiles to its new text, or fails with the first formula of no value. -/
theorem compilePieces_eq (number : Nat) (pieces : List Piece) :
    compilePieces style number resolved bindings pieces =
      outcomeOf (pieces.findSome? fun piece =>
          failure? (piece.compiled? style number resolved bindings))
        (newPieces style resolved bindings number pieces) := by
  induction pieces with
  | nil => rfl
  | cons piece rest inductionHypothesis =>
    have first : newPieces style resolved bindings number (piece :: rest) =
        (result? (piece.compiled? style number resolved bindings)).getD (piece.source style)
          ++ newPieces style resolved bindings number rest := rfl
    rw [compilePieces_cons, inductionHypothesis, List.findSome?_cons, first]
    cases piece.compiled? style number resolved bindings with
    | none => cases rest.findSome? _ <;> rfl
    | some outcome =>
      cases outcome with
      | error error => rfl
      | ok t => cases rest.findSome? _ <;> rfl

/-- Lines compile to their new text, or fail with the first formula of no value. -/
theorem compileLines_eq (offset number : Nat) (lines : List Line) :
    compileLines style resolved bindings number lines =
      outcomeOf ((Line.located style offset number lines).findSome? fun found =>
          failure? (found.2.compiled? style found.1.line resolved bindings))
        (newLines style resolved bindings number lines) := by
  induction lines generalizing offset number with
  | nil => rfl
  | cons line rest inductionHypothesis =>
    rw [compileLines, compilePieces_eq, Line.located, List.findSome?_append,
      Position.findSome?_locate (Piece.source style)
        (fun number piece => failure? (piece.compiled? style number resolved bindings)),
      inductionHypothesis (offset + Text.byteLength (line.source style))]
    cases line.pieces.findSome? _ with
    | some error => rfl
    | none => cases (Line.located style _ (number + 1) rest).findSome? _ <;> rfl

/-- The pieces of a template with the places where they stand. -/
def located (template : Template) : List (Position × Piece) :=
  Line.located template.style 0 1 template.lines

/-- With the variables resolved, a template compiles to the new text of its lines, or fails with
the first formula of no value. -/
theorem compile_eq {template : Template} {useDefaults : Bool} {bindings : Bindings}
    {resolved : List (Text × Value)}
    (done : template.resolve useDefaults bindings = .ok resolved) :
    template.compile useDefaults bindings =
      outcomeOf (template.located.findSome? fun found =>
          failure? (found.2.compiled? template.style found.1.line resolved bindings))
        (newLines template.style resolved bindings 1 template.lines) := by
  rw [compile, done]
  exact compileLines_eq template.style resolved bindings 0 1 template.lines

/-- The error of a piece that is checked: that of a formula that cannot be read. -/
def checkFailure? (number : Nat) : Piece → Option TemplateError
  | .formula parts =>
    match Piece.checked parts with
    | .error cause => some (formulaError style number parts cause)
    | .ok _ => none
  | _ => none

/-- A row of pieces passes the check, or fails with its first formula that cannot be read. -/
theorem checkPieces_eq (number : Nat) (pieces : List Piece) :
    checkPieces style number pieces =
      outcomeOf (pieces.findSome? (checkFailure? style number)) () := by
  induction pieces with
  | nil => rfl
  | cons piece rest inductionHypothesis =>
    rw [List.findSome?_cons]
    cases piece with
    | char c => exact inductionHypothesis
    | slot s => exact inductionHypothesis
    | formula parts =>
      simp only [checkPieces, checkFailure?, inductionHypothesis]
      cases Piece.checked parts <;> rfl

/-- Lines pass the check, or fail with the first formula that cannot be read. -/
theorem checkLines_eq (offset number : Nat) (lines : List Line) :
    checkLines style number lines =
      outcomeOf ((Line.located style offset number lines).findSome? fun found =>
        checkFailure? style found.1.line found.2) () := by
  induction lines generalizing offset number with
  | nil => rfl
  | cons line rest inductionHypothesis =>
    rw [checkLines, checkPieces_eq, Line.located, List.findSome?_append,
      Position.findSome?_locate (Piece.source style) (checkFailure? style),
      inductionHypothesis (offset + Text.byteLength (line.source style))]
    cases line.pieces.findSome? _ <;> rfl

end Template

end InputDeck
