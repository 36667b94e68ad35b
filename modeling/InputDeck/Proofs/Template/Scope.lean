import InputDeck.Proofs.Template.Compilation

/-!
# What compiling reads of the values

A slot is looked up among the resolved variables, and a formula sees these in front of all other
bindings. Values that agree in both views compile a deck to the same text or fail with the same
error. A template has a variable for every name of its slots and for no other, so bindings that
have a value for each of these names are all that compiling reads.
-/

namespace InputDeck

namespace Part

/-- The name of a part that is a slot. -/
def slotName? : Part → Option Text
  | char _ => none
  | slot s => some s.name

end Part

namespace Piece

/-- The names of the slots of a piece, in the order of the text. -/
def slotNames : Piece → List Text
  | char _ => []
  | slot s => [s.name]
  | formula parts => parts.filterMap Part.slotName?

/-- The reported slots of a piece have the names of its slots. -/
theorem map_name_slots (style : MarkerStyle) (place : Position) (piece : Piece) :
    (piece.slots style place).map SlotOccurrence.name = piece.slotNames := by
  cases piece with
  | char c => rfl
  | slot s => rfl
  | formula parts =>
    simp only [slots, Part.occurrences, slotNames]
    generalize place.advance [style.formulaMark, style.openDelimiter] = inside
    induction parts generalizing inside with
    | nil => rfl
    | cons part rest inductionHypothesis =>
      have later := inductionHypothesis (inside.advance (part.source style))
      cases part with
      | char c => exact later
      | slot s => exact congrArg (s.name :: ·) later

end Piece

namespace Line

/-- The names of the slots of lines, in the order of the text. -/
def slotNames (lines : List Line) : List Text :=
  lines.flatMap fun line => line.pieces.flatMap Piece.slotNames

/-- The located pieces are the pieces of the lines. -/
theorem map_snd_located (style : MarkerStyle) (offset number : Nat) (lines : List Line) :
    (located style offset number lines).map Prod.snd = lines.flatMap Line.pieces := by
  have onLine : ∀ (pieces : List Piece) (place : Position),
      (place.locate (Piece.source style) pieces).map Prod.snd = pieces := by
    intro pieces
    induction pieces with
    | nil => exact fun _ => rfl
    | cons piece rest inductionHypothesis =>
      intro place
      rw [Position.locate, List.map_cons, inductionHypothesis]
  induction lines generalizing offset number with
  | nil => rfl
  | cons line rest inductionHypothesis =>
    rw [located, List.map_append, onLine, inductionHypothesis, List.flatMap_cons]

/-- The reported slots have the names of the slots of the lines. -/
theorem map_name_slots (style : MarkerStyle) (lines : List Line) :
    (slots style lines).map SlotOccurrence.name = slotNames lines := by
  have pieces := map_snd_located style 0 1 lines
  rw [slots, List.map_flatMap]
  simp only [Piece.map_name_slots]
  rw [← List.flatMap_map Prod.snd Piece.slotNames, pieces, List.flatMap_assoc]
  rfl

end Line

/-- Two sets of values agree on slots of these names and on all that a formula may name. -/
structure Bindings.Agree (names : List Text) (resolved resolved' : List (Text × Value))
    (bindings bindings' : Bindings) : Prop where
  slots : ∀ name ∈ names, ofList resolved name = ofList resolved' name
  scope : (ofList resolved).layered bindings = (ofList resolved').layered bindings'

/-- Values agree on fewer names. -/
theorem Bindings.Agree.mono {names fewer : List Text} {resolved resolved' : List (Text × Value)}
    {bindings bindings' : Bindings} (agree : Agree names resolved resolved' bindings bindings')
    (subset : ∀ name ∈ fewer, name ∈ names) :
    Agree fewer resolved resolved' bindings bindings' :=
  ⟨fun name member => agree.slots name (subset name member), agree.scope⟩

namespace Piece

/-- Slots that are filled alike fill a formula alike. -/
theorem fill_congr {fillSlot fillSlot' : Text → Except Formula.EvalError Text}
    {parts : List Part}
    (same : ∀ name ∈ (formula parts).slotNames, fillSlot name = fillSlot' name) :
    fill fillSlot parts = fill fillSlot' parts := by
  induction parts with
  | nil => rfl
  | cons part rest inductionHypothesis =>
    cases part with
    | char c => rw [fill, fill, inductionHypothesis same]
    | slot s =>
      obtain ⟨first, later⟩ := List.forall_mem_cons.1 same
      rw [fill, fill, first, inductionHypothesis later]

variable {resolved resolved' : List (Text × Value)} {bindings bindings' : Bindings}

/-- Values that agree give a formula the same value. -/
theorem evaluate_congr {parts : List Part}
    (agree : Bindings.Agree (formula parts).slotNames resolved resolved' bindings bindings') :
    evaluate resolved bindings parts = evaluate resolved' bindings' parts := by
  have filled : fill (fun name => fillNumber name ((Bindings.ofList resolved name).getD default))
      parts = fill (fun name => fillNumber name
        ((Bindings.ofList resolved' name).getD default)) parts := by
    apply fill_congr
    intro name member
    rw [agree.slots name member]
  simp only [evaluate, filled, agree.scope]

/-- Values that agree compile a piece alike. -/
theorem compiled?_congr (style : MarkerStyle) (number : Nat) {piece : Piece}
    (agree : Bindings.Agree piece.slotNames resolved resolved' bindings bindings') :
    piece.compiled? style number resolved bindings =
      piece.compiled? style number resolved' bindings' := by
  cases piece with
  | char c => rfl
  | slot s => rw [compiled?, compiled?, agree.slots s.name (List.mem_singleton_self _)]
  | formula parts => simp only [compiled?, evaluate_congr agree]

end Piece

namespace Template

variable {resolved resolved' : List (Text × Value)} {bindings bindings' : Bindings}

/-- Pieces that compile alike one by one do so in a row. -/
theorem compilePieces_congr (style : MarkerStyle) (number : Nat) {pieces : List Piece}
    (each : ∀ piece ∈ pieces, piece.compiled? style number resolved bindings =
      piece.compiled? style number resolved' bindings') :
    compilePieces style number resolved bindings pieces =
      compilePieces style number resolved' bindings' pieces := by
  induction pieces with
  | nil => rfl
  | cons piece rest inductionHypothesis =>
    obtain ⟨first, later⟩ := List.forall_mem_cons.1 each
    rw [compilePieces_cons, compilePieces_cons, first, inductionHypothesis later]

/-- Lines compile alike if their pieces do. -/
theorem compileLines_congr_of_pieces (style : MarkerStyle) (number : Nat) {lines : List Line}
    (each : ∀ line ∈ lines, ∀ piece ∈ line.pieces, ∀ number,
      piece.compiled? style number resolved bindings =
        piece.compiled? style number resolved' bindings') :
    compileLines style resolved bindings number lines =
      compileLines style resolved' bindings' number lines := by
  induction lines generalizing number with
  | nil => rfl
  | cons line rest inductionHypothesis =>
    obtain ⟨first, later⟩ := List.forall_mem_cons.1 each
    have onLine := compilePieces_congr style number fun piece member => first piece member number
    rw [compileLines, compileLines, onLine, inductionHypothesis (number + 1) later]

/-- Values that agree compile lines alike. -/
theorem compileLines_congr (style : MarkerStyle) (number : Nat) {lines : List Line}
    (agree : Bindings.Agree (Line.slotNames lines) resolved resolved' bindings bindings') :
    compileLines style resolved bindings number lines =
      compileLines style resolved' bindings' number lines := by
  apply compileLines_congr_of_pieces
  intro line lineMember piece pieceMember number
  refine Piece.compiled?_congr style number (agree.mono fun name member => ?_)
  exact List.mem_flatMap_of_mem lineMember (List.mem_flatMap_of_mem pieceMember member)

end Template

namespace Template

variable {style : MarkerStyle} {t : Text} {template : Template}

/-- The variables of a template that has been read are those that its slots declare. -/
theorem collect_of_ofText? (read : ofText? style t = .ok template) :
    Variable.collect (template.slots.map SlotOccurrence.declaration) =
      .ok (template.declared, template.notices) := by
  unfold ofText? at read
  split at read
  · cases read
  · split at read
    · cases read
    · rename_i declared notices collected
      split at read
      · cases read
      · cases read
        exact collected

/-- A template that has been read has exactly the variables that its slots name. -/
theorem mem_names_declared_iff (read : ofText? style t = .ok template) (name : Text) :
    name ∈ Variable.names template.declared ↔ name ∈ Line.slotNames template.lines := by
  have noneBefore : Variable.names [] = [] := rfl
  rw [Variable.mem_names_declareAll_iff (collect_of_ofText? read), noneBefore, List.map_map,
    ← Line.map_name_slots template.style]
  simp only [List.not_mem_nil, false_or]
  rfl

/-- Where every variable is bound, the resolved values are those of the bindings, and a formula
sees nothing but the bindings. -/
theorem resolveAll_of_bound (useDefaults : Bool) {bindings : Bindings} {declared : List Variable}
    (bound : ∀ name ∈ Variable.names declared, (bindings name).isSome) :
    ∃ resolved, resolveAll useDefaults bindings declared = .ok resolved ∧
      (∀ name ∈ Variable.names declared, Bindings.ofList resolved name = bindings name) ∧
      (Bindings.ofList resolved).layered bindings = bindings := by
  induction declared with
  | nil =>
    refine ⟨[], rfl, by simp [Variable.names], ?_⟩
    funext name
    simp [Bindings.layered, Bindings.ofList]
  | cons v rest inductionHypothesis =>
    obtain ⟨first, later⟩ := List.forall_mem_cons.1 bound
    obtain ⟨value, isValue⟩ := Option.isSome_iff_exists.1 first
    obtain ⟨resolved, done, values, scope⟩ := inductionHypothesis later
    have here : Bindings.ofList ((v.name, value) :: resolved) v.name = bindings v.name := by
      simp [Bindings.ofList, isValue]
    have elsewhere : ∀ name, name ≠ v.name →
        Bindings.ofList ((v.name, value) :: resolved) name = Bindings.ofList resolved name := by
      intro name differs
      simp [Bindings.ofList, List.lookup_cons, beq_eq_false_iff_ne.2 differs]
    refine ⟨(v.name, value) :: resolved, by simp [resolveAll, isValue, done], ?_, ?_⟩
    · intro name member
      by_cases same : name = v.name
      · rw [same, here]
      · rw [elsewhere name same]
        exact values name ((List.mem_cons.1 member).resolve_left same)
    · funext name
      by_cases same : name = v.name
      · rw [same, Bindings.layered, here, isValue]
        rfl
      · rw [Bindings.layered, elsewhere name same]
        exact congrFun scope name

end Template

end InputDeck
