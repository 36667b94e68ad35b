import Mathlib.Data.List.Basic
import InputDeck.Proofs.Sorting
import InputDeck.Proofs.Template.Filling

/-!
# The markers of a deck

Formulas are gathered first and then the slots outside of all formulas; sorted by where they begin
they are the markers that stand in no other marker. The pieces of the deck hold the same markers in
the order of the text, each with the same new text, so every lookup for a new text succeeds.
-/

namespace InputDeck

/-- A slot or a formula in a deck. -/
inductive Marker where
  | slot (s : SlotOccurrence)
  | formula (f : FormulaOccurrence)

/-- The number that stands for a slot inside a formula, if there is a value of its name. -/
def numberOf? (resolved : List (Text × Value)) (name : Text) :
    Option (Except Formula.EvalError Text) :=
  (resolved.lookup name).map (Piece.fillNumber name)

namespace Marker

/-- The bytes of a marker. -/
def span : Marker → Span
  | slot s => s.span
  | formula f => f.span

section

variable (t : Text) (slots : List SlotOccurrence) (resolved : List (Text × Value))
  (bindings : Bindings)

/-- The text that takes the place of a marker. -/
def newText? : Marker → Option (Except TemplateError Text)
  | slot s => (resolved.lookup s.name).map fun v => .ok v.render
  | formula f =>
    match f.filled? t slots (numberOf? resolved) with
    | none => none
    | some (.error cause) => some (.error (.formula f.expression f.line cause))
    | some (.ok source) =>
      match Formula.evaluate source ((Bindings.ofList resolved).layered bindings) with
      | .error (.unbound name) => some (.error (.unresolved name))
      | .error cause => some (.error (.formula f.expression f.line cause))
      | .ok v => some (.ok v.render)

/-- The new text of a marker: that of the value of its variable or of its formula. -/
inductive Becomes : Marker → Text → Prop
  | slot {s : SlotOccurrence} {v : Value} (found : resolved.lookup s.name = some v) :
      Becomes (.slot s) v.render
  | formula {f : FormulaOccurrence} {source : Text} {v : Value}
      (filled : f.filled? t slots (numberOf? resolved) = some (.ok source))
      (evaluated :
        Formula.evaluate source ((Bindings.ofList resolved).layered bindings) = .ok v) :
      Becomes (.formula f) v.render

end

end Marker

namespace Template

/-- The formulas of a deck and behind them the slots outside of all formulas. -/
def gathered (template : Template) : List Marker :=
  template.formulas.map .formula
    ++ (template.slots.filter fun s =>
      !template.formulas.any fun f => f.body.contains s.span).map .slot

/-- The markers that stand in no other marker, in the order of the text. -/
def topMarkers (template : Template) : List Marker :=
  template.gathered.mergeSort fun first second => first.span.start ≤ second.span.start

end Template

/-- What one of two tests selects, behind what the other selects, is what either selects. -/
theorem filterMap_append_perm {α β : Type} {first second either : α → Option β}
    (exclusive : ∀ a, first a = none ∧ either a = second a ∨
      second a = none ∧ either a = first a) (items : List α) :
    (items.filterMap first ++ items.filterMap second).Perm (items.filterMap either) := by
  induction items with
  | nil => exact .nil
  | cons item rest inductionHypothesis =>
    rw [List.filterMap_cons, List.filterMap_cons, List.filterMap_cons]
    rcases exclusive item with ⟨missing, same⟩ | ⟨missing, same⟩
    · rw [missing, same]
      cases second item with
      | none => exact inductionHypothesis
      | some selected => exact List.perm_middle.trans (inductionHypothesis.cons selected)
    · rw [missing, same]
      cases first item with
      | none => exact inductionHypothesis
      | some selected => exact inductionHypothesis.cons selected

/-- No piece is empty. -/
theorem Piece.source_ne_nil (style : MarkerStyle) (piece : Piece) : piece.source style ≠ [] := by
  cases piece <;> exact List.cons_ne_nil _ _

section Located

variable (style : MarkerStyle)

/-- The marker that a located slot is. -/
def slotMarker? : Position × Piece → Option Marker
  | (place, .slot s) => some (.slot (s.occurrence style place))
  | _ => none

/-- The marker that a located formula is. -/
def formulaMarker? : Position × Piece → Option Marker
  | (place, .formula parts) => some (.formula (Piece.formulaOccurrence style place parts))
  | _ => none

/-- The marker that a located piece is, unless it is a character. -/
def marker? : Position × Piece → Option Marker
  | (_, .char _) => none
  | (place, .slot s) => some (.slot (s.occurrence style place))
  | (place, .formula parts) => some (.formula (Piece.formulaOccurrence style place parts))

/-- A marker spans the text of its piece. -/
theorem span_of_marker? {found : Position × Piece} {m : Marker}
    (isMarker : marker? style found = some m) :
    m.span = found.1.span (found.2.source style) := by
  obtain ⟨place, piece⟩ := found
  cases piece with
  | char c => cases isMarker
  | slot s =>
    cases isMarker
    rfl
  | formula parts =>
    cases isMarker
    rfl

/-- The formulas among located pieces. -/
theorem map_formulas_located (located : List (Position × Piece)) :
    (located.flatMap fun (place, piece) => piece.formulas style place).map Marker.formula =
      located.filterMap (formulaMarker? style) := by
  induction located with
  | nil => rfl
  | cons found rest inductionHypothesis =>
    rw [List.flatMap_cons, List.map_append, inductionHypothesis]
    obtain ⟨place, piece⟩ := found
    cases piece <;> rfl

/-- A slot that is a piece of its own stands in the body of no formula. -/
theorem outside_of_located_slot {lines : List Line} {place : Position} {s : Slot}
    (member : (place, .slot s) ∈ Line.located style 0 1 lines) :
    ((Line.formulas style lines).any fun f =>
      f.body.contains (s.occurrence style place).span) = false := by
  apply List.any_eq_false.2
  intro f formulaMember
  obtain ⟨other, piece, located, formulaOf⟩ := (Line.mem_formulas_iff _ _ _).1 formulaMember
  obtain ⟨parts, rfl, rfl⟩ := (Piece.mem_formulas_iff _ _ _ _).1 formulaOf
  rcases Line.located_eq_or_apart member located with same | apart
  · cases same
  · exact not_inside_of_apart style (List.mem_singleton_self _) apart

/-- The slots outside of formulas are the slots among the located pieces: one that stands in
another located piece is a slot of a formula and lies in its body. -/
theorem map_slots_located (lines : List Line) :
    ((Line.slots style lines).filter fun s =>
        !(Line.formulas style lines).any fun f => f.body.contains s.span).map Marker.slot =
      (Line.located style 0 1 lines).filterMap (slotMarker? style) := by
  rw [Line.slots, List.filter_flatMap, List.map_flatMap, List.filterMap_eq_flatMap_toList]
  refine List.flatMap_congr ?_
  rintro ⟨place, piece⟩ member
  cases piece with
  | char c => rfl
  | slot s => simp [Piece.slots, slotMarker?, outside_of_located_slot style member]
  | formula parts =>
    have inside : ∀ s ∈ (Piece.formula parts).slots style place,
        ((Line.formulas style lines).any fun f => f.body.contains s.span) = true := by
      intro s slotMember
      apply List.any_eq_true.2
      exact ⟨_, formulaOccurrence_mem member, Piece.slot_part_of_body slotMember⟩
    rw [List.filter_eq_nil_iff.2 fun s slotMember => by simp [inside s slotMember]]
    rfl

end Located

namespace Template

variable {style : MarkerStyle} {t : Text} {template : Template} {useDefaults : Bool}
  {bindings : Bindings} {resolved : List (Text × Value)}

/-- What is gathered from a template are the formulas among its pieces and behind them the
slots. -/
theorem gathered_eq (template : Template) :
    template.gathered = template.located.filterMap (formulaMarker? template.style) ++
      template.located.filterMap (slotMarker? template.style) := by
  rw [gathered, formulas, Line.formulas, map_formulas_located, slots]
  exact congrArg (_ ++ ·) (map_slots_located template.style template.lines)

/-- The markers gathered from a template are those of its pieces in another order. -/
theorem gathered_perm (template : Template) :
    template.gathered.Perm (template.located.filterMap (marker? template.style)) := by
  rw [gathered_eq]
  refine filterMap_append_perm ?_ _
  rintro ⟨place, piece⟩
  cases piece with
  | char c => exact .inl ⟨rfl, rfl⟩
  | slot s => exact .inl ⟨rfl, rfl⟩
  | formula parts => exact .inr ⟨rfl, rfl⟩

/-- Markers of pieces follow one another. -/
theorem ascending_markers (template : Template) :
    (template.located.filterMap (marker? template.style)).Pairwise fun first second =>
      first.span.start < second.span.start := by
  refine List.Pairwise.filterMap _ ?_
    (Line.pairwise_located template.style 0 1 template.lines)
  intro first second follows m isFirst m' isSecond
  rw [span_of_marker? _ isFirst, span_of_marker? _ isSecond]
  have positive := Text.byteLength_pos_of_ne_nil (Piece.source_ne_nil template.style first.2)
  simp only [Position.span] at follows ⊢
  omega

/-- The markers that stand in no other marker are those of the pieces, in their order. -/
theorem topMarkers_eq (template : Template) :
    template.topMarkers = template.located.filterMap (marker? template.style) :=
  mergeSort_eq_of_perm (fun m : Marker => m.span.start) (fun _ _ => decide_eq_true_iff)
    template.gathered_perm template.ascending_markers

/-- Every slot of a formula of a template has a value. -/
theorem Reads.exists_lookup_of_part (reads : template.Reads style t)
    (done : template.resolve useDefaults bindings = .ok resolved) {place : Position}
    {parts : List Part} (member : (place, .formula parts) ∈ template.located) {s : Slot}
    (part : .slot s ∈ parts) : ∃ v, resolved.lookup s.name = some v := by
  obtain ⟨before, after, split⟩ := List.append_of_mem part
  let inside := place.advance [template.style.formulaMark, template.style.openDelimiter]
  let here := inside.advance (before.flatMap (Part.source template.style))
  have located : (here, Part.slot s) ∈ inside.locate (Part.source template.style) parts :=
    (Position.mem_locate_iff _ _ _ _).2 ⟨before, after, split, rfl⟩
  have occurs : s.occurrence template.style here ∈
      (Piece.formula parts).slots template.style place :=
    List.mem_filterMap.2 ⟨_, located, rfl⟩
  exact reads.exists_lookup done ((Line.mem_slots_iff _ _ _).2 ⟨place, _, member, occurs⟩)

/-- The text that takes the place of a marker is the one that takes the place of its piece. -/
theorem Reads.newText?_eq (reads : template.Reads style t)
    (done : template.resolve useDefaults bindings = .ok resolved) {found : Position × Piece}
    (member : found ∈ template.located) {m : Marker}
    (isMarker : marker? template.style found = some m) :
    m.newText? template.text template.slots resolved bindings =
      found.2.compiled? template.style found.1.line resolved bindings := by
  obtain ⟨place, piece⟩ := found
  cases piece with
  | char c => cases isMarker
  | slot s =>
    cases isMarker
    have slotMember : s.occurrence template.style place ∈ template.slots :=
      (Line.mem_slots_iff _ _ _).2 ⟨place, _, member, List.mem_singleton_self _⟩
    obtain ⟨v, found⟩ := reads.exists_lookup done slotMember
    have name : (s.occurrence template.style place).name = s.name := rfl
    rw [name] at found
    simp [Marker.newText?, Piece.compiled?, name, found, Bindings.ofList]
  | formula parts =>
    cases isMarker
    have known : ∀ s, .slot s ∈ parts → numberOf? resolved s.name =
        some (Piece.fillNumber s.name ((Bindings.ofList resolved s.name).getD default)) := by
      intro s part
      obtain ⟨v, found⟩ := reads.exists_lookup_of_part done member part
      simp [numberOf?, Bindings.ofList, found]
    have filledWith : (Piece.formulaOccurrence template.style place parts).filled? template.text
          template.slots (numberOf? resolved) =
        some ((Piece.fill (fun name =>
          Piece.fillNumber name ((Bindings.ofList resolved name).getD default)) parts).map
            Text.trim) := filled?_eq member known
    rw [Marker.newText?, filledWith, Piece.compiled?, Piece.evaluate]
    cases filled : Piece.fill (fun name =>
        Piece.fillNumber name ((Bindings.ofList resolved name).getD default)) parts with
    | error cause =>
      obtain ⟨s, -, failed⟩ := Piece.exists_slot_of_fill filled
      obtain ⟨fault, rfl⟩ | ⟨name, content, rfl⟩ := Piece.cause_of_fillNumber failed
      · rfl
      · rfl
    | ok source =>
      simp only [Except.map]
      cases Formula.evaluate (Text.trim source) ((Bindings.ofList resolved).layered bindings) with
      | error cause => cases cause <;> rfl
      | ok v => rfl

/-- A marker becomes the text that is made for it. -/
theorem becomes_of_newText? {t : Text} {slots : List SlotOccurrence} {m : Marker} {new : Text}
    (made : m.newText? t slots resolved bindings = some (.ok new)) :
    m.Becomes t slots resolved bindings new := by
  cases m with
  | slot s =>
    obtain ⟨v, found, written⟩ := Option.map_eq_some_iff.1 made
    cases written
    exact .slot found
  | formula f =>
    simp only [Marker.newText?] at made
    split at made
    · cases made
    · cases made
    · rename_i source filled
      split at made
      · cases made
      · cases made
      · rename_i v evaluated
        cases made
        exact .formula filled evaluated

end Template

end InputDeck
