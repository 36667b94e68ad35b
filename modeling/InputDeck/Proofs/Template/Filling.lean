import InputDeck.Proofs.Template.Compilation
import InputDeck.Text.Slices

/-!
# Filling formulas by offsets

The text of a formula with something in the place of its slots can be made by slicing its body at
the spans of the slots that the body contains. Slices and fillings might not exist, so this is
partial; on a scanned deck every slice exists and the result is the formula filled part by part.
-/

namespace InputDeck

/-- The text from an offset up to `stop` with fillings in the place of slots, or the error of the
first slot that has none. -/
def fillFrom? (t : Text) (stop : Nat)
    (fillSlot? : Text → Option (Except Formula.EvalError Text)) :
    Nat → List SlotOccurrence → Option (Except Formula.EvalError Text)
  | last, [] => (t.slice? last stop).map .ok
  | last, s :: rest =>
    match t.slice? last s.span.start, fillSlot? s.name with
    | some _, some (.error cause) => some (.error cause)
    | some gap, some (.ok filling) =>
      (fillFrom? t stop fillSlot? s.span.stop rest).map (Except.map (gap ++ filling ++ ·))
    | _, _ => none

/-- The text of a formula with fillings in the place of the slots that its body contains. -/
def FormulaOccurrence.filled? (t : Text) (slots : List SlotOccurrence)
    (fillSlot? : Text → Option (Except Formula.EvalError Text)) (f : FormulaOccurrence) :
    Option (Except Formula.EvalError Text) :=
  (fillFrom? t f.body.stop fillSlot? f.body.start (slots.filter (f.body.contains ·.span))).map
    (Except.map Text.trim)

/-- Checks formulas by offsets, with zero in the place of every slot. -/
def checkFormulas? (t : Text) (slots : List SlotOccurrence) :
    List FormulaOccurrence → Option (Except TemplateError Unit)
  | [] => some (.ok ())
  | f :: rest =>
    match f.filled? t slots (fun _ => some (.ok ['(', '0', ')'])) with
    | none => none
    | some (.error cause) => some (.error (.formula f.expression f.line cause))
    | some (.ok source) =>
      match Formula.parse source with
      | .error fault => some (.error (.formula f.expression f.line (.malformed fault)))
      | .ok _ => checkFormulas? t slots rest

/-- The formula with these parts, standing at a place. -/
def Piece.formulaOccurrence (style : MarkerStyle) (place : Position) (parts : List Part) :
    FormulaOccurrence :=
  ⟨expression style parts, place.span ((Piece.formula parts).source style),
    (place.advance [style.formulaMark, style.openDelimiter]).span (body style parts),
    place.line, place.column⟩

variable (style : MarkerStyle)

/-- A character of a body is no slot. -/
theorem Part.occurrences_char (place : Position) (c : Char) (rest : List Part) :
    Part.occurrences style place (.char c :: rest) =
      Part.occurrences style (place.advance [c]) rest := rfl

/-- A slot of a body comes before the slots behind it. -/
theorem Part.occurrences_slot (place : Position) (s : Slot) (rest : List Part) :
    Part.occurrences style place (.slot s :: rest) =
      s.occurrence style place ::
        Part.occurrences style (place.advance (s.source style)) rest := rfl

/-- Slices of a body put its text together with fillings in the place of the slots. The text that
is copied before the next slot joins the gap in front of it. -/
theorem fillFrom?_occurrences {fillSlot? : Text → Option (Except Formula.EvalError Text)}
    {fillSlot : Text → Except Formula.EvalError Text} (parts : List Part)
    (known : ∀ s, .slot s ∈ parts → fillSlot? s.name = some (fillSlot s.name))
    (place : Position) (before copied behind : Text)
    (placed : place.offset = Text.byteLength (before ++ copied)) :
    fillFrom? (before ++ copied ++ Piece.body style parts ++ behind)
        (Text.byteLength (before ++ copied ++ Piece.body style parts)) fillSlot?
        (Text.byteLength before) (Part.occurrences style place parts) =
      some ((Piece.fill fillSlot parts).map (copied ++ ·)) := by
  induction parts generalizing place before copied with
  | nil =>
    have sliced : Text.slice? (before ++ copied ++ behind) (Text.byteLength before)
        (Text.byteLength (before ++ copied)) = some copied :=
      (Text.slice?_eq_some_iff _ _ _ _).2
        ⟨before, behind, rfl, rfl, Text.byteLength_append _ _⟩
    have empty : Piece.body style [] = [] := rfl
    rw [empty, List.append_nil, Part.occurrences, Position.locate, List.filterMap_nil, fillFrom?,
      sliced]
    simp [Piece.fill, Except.map]
  | cons part rest inductionHypothesis =>
    have knownLater : ∀ s, .slot s ∈ rest → fillSlot? s.name = some (fillSlot s.name) :=
      fun s member => known s (List.mem_cons_of_mem _ member)
    cases part with
    | char c =>
      have later := inductionHypothesis knownLater (place.advance [c]) before (copied ++ [c])
        (by simp [Position.advance, placed, Text.byteLength_append, Nat.add_assoc])
      have written : before ++ copied ++ Piece.body style (.char c :: rest) =
          before ++ (copied ++ [c]) ++ Piece.body style rest := by
        simp [Piece.body, Part.source]
      rw [Part.occurrences_char, written, later, Piece.fill]
      cases Piece.fill fillSlot rest <;> simp [Except.map]
    | slot s =>
      have filling := known s List.mem_cons_self
      have sliced : Text.slice? (before ++ copied ++ Piece.body style (.slot s :: rest) ++ behind)
          (Text.byteLength before) place.offset = some copied :=
        (Text.slice?_eq_some_iff _ _ _ _).2 ⟨before, Piece.body style (.slot s :: rest) ++ behind,
          by simp, rfl, by rw [placed, Text.byteLength_append]⟩
      have later := inductionHypothesis knownLater (place.advance (s.source style))
        (before ++ copied ++ s.source style) []
        (by simp [Position.advance, placed, Text.byteLength_append, Nat.add_assoc])
      have written : before ++ copied ++ Piece.body style (.slot s :: rest) =
          before ++ copied ++ s.source style ++ [] ++ Piece.body style rest := by
        simp [Piece.body, Part.source]
      have start : (s.occurrence style place).span.start = place.offset := rfl
      have stop : (s.occurrence style place).span.stop =
          Text.byteLength (before ++ copied ++ s.source style) := by
        simp [Slot.occurrence, Position.span, placed, Text.byteLength_append, Nat.add_assoc]
      have name : (s.occurrence style place).name = s.name := rfl
      simp only [Part.occurrences_slot, fillFrom?, start, name, sliced, filling, Piece.fill]
      cases fillSlot s.name with
      | error cause => rfl
      | ok filling =>
        simp only [stop]
        rw [written, later]
        cases Piece.fill fillSlot rest <;> simp [Except.map]

/-- The body of a formula contains no slot of a piece apart from the formula. -/
theorem not_inside_of_apart {place other : Position} {piece : Piece} {parts : List Part}
    {s : SlotOccurrence} (slotOf : s ∈ piece.slots style place)
    (apart : (place.span (piece.source style)).Apart
      (other.span ((Piece.formula parts).source style))) :
    ¬(Piece.formulaOccurrence style other parts).body.contains s.span = true := by
  intro inside
  obtain ⟨lower, upper⟩ := Piece.bounds_of_mem_slots slotOf
  obtain ⟨before, slot, after, -, rfl⟩ := Piece.slot_part slotOf
  obtain ⟨below, above⟩ := (Span.contains_iff _ _).1 inside
  have positive := Text.byteLength_pos_of_ne_nil (List.cons_ne_nil style.variableMark
    (style.openDelimiter :: (slot.body ++ [style.closeDelimiter])))
  simp only [Span.Apart, Position.span, Position.advance, Piece.source, Slot.occurrence,
    Slot.source, Piece.formulaOccurrence, Text.byteLength, Text.byteLength_append]
    at apart lower upper below above positive
  omega

section Located

variable {style} {lines : List Line} {place : Position} {parts : List Part}
  (member : (place, .formula parts) ∈ Line.located style 0 1 lines)

include member

/-- A located formula is one of the formulas of the lines. -/
theorem formulaOccurrence_mem :
    Piece.formulaOccurrence style place parts ∈ Line.formulas style lines :=
  (Line.mem_formulas_iff _ _ _).2 ⟨place, _, member, List.mem_singleton_self _⟩

/-- The slots that the body of a formula contains are the slots of the formula. -/
theorem filter_slots_located :
    (Line.slots style lines).filter
        ((Piece.formulaOccurrence style place parts).body.contains ·.span) =
      (Piece.formula parts).slots style place := by
  obtain ⟨earlier, later, split⟩ := List.append_of_mem member
  have ordered := Line.pairwise_located style 0 1 lines
  rw [split] at ordered
  obtain ⟨-, inner, outer⟩ := List.pairwise_append.1 ordered
  have outside : ∀ found : Position × Piece, (found.1.span (found.2.source style)).Apart
      (place.span ((Piece.formula parts).source style)) →
      (found.2.slots style found.1).filter
        ((Piece.formulaOccurrence style place parts).body.contains ·.span) = [] :=
    fun found apart => List.filter_eq_nil_iff.2 fun s slotMember =>
      not_inside_of_apart style slotMember apart
  have own : ((Piece.formula parts).slots style place).filter
      ((Piece.formulaOccurrence style place parts).body.contains ·.span) =
      (Piece.formula parts).slots style place :=
    List.filter_eq_self.2 fun s slotMember => Piece.slot_part_of_body slotMember
  rw [Line.slots, split, List.filter_flatMap, List.flatMap_append, List.flatMap_cons, own,
    List.flatMap_eq_nil_iff.2 fun found foundMember =>
      outside found (.inl (outer found foundMember _ List.mem_cons_self)),
    List.flatMap_eq_nil_iff.2 fun found foundMember =>
      outside found (.inr (List.rel_of_pairwise_cons inner foundMember)),
    List.append_nil, List.nil_append]

/-- Slicing the body of a formula of a deck fills the formula. -/
theorem filled?_eq {fillSlot? : Text → Option (Except Formula.EvalError Text)}
    {fillSlot : Text → Except Formula.EvalError Text}
    (known : ∀ s, .slot s ∈ parts → fillSlot? s.name = some (fillSlot s.name)) :
    (Piece.formulaOccurrence style place parts).filled? (lines.flatMap (Line.source style))
        (Line.slots style lines) fillSlot? =
      some ((Piece.fill fillSlot parts).map Text.trim) := by
  have holds := Line.holds_of_mem_located member
  have enclosed : (Piece.formula parts).source style =
      [style.formulaMark, style.openDelimiter] ++ Piece.body style parts ++
        [style.closeDelimiter] := by
    simp [Piece.source]
  rw [enclosed] at holds
  obtain ⟨before, after, written, start, stop⟩ := Position.holds_part holds
  have sliced := fillFrom?_occurrences style parts known
    (place.advance [style.formulaMark, style.openDelimiter]) before [] after
    (by simpa [Position.span] using start)
  have bodyStart : (Piece.formulaOccurrence style place parts).body.start =
      Text.byteLength before := start
  have bodyStop : (Piece.formulaOccurrence style place parts).body.stop =
      Text.byteLength (before ++ [] ++ Piece.body style parts) := by
    rw [List.append_nil, Text.byteLength_append]
    exact stop
  have inside : (Line.slots style lines).filter
        ((Piece.formulaOccurrence style place parts).body.contains ·.span) =
      Part.occurrences style (place.advance [style.formulaMark, style.openDelimiter]) parts :=
    filter_slots_located member
  rw [List.append_nil] at sliced bodyStop
  rw [FormulaOccurrence.filled?, inside, bodyStart, bodyStop, written, sliced]
  cases Piece.fill fillSlot parts <;> rfl

end Located

/-- Checking formulas by offsets is checking the lines: it goes through the located pieces, and
the formulas among the first of them have passed. -/
theorem checkFormulas?_eq (lines : List Line) :
    checkFormulas? (lines.flatMap (Line.source style)) (Line.slots style lines)
        (Line.formulas style lines) =
      some (Template.checkLines style 1 lines) := by
  rw [Template.checkLines_eq style 0 1 lines, Line.formulas]
  have each : ∀ ms : List (Position × Piece), (∀ found ∈ ms, found ∈ Line.located style 0 1 lines) →
      checkFormulas? (lines.flatMap (Line.source style)) (Line.slots style lines)
          (ms.flatMap fun found => found.2.formulas style found.1) =
        some (outcomeOf (ms.findSome? fun found =>
          Template.checkFailure? style found.1.line found.2) ()) := by
    intro ms members
    induction ms with
    | nil => rfl
    | cons found rest inductionHypothesis =>
      obtain ⟨place, piece⟩ := found
      have later := inductionHypothesis fun found member =>
        members found (List.mem_cons_of_mem _ member)
      rw [List.flatMap_cons, List.findSome?_cons]
      cases piece with
      | char c => exact later
      | slot s => exact later
      | formula parts =>
        have filled : (Piece.formulaOccurrence style place parts).filled?
            (lines.flatMap (Line.source style)) (Line.slots style lines)
            (fun _ => some (.ok ['(', '0', ')'])) =
          some ((Piece.fill (fun _ => .ok ['(', '0', ')']) parts).map Text.trim) :=
          filled?_eq (members _ List.mem_cons_self) fun _ _ => rfl
        change checkFormulas? _ _ (Piece.formulaOccurrence style place parts :: _) = _
        rw [checkFormulas?, filled, Template.checkFailure?, Piece.checked]
        cases filledWith : Piece.fill (fun _ => .ok ['(', '0', ')']) parts with
        | error cause =>
          obtain ⟨s, -, impossible⟩ := Piece.exists_slot_of_fill filledWith
          cases impossible
        | ok source =>
          simp only [Except.map]
          cases Formula.parse (Text.trim source) with
          | error fault => rfl
          | ok e => exact later
  exact each _ fun _ member => member

end InputDeck
