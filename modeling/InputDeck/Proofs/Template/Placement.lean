import InputDeck.Proofs.Template.Scanning
import InputDeck.Template.Occurrence

/-!
# Where pieces stand

Every piece of a deck stands where the text before it ends, so places and pieces are found from
each other. Pieces follow one another without overlap, and a slot inside a formula stands between
the delimiters of the formula.
-/

namespace InputDeck

namespace Text

/-- A character takes at least one byte. -/
theorem byteLength_pos_of_ne_nil {t : Text} (nonempty : t ≠ []) : 0 < byteLength t := by
  cases t with
  | nil => exact absurd rfl nonempty
  | cons c rest =>
    have := c.utf8Size_pos
    simp only [byteLength]
    omega

end Text

namespace Span

/-- The bytes of the span are this part of the text, so both ends fall between characters. -/
def Holds (span : Span) (t content : Text) : Prop :=
  ∃ before after, t = before ++ content ++ after ∧ span.start = Text.byteLength before ∧
    span.stop = Text.byteLength before + Text.byteLength content

/-- One of the spans ends before the other begins. -/
def Apart (span other : Span) : Prop := span.stop ≤ other.start ∨ other.stop ≤ span.start

/-- A span lies within another exactly when it begins and ends there. -/
theorem contains_iff (span other : Span) :
    span.contains other = true ↔ span.start ≤ other.start ∧ other.stop ≤ span.stop := by
  simp [contains]

end Span

namespace Position

/-- Behind two texts is behind the second, standing behind the first. -/
theorem advance_append (place : Position) (first second : Text) :
    place.advance (first ++ second) = (place.advance first).advance second := by
  simp [advance, Text.byteLength_append, Nat.add_assoc]

/-- A part of a text that a span holds stands behind the beginning of that text. -/
theorem holds_part {place : Position} {t before content after : Text}
    (holds : (place.span (before ++ content ++ after)).Holds t (before ++ content ++ after)) :
    ((place.advance before).span content).Holds t content := by
  obtain ⟨earlier, later, rfl, start, -⟩ := holds
  refine ⟨earlier ++ before, after ++ later, by simp, ?_, ?_⟩
  · simpa [span, advance, Text.byteLength_append] using start
  · simpa [span, advance, Text.byteLength_append] using start

variable {α : Type} {source : α → Text}

/-- Items stand where the items before them end. -/
theorem locate_append (place : Position) (items more : List α) :
    place.locate source (items ++ more) =
      place.locate source items ++ (place.advance (items.flatMap source)).locate source more := by
  induction items generalizing place with
  | nil => rfl
  | cons item rest inductionHypothesis =>
    simp [locate, inductionHypothesis, advance_append]

/-- A located item splits the items at its place. -/
theorem mem_locate_iff (place : Position) (items : List α) (found : Position) (item : α) :
    (found, item) ∈ place.locate source items ↔
      ∃ before after, items = before ++ item :: after ∧
        found = place.advance (before.flatMap source) := by
  constructor
  · intro member
    induction items generalizing place with
    | nil => simp [locate] at member
    | cons first rest inductionHypothesis =>
      rcases List.mem_cons.1 member with here | later
      · obtain ⟨rfl, rfl⟩ := Prod.mk.inj here
        exact ⟨[], rest, rfl, rfl⟩
      · obtain ⟨before, after, rfl, rfl⟩ := inductionHypothesis _ later
        exact ⟨first :: before, after, rfl, by simp [advance_append]⟩
  · rintro ⟨before, after, rfl, rfl⟩
    simp [locate_append, locate]

/-- Located items lie between the place where they begin and the place behind them. -/
theorem bounds_of_mem_locate {place found : Position} {items : List α} {item : α}
    (member : (found, item) ∈ place.locate source items) :
    place.offset ≤ (found.span (source item)).start ∧
      (found.span (source item)).stop ≤
        place.offset + Text.byteLength (items.flatMap source) := by
  obtain ⟨before, after, rfl, rfl⟩ := (mem_locate_iff _ _ _ _).1 member
  simp only [span, advance, List.flatMap_append, List.flatMap_cons, Text.byteLength_append]
  omega

/-- Located items follow one another without overlap. -/
theorem pairwise_locate (place : Position) (items : List α) :
    (place.locate source items).Pairwise fun first second =>
      (first.1.span (source first.2)).stop ≤ second.1.offset := by
  induction items generalizing place with
  | nil => exact .nil
  | cons item rest inductionHypothesis =>
    refine .cons ?_ (inductionHypothesis _)
    rintro ⟨found, later⟩ member
    exact (bounds_of_mem_locate member).1

end Position

namespace Piece

/-- The slot that a piece is, or one among the parts of a formula. -/
def HasSlot : Piece → Slot → Prop
  | char _, _ => False
  | slot s, other => other = s
  | formula parts, other => .slot other ∈ parts

/-- The slots that are reported of a piece are those that it has, each at its part of the text. -/
theorem exists_slot_part {style : MarkerStyle} {place : Position} {piece : Piece}
    {s : SlotOccurrence} (member : s ∈ piece.slots style place) :
    ∃ (before : Text) (slot : Slot) (after : Text), piece.HasSlot slot ∧
      piece.source style = before ++ slot.source style ++ after ∧
        s = slot.occurrence style (place.advance before) := by
  cases piece with
  | char c => simp [slots] at member
  | slot slot =>
    obtain rfl := List.mem_singleton.1 member
    exact ⟨[], slot, [], rfl, by simp [source], rfl⟩
  | formula parts =>
    obtain ⟨⟨found, part⟩, located, occurs⟩ := List.mem_filterMap.1 member
    cases part with
    | char c => simp at occurs
    | slot slot =>
      obtain rfl := Option.some.inj occurs
      obtain ⟨before, after, rfl, rfl⟩ := (Position.mem_locate_iff _ _ _ _).1 located
      refine ⟨[style.formulaMark, style.openDelimiter] ++ body style before, slot,
        body style after ++ [style.closeDelimiter], by simp [HasSlot],
        by simp [source, body, Part.source], ?_⟩
      rw [Position.advance_append]
      rfl

/-- The slots of a piece are parts of its text. -/
theorem slot_part {style : MarkerStyle} {place : Position} {piece : Piece} {s : SlotOccurrence}
    (member : s ∈ piece.slots style place) :
    ∃ (before : Text) (slot : Slot) (after : Text),
      piece.source style = before ++ slot.source style ++ after ∧
        s = slot.occurrence style (place.advance before) := by
  obtain ⟨before, slot, after, -, written, occurs⟩ := exists_slot_part member
  exact ⟨before, slot, after, written, occurs⟩

/-- The slots of a formula are parts of its body. -/
theorem slot_part_of_body {style : MarkerStyle} {place : Position} {parts : List Part}
    {s : SlotOccurrence} (member : s ∈ (formula parts).slots style place) :
    ((place.advance [style.formulaMark, style.openDelimiter]).span
      (body style parts)).contains s.span = true := by
  obtain ⟨⟨found, part⟩, located, occurs⟩ := List.mem_filterMap.1 member
  cases part with
  | char c => simp at occurs
  | slot slot =>
    obtain rfl := Option.some.inj occurs
    exact (Span.contains_iff _ _).2 (Position.bounds_of_mem_locate located)

/-- The slots of a piece lie within it. -/
theorem bounds_of_mem_slots {style : MarkerStyle} {place : Position} {piece : Piece}
    {s : SlotOccurrence} (member : s ∈ piece.slots style place) :
    place.offset ≤ s.span.start ∧ s.span.stop ≤ (place.span (piece.source style)).stop := by
  obtain ⟨before, slot, after, written, rfl⟩ := slot_part member
  simp only [Slot.occurrence, Position.span, Position.advance, written, Text.byteLength_append]
  omega

/-- The slots of a piece follow one another without overlap. -/
theorem pairwise_slots (style : MarkerStyle) (place : Position) (piece : Piece) :
    (piece.slots style place).Pairwise fun first second =>
      first.span.stop ≤ second.span.start := by
  cases piece with
  | char c => exact .nil
  | slot s => exact List.pairwise_singleton _ _
  | formula parts =>
    refine List.Pairwise.filterMap _ ?_ (Position.pairwise_locate _ parts)
    rintro ⟨here, part⟩ ⟨below, other⟩ follows first firstOccurs second secondOccurs
    cases part with
    | char c => simp at firstOccurs
    | slot s =>
      cases other with
      | char c => simp at secondOccurs
      | slot s' =>
        obtain rfl := Option.some.inj firstOccurs
        obtain rfl := Option.some.inj secondOccurs
        exact follows

/-- A piece is a formula or has none. -/
theorem mem_formulas_iff (style : MarkerStyle) (place : Position) (piece : Piece)
    (f : FormulaOccurrence) :
    f ∈ piece.formulas style place ↔ ∃ parts, piece = .formula parts ∧
      f = ⟨expression style parts, place.span (piece.source style),
        (place.advance [style.formulaMark, style.openDelimiter]).span (body style parts),
        place.line, place.column⟩ := by
  cases piece with
  | char c => simp [formulas]
  | slot s => simp [formulas]
  | formula parts =>
    constructor
    · intro member
      exact ⟨parts, rfl, List.mem_singleton.1 member⟩
    · rintro ⟨_, same, rfl⟩
      cases same
      exact List.mem_singleton.2 rfl

end Piece

namespace Line

/-- A located piece splits the lines at its line and the pieces of the line at its place. -/
theorem mem_located_iff (style : MarkerStyle) (offset number : Nat) (lines : List Line)
    (place : Position) (piece : Piece) :
    (place, piece) ∈ located style offset number lines ↔
      ∃ earlier line later before after, lines = earlier ++ line :: later ∧
        line.pieces = before ++ piece :: after ∧
        place = Position.advance
          ⟨offset + Text.byteLength (earlier.flatMap (source style)), number + earlier.length, 1⟩
          (before.flatMap (Piece.source style)) := by
  constructor
  · intro member
    induction lines generalizing offset number with
    | nil => simp [located] at member
    | cons line rest inductionHypothesis =>
      rcases List.mem_append.1 member with here | below
      · obtain ⟨before, after, pieces, rfl⟩ := (Position.mem_locate_iff _ _ _ _).1 here
        exact ⟨[], line, rest, before, after, rfl, pieces, by simp [Text.byteLength]⟩
      · obtain ⟨earlier, found, later, before, after, rfl, pieces, rfl⟩ :=
          inductionHypothesis _ _ below
        refine ⟨line :: earlier, found, later, before, after, rfl, pieces, ?_⟩
        simp [Text.byteLength_append, Nat.add_assoc, Nat.add_comm 1]
  · rintro ⟨earlier, line, later, before, after, rfl, pieces, rfl⟩
    induction earlier generalizing offset number with
    | nil =>
      refine List.mem_append_left _ ((Position.mem_locate_iff _ _ _ _).2 ?_)
      exact ⟨before, after, pieces, by simp [Text.byteLength]⟩
    | cons first rest inductionHypothesis =>
      refine List.mem_append_right _ ?_
      have below := inductionHypothesis (offset + Text.byteLength (first.source style))
        (number + 1)
      simpa [Text.byteLength_append, Nat.add_assoc, Nat.add_comm 1] using below

/-- Located pieces lie between the offset of the first line and the end of the last. -/
theorem bounds_of_mem_located {style : MarkerStyle} {offset number : Nat} {lines : List Line}
    {place : Position} {piece : Piece}
    (member : (place, piece) ∈ located style offset number lines) :
    offset ≤ (place.span (piece.source style)).start ∧
      (place.span (piece.source style)).stop ≤
        offset + Text.byteLength (lines.flatMap (source style)) := by
  obtain ⟨earlier, line, later, before, after, rfl, pieces, rfl⟩ :=
    (mem_located_iff _ _ _ _ _ _).1 member
  simp only [Position.span, Position.advance, source, pieces, List.flatMap_append,
    List.flatMap_cons, Text.byteLength_append]
  omega

/-- The pieces of a deck follow one another without overlap, from line to line as well. -/
theorem pairwise_located (style : MarkerStyle) (offset number : Nat) (lines : List Line) :
    (located style offset number lines).Pairwise fun first second =>
      (first.1.span (first.2.source style)).stop ≤ second.1.offset := by
  induction lines generalizing offset number with
  | nil => exact .nil
  | cons line rest inductionHypothesis =>
    refine List.pairwise_append.2
      ⟨Position.pairwise_locate _ _, inductionHypothesis _ _, ?_⟩
    rintro ⟨here, piece⟩ onLine ⟨below, other⟩ later
    have upper := (Position.bounds_of_mem_locate onLine).2
    have lower := (bounds_of_mem_located later).1
    simp only [Position.span, source, Text.byteLength_append] at upper lower ⊢
    omega

/-- The text of a located piece stands at its place. -/
theorem holds_of_mem_located {style : MarkerStyle} {lines : List Line} {place : Position}
    {piece : Piece} (member : (place, piece) ∈ located style 0 1 lines) :
    (place.span (piece.source style)).Holds (lines.flatMap (source style))
      (piece.source style) := by
  obtain ⟨earlier, line, later, before, after, rfl, pieces, rfl⟩ :=
    (mem_located_iff _ _ _ _ _ _).1 member
  refine ⟨earlier.flatMap (source style) ++ before.flatMap (Piece.source style),
    after.flatMap (Piece.source style) ++ line.ending ++ later.flatMap (source style), ?_, ?_, ?_⟩
  · simp [source, pieces]
  · simp [Position.span, Position.advance, Text.byteLength_append]
  · simp [Position.span, Position.advance, Text.byteLength_append]

/-- Slots are found in the located pieces. -/
theorem mem_slots_iff (style : MarkerStyle) (lines : List Line) (s : SlotOccurrence) :
    s ∈ slots style lines ↔
      ∃ place piece, (place, piece) ∈ located style 0 1 lines ∧ s ∈ piece.slots style place := by
  simp [slots, List.mem_flatMap]

/-- Formulas are found in the located pieces. -/
theorem mem_formulas_iff (style : MarkerStyle) (lines : List Line) (f : FormulaOccurrence) :
    f ∈ formulas style lines ↔
      ∃ place piece, (place, piece) ∈ located style 0 1 lines ∧
        f ∈ piece.formulas style place := by
  simp [formulas, List.mem_flatMap]

/-- Two located pieces are the same or apart. -/
theorem located_eq_or_apart {style : MarkerStyle} {offset number : Nat} {lines : List Line}
    {first second : Position × Piece} (firstMember : first ∈ located style offset number lines)
    (secondMember : second ∈ located style offset number lines) :
    first = second ∨
      (first.1.span (first.2.source style)).Apart (second.1.span (second.2.source style)) := by
  have ordered := pairwise_located style offset number lines
  refine List.Pairwise.forall_of_forall_of_flip
    (R := fun first second => first = second ∨
      (first.1.span (first.2.source style)).Apart (second.1.span (second.2.source style)))
    (fun _ _ => .inl rfl) (ordered.imp ?_) (ordered.imp ?_) firstMember secondMember
  · intro first second follows
    exact .inr (.inl follows)
  · intro first second follows
    exact .inr (.inr follows)

end Line

end InputDeck
