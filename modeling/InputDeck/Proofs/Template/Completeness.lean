import InputDeck.Proofs.Template.Nesting

/-!
# Every marker is reported

Wherever a prefix stands before the opening delimiter on a line that is no comment, something is
reported: a marker that begins there, or a slot that reaches over it. And what is reported begins
at such a place.
-/

namespace InputDeck

/-- The prefixes are no delimiters. -/
theorem MarkerStyle.not_delimiter_of_mark {style : MarkerStyle} {mark : Char}
    (isMark : mark = style.variableMark ∨ mark = style.formulaMark) :
    mark ≠ style.openDelimiter ∧ mark ≠ style.closeDelimiter := by
  rcases isMark with rfl | rfl
  · exact style.variableMark_not_delimiter
  · exact style.formulaMark_not_delimiter

/-- A prefix that opens does not stand at a character where no marker begins, but behind it. -/
theorem MarkerStyle.exists_behind_plain {style : MarkerStyle} {mark c : Char}
    {rest before after : Text} (isMark : mark = style.variableMark ∨ mark = style.formulaMark)
    (plain : style.opening? c rest = none)
    (written : c :: rest = before ++ mark :: style.openDelimiter :: after) :
    ∃ later, before = [c] ++ later ∧ rest = later ++ mark :: style.openDelimiter :: after := by
  cases before with
  | nil =>
    obtain ⟨rfl, opens⟩ := List.cons.inj written
    obtain ⟨notVariable, notFormula⟩ := (style.opening?_eq_none_iff _ _).1 plain _ opens
    exact (isMark.elim notVariable notFormula).elim
  | cons first later =>
    obtain ⟨rfl, rest⟩ := List.cons.inj written
    exact ⟨later, rfl, rest⟩

/-- A slot accounts for a prefix at an offset: it begins there, or it reaches over that place. -/
def SlotOccurrence.Covers (s : SlotOccurrence) (style : MarkerStyle) (mark : Char)
    (offset : Nat) : Prop :=
  s.span.start = offset ∧ mark = style.variableMark ∨
    s.span.start < offset ∧ offset < s.span.stop

/-- A slot accounts for every prefix before an opening delimiter within its text. -/
theorem Slot.occurrence_covers {style : MarkerStyle} {mark : Char} {slot : Slot}
    {before remaining : Text} (place : Position) (nonempty : remaining ≠ [])
    (written : slot.source style = before ++ remaining) (begins : remaining.head? = some mark) :
    (slot.occurrence style place).Covers style mark (place.advance before).offset := by
  cases before with
  | nil =>
    rw [List.nil_append] at written
    subst written
    exact .inl ⟨rfl, (Option.some.inj begins).symm⟩
  | cons first inside =>
    have positive := Text.byteLength_pos_of_ne_nil (List.cons_ne_nil first inside)
    have more := Text.byteLength_pos_of_ne_nil nonempty
    refine .inr ?_
    simp only [occurrence, Position.span, Position.advance, written, Text.byteLength_append]
    omega

/-- A slot accounts for a prefix before an opening delimiter, or else the prefix stands behind
it. -/
theorem Slot.covers_or_behind {style : MarkerStyle} {mark : Char} {slot : Slot}
    {rest before after : Text} (place : Position)
    (written : slot.source style ++ rest = before ++ mark :: style.openDelimiter :: after) :
    (slot.occurrence style place).Covers style mark (place.advance before).offset ∨
      ∃ later, before = slot.source style ++ later ∧
        rest = later ++ mark :: style.openDelimiter :: after := by
  rcases List.append_eq_append_iff.1 written with ⟨later, rfl, behind⟩ | ⟨remaining, split, behind⟩
  · exact .inr ⟨later, rfl, behind⟩
  · cases remaining with
    | nil =>
      rw [List.append_nil] at split
      exact .inr ⟨[], by rw [split, List.append_nil], behind.symm⟩
    | cons first remaining =>
      apply Or.inl
      apply Slot.occurrence_covers place (List.cons_ne_nil _ _) split
      exact congrArg some (List.cons.inj behind).1.symm

namespace Part

/-- In the body of a formula every prefix before an opening delimiter belongs to a slot. -/
theorem exists_occurrence_covers {style : MarkerStyle} {mark : Char} {parts : List Part}
    {before after : Text} (isMark : mark = style.variableMark ∨ mark = style.formulaMark)
    (scanned : Scanned style parts) (place : Position)
    (written : Piece.body style parts = before ++ mark :: style.openDelimiter :: after) :
    ∃ s ∈ occurrences style place parts,
      s.Covers style mark (place.advance before).offset := by
  induction scanned generalizing place before with
  | nil => simp [Piece.body] at written
  | @char c parts plain _ inductionHypothesis =>
    obtain ⟨later, rfl, behind⟩ := MarkerStyle.exists_behind_plain isMark plain written
    obtain ⟨s, member, covers⟩ := inductionHypothesis (place.advance [c]) behind
    rw [← Position.advance_append] at covers
    exact ⟨s, member, covers⟩
  | @slot slot parts _ _ _ inductionHypothesis =>
    rcases slot.covers_or_behind place written with covers | ⟨later, rfl, behind⟩
    · exact ⟨slot.occurrence style place, List.mem_cons_self, covers⟩
    · obtain ⟨s, member, covers⟩ :=
        inductionHypothesis (place.advance (slot.source style)) behind
      rw [← Position.advance_append] at covers
      exact ⟨s, List.mem_cons_of_mem _ member, covers⟩

end Part

namespace Piece

/-- A piece accounts for a prefix at an offset through one of its slots, or by being the formula
that begins there. -/
def Covers (style : MarkerStyle) (place : Position) (piece : Piece) (mark : Char)
    (offset : Nat) : Prop :=
  (∃ s ∈ piece.slots style place, s.Covers style mark offset) ∨
    mark = style.formulaMark ∧ ∃ f ∈ piece.formulas style place, f.span.start = offset

/-- A prefix before an opening delimiter stands within a formula, or else behind it: the opening
delimiter of the formula is no prefix, and its closing delimiter neither is one nor opens. -/
theorem covers_or_behind_formula {style : MarkerStyle} {mark : Char} {parts : List Part}
    {before after rest : Text} (isMark : mark = style.variableMark ∨ mark = style.formulaMark)
    (inside : Part.Scanned style parts) (place : Position)
    (written : (formula parts).source style ++ rest =
      before ++ mark :: style.openDelimiter :: after) :
    (formula parts).Covers style place mark (place.advance before).offset ∨
      ∃ later, before = (formula parts).source style ++ later ∧
        rest = later ++ mark :: style.openDelimiter :: after := by
  obtain ⟨notOpen, notClose⟩ := MarkerStyle.not_delimiter_of_mark isMark
  have unfolded : style.formulaMark :: style.openDelimiter ::
      (body style parts ++ style.closeDelimiter :: rest) =
        before ++ mark :: style.openDelimiter :: after := by
    simpa [source] using written
  rcases before with _ | ⟨first, _ | ⟨second, before⟩⟩
  · obtain ⟨rfl, -⟩ := List.cons.inj unfolded
    exact .inl (.inr ⟨rfl, _, List.mem_singleton_self _, rfl⟩)
  · obtain ⟨-, second⟩ := List.cons.inj unfolded
    exact absurd (List.cons.inj second).1.symm notOpen
  · simp only [List.cons_append, List.cons.injEq] at unfolded
    obtain ⟨rfl, rfl, tail⟩ := unfolded
    rcases List.append_eq_append_iff.1 tail with ⟨later, rfl, behind⟩ | ⟨within, split, behind⟩
    · cases later with
      | nil => exact absurd (List.cons.inj behind).1.symm notClose
      | cons closing later =>
        obtain ⟨rfl, rfl⟩ := List.cons.inj behind
        exact .inr ⟨later, by simp [source], rfl⟩
    · rcases within with _ | ⟨closing, _ | ⟨opening, within⟩⟩
      · exact absurd (List.cons.inj behind).1 notClose
      · obtain ⟨-, closing⟩ := List.cons.inj behind
        exact absurd (List.cons.inj closing).1 style.delimiters_differ
      · obtain ⟨rfl, opens⟩ := List.cons.inj behind
        obtain ⟨rfl, -⟩ := List.cons.inj opens
        obtain ⟨s, member, covers⟩ := Part.exists_occurrence_covers isMark inside
          (place.advance [style.formulaMark, style.openDelimiter]) split
        rw [← Position.advance_append] at covers
        exact .inl (.inl ⟨s, member, covers⟩)

/-- On a scanned line every prefix before an opening delimiter belongs to a piece. -/
theorem exists_located_covers {style : MarkerStyle} {mark : Char} {pieces : List Piece}
    {before after : Text} (isMark : mark = style.variableMark ∨ mark = style.formulaMark)
    (scanned : Scanned style pieces) (place : Position)
    (written : pieces.flatMap (source style) =
      before ++ mark :: style.openDelimiter :: after) :
    ∃ found piece, (found, piece) ∈ place.locate (source style) pieces ∧
      piece.Covers style found mark (place.advance before).offset := by
  induction scanned generalizing place before with
  | nil => simp at written
  | @char c pieces plain _ inductionHypothesis =>
    obtain ⟨later, rfl, behind⟩ := MarkerStyle.exists_behind_plain isMark plain written
    obtain ⟨found, piece, member, covers⟩ := inductionHypothesis (place.advance [c]) behind
    rw [← Position.advance_append] at covers
    exact ⟨found, piece, List.mem_cons_of_mem _ member, covers⟩
  | @slot slot pieces _ _ _ inductionHypothesis =>
    rw [List.flatMap_cons] at written
    rcases slot.covers_or_behind place written with covers | ⟨later, rfl, behind⟩
    · exact ⟨place, .slot slot, List.mem_cons_self, .inl ⟨_, List.mem_singleton_self _, covers⟩⟩
    · obtain ⟨found, piece, member, covers⟩ :=
        inductionHypothesis (place.advance (slot.source style)) behind
      rw [← Position.advance_append] at covers
      exact ⟨found, piece, List.mem_cons_of_mem _ member, covers⟩
  | @formula parts pieces _ _ inside _ inductionHypothesis =>
    rw [List.flatMap_cons] at written
    rcases covers_or_behind_formula isMark inside place written with covers | behind
    · exact ⟨place, .formula parts, List.mem_cons_self, covers⟩
    · obtain ⟨later, rfl, rest⟩ := behind
      obtain ⟨found, piece, member, covers⟩ :=
        inductionHypothesis (place.advance ((formula parts).source style)) rest
      rw [← Position.advance_append] at covers
      exact ⟨found, piece, List.mem_cons_of_mem _ member, covers⟩

end Piece

/-- On a line that is no comment, line ends aside, the mark stands at this offset immediately
before the opening delimiter. -/
def OpensAt (style : MarkerStyle) (mark : Char) (t : Text) (offset : Nat) : Prop :=
  ∃ earlier raw later before after, Text.rawLines t = earlier ++ raw :: later ∧
    style.isComment (Text.dropLineEnds raw) = false ∧
    Text.dropLineEnds raw = before ++ mark :: style.openDelimiter :: after ∧
    offset = Text.byteLength (earlier.flatten ++ before)

namespace Line

/-- Every prefix before an opening delimiter belongs to a piece of the scanned deck. -/
theorem exists_located_covers {style : MarkerStyle} {t : Text} {lines : List Line} {mark : Char}
    {offset : Nat} (isMark : mark = style.variableMark ∨ mark = style.formulaMark)
    (scanned : scan style t = .ok lines) (opens : OpensAt style mark t offset) :
    ∃ place piece, (place, piece) ∈ located style 0 1 lines ∧
      piece.Covers style place mark offset := by
  obtain ⟨earlierRaws, raw, laterRaws, before, after, raws, marked, written, rfl⟩ := opens
  obtain ⟨sources, wellScanned⟩ := (scan_eq_ok_iff _ _ _).1 scanned
  rw [raws] at sources
  obtain ⟨earlier, rest, rfl, rfl, restSources⟩ := List.map_eq_append_iff.1 sources
  obtain ⟨line, later, rfl, rfl, rfl⟩ := List.map_eq_cons_iff.1 restSources
  have lineScanned := wellScanned line (by simp)
  rw [← lineScanned.cut] at marked written
  obtain ⟨found, piece, member, covers⟩ := Piece.exists_located_covers isMark
    (lineScanned.marked marked)
    ⟨0 + Text.byteLength (earlier.flatMap (source style)), 1 + earlier.length, 1⟩ written
  obtain ⟨piecesBefore, piecesAfter, pieces, rfl⟩ := (Position.mem_locate_iff _ _ _ _).1 member
  refine ⟨_, piece, (mem_located_iff _ _ _ _ _ _).2
    ⟨earlier, line, later, piecesBefore, piecesAfter, rfl, pieces, rfl⟩, ?_⟩
  simpa [Position.advance, Text.byteLength_append, List.flatMap_def] using covers

/-- A comment line is made of characters alone. -/
theorem piece_eq_char_of_comment {style : MarkerStyle} {line : Line} {piece : Piece}
    (scanned : line.Scanned style) (comment : style.isComment (line.content style) = true)
    (member : piece ∈ line.pieces) : ∃ c, piece = .char c := by
  rw [scanned.comment comment] at member
  obtain ⟨c, -, rfl⟩ := List.mem_map.1 member
  exact ⟨c, rfl⟩

/-- A part of a located piece that begins with a mark and the opening delimiter opens there: only
characters are located on a comment line. -/
theorem opensAt_of_mem_located {style : MarkerStyle} {t : Text} {lines : List Line}
    {place : Position} {piece : Piece} {mark : Char} {before after : Text}
    (scanned : scan style t = .ok lines) (member : (place, piece) ∈ located style 0 1 lines)
    (notChar : ∀ c, piece ≠ .char c)
    (written : piece.source style = before ++ mark :: style.openDelimiter :: after) :
    OpensAt style mark t (place.advance before).offset := by
  obtain ⟨earlier, line, later, piecesBefore, piecesAfter, rfl, pieces, rfl⟩ :=
    (mem_located_iff _ _ _ _ _ _).1 member
  obtain ⟨sources, wellScanned⟩ := (scan_eq_ok_iff _ _ _).1 scanned
  have lineScanned := wellScanned line (by simp)
  refine ⟨earlier.map (source style), line.source style, later.map (source style),
    piecesBefore.flatMap (Piece.source style) ++ before,
    after ++ piecesAfter.flatMap (Piece.source style), ?_, ?_, ?_, ?_⟩
  · simpa using sources.symm
  · rw [← lineScanned.cut, ← Bool.not_eq_true]
    intro comment
    have onLine : piece ∈ line.pieces := by simp [pieces]
    obtain ⟨c, isChar⟩ := piece_eq_char_of_comment lineScanned comment onLine
    exact notChar c isChar
  · rw [← lineScanned.cut]
    simp [content, pieces, written]
  · simp [Position.advance, Text.byteLength_append, List.flatMap_def, Nat.add_assoc]

/-- A reported slot begins where its prefix opens. -/
theorem opensAt_slot {style : MarkerStyle} {t : Text} {lines : List Line} {s : SlotOccurrence}
    (scanned : scan style t = .ok lines) (member : s ∈ slots style lines) :
    OpensAt style style.variableMark t s.span.start := by
  obtain ⟨place, piece, located, slotOf⟩ := (mem_slots_iff _ _ _).1 member
  obtain ⟨before, slot, after, written, rfl⟩ := Piece.slot_part slotOf
  have notChar : ∀ c, piece ≠ .char c := by
    rintro c rfl
    exact List.not_mem_nil slotOf
  have begins : piece.source style = before ++ style.variableMark :: style.openDelimiter ::
      (slot.body ++ style.closeDelimiter :: after) := by
    simp [written, Slot.source]
  exact opensAt_of_mem_located scanned located notChar begins

/-- A reported formula begins where its prefix opens. -/
theorem opensAt_formula {style : MarkerStyle} {t : Text} {lines : List Line}
    {f : FormulaOccurrence} (scanned : scan style t = .ok lines)
    (member : f ∈ formulas style lines) :
    OpensAt style style.formulaMark t f.span.start := by
  obtain ⟨place, piece, located, formulaOf⟩ := (mem_formulas_iff _ _ _).1 member
  obtain ⟨parts, rfl, rfl⟩ := (Piece.mem_formulas_iff _ _ _ _).1 formulaOf
  have begins : (Piece.formula parts).source style =
      [] ++ style.formulaMark :: style.openDelimiter ::
        (Piece.body style parts ++ [style.closeDelimiter]) := rfl
  exact opensAt_of_mem_located scanned located (fun _ => Piece.noConfusion) begins

/-- Two lines of a deck are the same line, or one ends before the other begins. -/
theorem eq_or_apart (style : MarkerStyle) {earlier later before after : List Line}
    {line other : Line} (same : earlier ++ line :: later = before ++ other :: after) :
    line = other ∨
      Text.byteLength (earlier.flatMap (source style)) + Text.byteLength (line.source style) ≤
        Text.byteLength (before.flatMap (source style)) ∨
      Text.byteLength (before.flatMap (source style)) + Text.byteLength (other.source style) ≤
        Text.byteLength (earlier.flatMap (source style)) := by
  rcases List.append_eq_append_iff.1 same with ⟨between, rfl, rest⟩ | ⟨between, rfl, rest⟩
  · cases between with
    | nil => exact .inl (List.cons.inj rest).1
    | cons first between =>
      obtain ⟨rfl, -⟩ := List.cons.inj rest
      refine .inr (.inl ?_)
      simp only [List.flatMap_append, List.flatMap_cons, Text.byteLength_append]
      omega
  · cases between with
    | nil => exact .inl (List.cons.inj rest).1.symm
    | cons first between =>
      obtain ⟨rfl, -⟩ := List.cons.inj rest
      refine .inr (.inr ?_)
      simp only [List.flatMap_append, List.flatMap_cons, Text.byteLength_append]
      omega

/-- A located piece that is no character is apart from every comment line. -/
theorem located_apart_of_comment {style : MarkerStyle} {t : Text} {lines : List Line}
    {place : Position} {piece : Piece} {earlier later : List Text} {raw : Text}
    (scanned : scan style t = .ok lines) (member : (place, piece) ∈ located style 0 1 lines)
    (notChar : ∀ c, piece ≠ .char c) (raws : Text.rawLines t = earlier ++ raw :: later)
    (comment : style.isComment (Text.dropLineEnds raw) = true) :
    (place.span (piece.source style)).Apart ⟨Text.byteLength earlier.flatten,
      Text.byteLength earlier.flatten + Text.byteLength raw⟩ := by
  obtain ⟨sources, wellScanned⟩ := (scan_eq_ok_iff _ _ _).1 scanned
  rw [raws] at sources
  obtain ⟨before, rest, rfl, rfl, restSources⟩ := List.map_eq_append_iff.1 sources
  obtain ⟨commentLine, after, rfl, rfl, rfl⟩ := List.map_eq_cons_iff.1 restSources
  obtain ⟨linesBefore, line, linesAfter, piecesBefore, piecesAfter, same, pieces, rfl⟩ :=
    (mem_located_iff _ _ _ _ _ _).1 member
  have written : line.source style = piecesBefore.flatMap (Piece.source style) ++
      piece.source style ++ (piecesAfter.flatMap (Piece.source style) ++ line.ending) := by
    simp [source, pieces]
  rw [← List.flatMap_def]
  rcases eq_or_apart style same with rfl | lineBelow | lineAbove
  · have lineScanned := wellScanned commentLine (by simp)
    rw [← lineScanned.cut] at comment
    have onLine : piece ∈ commentLine.pieces := by simp [pieces]
    obtain ⟨c, isChar⟩ := piece_eq_char_of_comment lineScanned comment onLine
    exact absurd isChar (notChar c)
  · refine .inr ?_
    simp only [Position.span, Position.advance]
    omega
  · refine .inl ?_
    simp only [Position.span, Position.advance]
    simp only [written, Text.byteLength_append] at lineAbove
    omega

/-- Nothing is reported on a comment line. -/
theorem apart_of_comment {style : MarkerStyle} {t : Text} {lines : List Line}
    {earlier later : List Text} {raw : Text} (scanned : scan style t = .ok lines)
    (raws : Text.rawLines t = earlier ++ raw :: later)
    (comment : style.isComment (Text.dropLineEnds raw) = true) :
    (∀ s ∈ slots style lines, s.span.Apart ⟨Text.byteLength earlier.flatten,
      Text.byteLength earlier.flatten + Text.byteLength raw⟩) ∧
    ∀ f ∈ formulas style lines, f.span.Apart ⟨Text.byteLength earlier.flatten,
      Text.byteLength earlier.flatten + Text.byteLength raw⟩ := by
  constructor
  · intro s member
    obtain ⟨place, piece, located, slotOf⟩ := (mem_slots_iff _ _ _).1 member
    obtain ⟨lower, upper⟩ := Piece.bounds_of_mem_slots slotOf
    have notChar : ∀ c, piece ≠ .char c := by
      rintro c rfl
      exact List.not_mem_nil slotOf
    rcases located_apart_of_comment scanned located notChar raws comment with above | below
    · exact .inl (Nat.le_trans upper above)
    · exact .inr (Nat.le_trans below lower)
  · intro f member
    obtain ⟨place, piece, located, formulaOf⟩ := (mem_formulas_iff _ _ _).1 member
    obtain ⟨parts, rfl, rfl⟩ := (Piece.mem_formulas_iff _ _ _ _).1 formulaOf
    exact located_apart_of_comment scanned located (fun _ => Piece.noConfusion) raws comment

/-- No two reported markers begin at the same offset. -/
theorem nodup_starts {style : MarkerStyle} {t : Text} {lines : List Line}
    (scanned : scan style t = .ok lines) :
    ((slots style lines).map (·.span.start) ++
      (formulas style lines).map (·.span.start)).Nodup := by
  refine List.nodup_append.2 ⟨?_, ?_, ?_⟩
  · have ordered := List.pairwise_map.1 (precedes_slots scanned)
    exact List.pairwise_map.2 (ordered.imp fun precedes => Nat.ne_of_lt precedes.1)
  · have ordered := List.pairwise_map.1 (precedes_formulas scanned)
    exact List.pairwise_map.2 (ordered.imp fun precedes => Nat.ne_of_lt precedes.1)
  · intro start slotStart other formulaStart same
    obtain ⟨s, slotMember, rfl⟩ := List.mem_map.1 slotStart
    obtain ⟨f, formulaMember, rfl⟩ := List.mem_map.1 formulaStart
    obtain ⟨slotContent, slotHolds, -⟩ := slot_holds scanned slotMember
    obtain ⟨formulaContent, formulaHolds, -, -, bodyStart, -⟩ :=
      formula_holds scanned formulaMember
    have slotPositive := slotHolds.start_lt_stop
    have formulaPositive := formulaHolds.start_lt_stop
    have prefixPositive := style.formulaMark.utf8Size_pos
    rcases slot_inside_or_apart slotMember formulaMember with inside | apart | apart
    · have := ((Span.contains_iff _ _).1 inside).1
      omega
    · omega
    · omega

/-- A scan is complete and exact. Where a prefix opens, a marker begins or a slot reaches over the
place, and a prefix of formulas is passed over only inside a slot; a reported marker begins where
its prefix opens, never on a comment line, and none is reported twice. -/
theorem every_opening_reported {style : MarkerStyle} {t : Text} {lines : List Line}
    (scanned : scan style t = .ok lines) :
    (∀ offset, OpensAt style style.variableMark t offset → ∃ s ∈ slots style lines,
      s.span.start = offset ∨ s.span.start < offset ∧ offset < s.span.stop) ∧
    (∀ offset, OpensAt style style.formulaMark t offset →
      (∃ f ∈ formulas style lines, f.span.start = offset) ∨
        ∃ s ∈ slots style lines, s.span.start < offset ∧ offset < s.span.stop) ∧
    (∀ s ∈ slots style lines, OpensAt style style.variableMark t s.span.start) ∧
    (∀ f ∈ formulas style lines, OpensAt style style.formulaMark t f.span.start) ∧
    (∀ earlier raw later, Text.rawLines t = earlier ++ raw :: later →
      style.isComment (Text.dropLineEnds raw) = true →
      (∀ s ∈ slots style lines, s.span.Apart ⟨Text.byteLength earlier.flatten,
        Text.byteLength earlier.flatten + Text.byteLength raw⟩) ∧
      ∀ f ∈ formulas style lines, f.span.Apart ⟨Text.byteLength earlier.flatten,
        Text.byteLength earlier.flatten + Text.byteLength raw⟩) ∧
    ((slots style lines).map (·.span.start) ++
      (formulas style lines).map (·.span.start)).Nodup := by
  refine ⟨?_, ?_, fun s => opensAt_slot scanned, fun f => opensAt_formula scanned,
    fun earlier raw later => apart_of_comment scanned, nodup_starts scanned⟩
  · intro offset opens
    obtain ⟨place, piece, located, ⟨s, slotOf, covers⟩ | ⟨impossible, -⟩⟩ :=
      exists_located_covers (.inl rfl) scanned opens
    · exact ⟨s, (mem_slots_iff _ _ _).2 ⟨place, piece, located, slotOf⟩,
        covers.imp And.left id⟩
    · exact absurd impossible style.marks_differ
  · intro offset opens
    obtain ⟨place, piece, located, ⟨s, slotOf, covers⟩ | ⟨-, f, formulaOf, start⟩⟩ :=
      exists_located_covers (.inr rfl) scanned opens
    · have member := (mem_slots_iff _ _ _).2 ⟨place, piece, located, slotOf⟩
      exact .inr ⟨s, member,
        covers.resolve_left fun atStart => style.marks_differ atStart.2.symm⟩
    · exact .inl ⟨f, (mem_formulas_iff _ _ _).2 ⟨place, piece, located, formulaOf⟩, start⟩

/-- A doubled prefix opens with its second character, a prefix of formulas inside a slot is
passed over, and nothing is reported on a comment line. -/
theorem openings_of_doubled_prefix :
    ∃ lines, scan .standard "$$\x7bs@\x7b1\x7d\x7d\n# $\x7bc\x7d".toList = .ok lines ∧
      (∃ s ∈ slots .standard lines, s.span.start = 1 ∨ s.span.start < 1 ∧ 1 < s.span.stop) ∧
      (∃ s ∈ slots .standard lines, s.span.start < 4 ∧ 4 < s.span.stop) ∧
      ∀ s ∈ slots .standard lines, s.span.Apart ⟨10, 16⟩ := by
  have scanned : scan .standard "$$\x7bs@\x7b1\x7d\x7d\n# $\x7bc\x7d".toList = .ok
      [⟨[.char '$', .slot ⟨"s@\x7b1\x7d".toList, "s@\x7b1\x7d".toList, .unconstrained⟩], ['\n']⟩,
      ⟨"# $\x7bc\x7d".toList.map .char, []⟩] := by decide +kernel
  obtain ⟨slotReported, formulaReported, -, -, comments, -⟩ := every_opening_reported scanned
  have firstOpens : OpensAt .standard '$' "$$\x7bs@\x7b1\x7d\x7d\n# $\x7bc\x7d".toList 1 :=
    ⟨[], "$$\x7bs@\x7b1\x7d\x7d\n".toList, ["# $\x7bc\x7d".toList], ['$'],
      "s@\x7b1\x7d\x7d".toList, by decide, by decide, by decide, by decide⟩
  have secondOpens : OpensAt .standard '@' "$$\x7bs@\x7b1\x7d\x7d\n# $\x7bc\x7d".toList 4 :=
    ⟨[], "$$\x7bs@\x7b1\x7d\x7d\n".toList, ["# $\x7bc\x7d".toList], "$$\x7bs".toList,
      "1\x7d\x7d".toList, by decide, by decide, by decide, by decide⟩
  have cut : Text.rawLines "$$\x7bs@\x7b1\x7d\x7d\n# $\x7bc\x7d".toList =
      ["$$\x7bs@\x7b1\x7d\x7d\n".toList] ++ "# $\x7bc\x7d".toList :: [] := by decide
  refine ⟨_, scanned, slotReported 1 firstOpens, (formulaReported 4 secondOpens).resolve_left ?_,
    (comments _ _ _ cut (by decide)).1⟩
  rintro ⟨f, member, -⟩
  exact List.not_mem_nil member

end Line

end InputDeck
