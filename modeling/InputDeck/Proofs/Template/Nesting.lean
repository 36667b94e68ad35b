import InputDeck.Proofs.Template.Placement

/-!
# Markers apart and inside one another

Markers lie in pieces, and pieces follow one another. So two slots are apart, and two formulas are;
a slot stands between the delimiters of a formula if they lie in one piece, and apart from it if
they do not.
-/

namespace InputDeck

/-- The other span begins later and not before this one ends. -/
def Span.Precedes (span other : Span) : Prop := span.start < other.start ∧ span.stop ≤ other.start

/-- A span that holds something ends behind its beginning. -/
theorem Span.Holds.start_lt_stop {span : Span} {t : Text} {c : Char} {rest : Text}
    (holds : span.Holds t (c :: rest)) : span.start < span.stop := by
  obtain ⟨before, after, -, start, stop⟩ := holds
  have positive := Text.byteLength_pos_of_ne_nil (List.cons_ne_nil c rest)
  omega

namespace Line

/-- No piece of a scanned deck reaches over the end of its line. -/
theorem newline_not_mem_of_mem_located {style : MarkerStyle} {t : Text} {lines : List Line}
    {place : Position} {piece : Piece} (scanned : scan style t = .ok lines)
    (member : (place, piece) ∈ located style 0 1 lines) : '\n' ∉ piece.source style := by
  obtain ⟨earlier, line, later, before, after, rfl, pieces, -⟩ :=
    (mem_located_iff _ _ _ _ _ _).1 member
  obtain ⟨raws, wellScanned⟩ := (scan_eq_ok_iff _ _ _).1 scanned
  have lineMember : line ∈ earlier ++ line :: later := by simp
  have rawMember : line.source style ∈ Text.rawLines t := by
    rw [← raws]
    exact List.mem_map_of_mem lineMember
  have noNewline := Text.newline_not_mem_dropLineEnds rawMember
  rw [← (wellScanned line lineMember).cut, content, pieces] at noNewline
  intro inside
  apply noNewline
  simp [inside]

/-- The slots of a deck follow one another without overlap. -/
theorem pairwise_slots (style : MarkerStyle) (lines : List Line) :
    (slots style lines).Pairwise fun first second => first.span.stop ≤ second.span.start := by
  refine List.pairwise_flatMap.2 ⟨fun _ _ => Piece.pairwise_slots _ _ _, ?_⟩
  refine (pairwise_located style 0 1 lines).imp ?_
  rintro ⟨here, piece⟩ ⟨below, other⟩ follows first firstMember second secondMember
  have upper := (Piece.bounds_of_mem_slots firstMember).2
  have lower := (Piece.bounds_of_mem_slots secondMember).1
  exact Nat.le_trans upper (Nat.le_trans follows lower)

/-- The formulas of a deck follow one another without overlap. -/
theorem pairwise_formulas (style : MarkerStyle) (lines : List Line) :
    (formulas style lines).Pairwise fun first second =>
      first.span.stop ≤ second.span.start := by
  refine List.pairwise_flatMap.2 ⟨?_, ?_⟩
  · rintro ⟨place, piece⟩ -
    cases piece with
    | char c => exact .nil
    | slot s => exact .nil
    | formula parts => exact List.pairwise_singleton _ _
  · refine (pairwise_located style 0 1 lines).imp ?_
    rintro ⟨here, piece⟩ ⟨below, other⟩ follows first firstMember second secondMember
    obtain ⟨parts, rfl, rfl⟩ := (Piece.mem_formulas_iff _ _ _ _).1 firstMember
    obtain ⟨others, rfl, rfl⟩ := (Piece.mem_formulas_iff _ _ _ _).1 secondMember
    exact follows

/-- A slot and a formula: the slot stands in the body of the formula, or they are apart. Both lie
in located pieces; in different pieces they are apart, and the slots of a formula stand in its
body. -/
theorem slot_inside_or_apart {style : MarkerStyle} {lines : List Line} {s : SlotOccurrence}
    {f : FormulaOccurrence} (slotMember : s ∈ slots style lines)
    (formulaMember : f ∈ formulas style lines) :
    f.body.contains s.span = true ∨ s.span.Apart f.span := by
  obtain ⟨place, piece, located, slotOf⟩ := (mem_slots_iff _ _ _).1 slotMember
  obtain ⟨place', piece', located', formulaOf⟩ := (mem_formulas_iff _ _ _).1 formulaMember
  obtain ⟨parts, rfl, rfl⟩ := (Piece.mem_formulas_iff _ _ _ _).1 formulaOf
  rcases located_eq_or_apart located located' with same | apart
  · obtain ⟨rfl, rfl⟩ := Prod.mk.inj same
    exact .inl (Piece.slot_part_of_body slotOf)
  · obtain ⟨lower, upper⟩ := Piece.bounds_of_mem_slots slotOf
    apply Or.inr
    rcases apart with follows | before
    · exact .inl (Nat.le_trans upper follows)
    · exact .inr (Nat.le_trans before lower)

/-- What a reported slot spans: on one line, a prefix of variables with delimiters around a
content. -/
theorem slot_holds {style : MarkerStyle} {t : Text} {lines : List Line} {s : SlotOccurrence}
    (scanned : scan style t = .ok lines) (member : s ∈ slots style lines) :
    ∃ content, s.span.Holds t
        (style.variableMark :: style.openDelimiter :: (content ++ [style.closeDelimiter])) ∧
      '\n' ∉ style.variableMark :: style.openDelimiter ::
        (content ++ [style.closeDelimiter]) := by
  obtain ⟨place, piece, located, slotOf⟩ := (mem_slots_iff _ _ _).1 member
  obtain ⟨before, slot, after, written, rfl⟩ := Piece.slot_part slotOf
  have holds := holds_of_mem_located located
  have noNewline := newline_not_mem_of_mem_located scanned located
  rw [source_of_scan scanned, written] at holds
  rw [written] at noNewline
  refine ⟨slot.body, Position.holds_part holds, fun inside => noNewline ?_⟩
  exact List.mem_append_left _ (List.mem_append_right _ inside)

/-- The body of a located formula stands in the deck. -/
theorem body_holds {style : MarkerStyle} {t : Text} {lines : List Line} {place : Position}
    {parts : List Part} (scanned : scan style t = .ok lines)
    (member : (place, .formula parts) ∈ located style 0 1 lines) :
    ((place.advance [style.formulaMark, style.openDelimiter]).span
      (Piece.body style parts)).Holds t (Piece.body style parts) := by
  have holds := holds_of_mem_located member
  have enclosed : (Piece.formula parts).source style =
      [style.formulaMark, style.openDelimiter] ++ Piece.body style parts ++
        [style.closeDelimiter] := by
    simp [Piece.source]
  rw [source_of_scan scanned, enclosed] at holds
  exact Position.holds_part holds

/-- What a reported formula spans: on one line, a prefix of formulas with delimiters around its
body. -/
theorem formula_holds {style : MarkerStyle} {t : Text} {lines : List Line}
    {f : FormulaOccurrence} (scanned : scan style t = .ok lines)
    (member : f ∈ formulas style lines) :
    ∃ content, f.span.Holds t
        (style.formulaMark :: style.openDelimiter :: (content ++ [style.closeDelimiter])) ∧
      '\n' ∉ style.formulaMark :: style.openDelimiter ::
        (content ++ [style.closeDelimiter]) ∧
      f.body.Holds t content ∧
      f.body.start = f.span.start + style.formulaMark.utf8Size + style.openDelimiter.utf8Size ∧
      f.span.stop = f.body.stop + style.closeDelimiter.utf8Size := by
  obtain ⟨place, piece, located, formulaOf⟩ := (mem_formulas_iff _ _ _).1 member
  obtain ⟨parts, rfl, rfl⟩ := (Piece.mem_formulas_iff _ _ _ _).1 formulaOf
  have holds := holds_of_mem_located located
  have noNewline := newline_not_mem_of_mem_located scanned located
  rw [source_of_scan scanned] at holds
  refine ⟨Piece.body style parts, holds, noNewline, body_holds scanned located, ?_, ?_⟩
  · simp [Position.span, Position.advance, Text.byteLength, Nat.add_assoc]
  · simp [Position.span, Position.advance, Piece.source, Text.byteLength,
      Text.byteLength_append]
    omega

/-- Every reported slot begins behind the end of the one before. -/
theorem precedes_slots {style : MarkerStyle} {t : Text} {lines : List Line}
    (scanned : scan style t = .ok lines) :
    ((slots style lines).map SlotOccurrence.span).Pairwise Span.Precedes := by
  rw [List.pairwise_map]
  apply (pairwise_slots style lines).imp_of_mem
  intro first second member _ follows
  obtain ⟨content, holds, -⟩ := slot_holds scanned member
  exact ⟨Nat.lt_of_lt_of_le holds.start_lt_stop follows, follows⟩

/-- Every reported formula begins behind the end of the one before. -/
theorem precedes_formulas {style : MarkerStyle} {t : Text} {lines : List Line}
    (scanned : scan style t = .ok lines) :
    ((formulas style lines).map FormulaOccurrence.span).Pairwise Span.Precedes := by
  rw [List.pairwise_map]
  apply (pairwise_formulas style lines).imp_of_mem
  intro first second member _ follows
  obtain ⟨content, holds, -⟩ := formula_holds scanned member
  exact ⟨Nat.lt_of_lt_of_le holds.start_lt_stop follows, follows⟩

end Line

end InputDeck
