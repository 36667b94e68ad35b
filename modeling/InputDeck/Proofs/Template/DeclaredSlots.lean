import InputDeck.Proofs.Text.Searching
import InputDeck.Proofs.Template.Completeness

/-!
# Slots and what they declare

The text between the delimiters of a slot is a name, or a name and a declaration with a tilde
between them, which is the first one of the text. No marker begins inside the declaration, and the
domain is what the declaration stands for. Every slot that a scan reports is of this form.
-/

namespace InputDeck

namespace Slot

/-- A slot is what the text between its delimiters says. -/
inductive Declared (style : MarkerStyle) : Slot → Prop
  /-- A name alone declares nothing. -/
  | bare {body : Text} (whole : '~' ∉ body) (named : Text.trim body ≠ []) :
      Declared style ⟨body, Text.trim body, .unconstrained⟩
  /-- A name and a declaration stand on the two sides of the first tilde. -/
  | declaring {nameText declarationText : Text} {domain : Domain}
      (first : '~' ∉ nameText) (named : Text.trim nameText ≠ [])
      (nonempty : Text.trim declarationText ≠ [])
      (unmarked : ∀ mark, mark = style.variableMark ∨ mark = style.formulaMark →
        ¬ [mark, style.openDelimiter] <:+: Text.trim declarationText)
      (stands : domain? (Text.trim nameText) (Text.trim declarationText) = .ok domain) :
      Declared style ⟨nameText ++ '~' :: declarationText, Text.trim nameText, domain⟩

/-- A slot is read from the text between its delimiters as what this text says. -/
theorem declared_of_ofBody? {style : MarkerStyle} {body : Text} {s : Slot}
    (read : ofBody? style body = .ok s) : s.Declared style := by
  unfold ofBody? at read
  split at read
  · rename_i whole
    simp only at read
    split at read
    · cases read
    · rename_i named
      cases read
      exact .bare (Text.not_mem_of_splitFirst whole) named
  · rename_i nameText declarationText split
    simp only at read
    split at read
    · cases read
    · rename_i named
      split at read
      · cases read
      · rename_i nonempty
        split at read
        · cases read
        · rename_i unmarked
          obtain ⟨domain, stands, rfl⟩ := (map_eq_ok_iff _ _ _).1 read
          obtain rfl : body = nameText ++ '~' :: declarationText := by
            simpa using Text.splitFirst_append split
          refine .declaring (Text.not_mem_before_splitFirst split) named nonempty ?_ stands
          simp only [Bool.or_eq_true, Text.contains_iff, not_or] at unmarked
          rintro mark (rfl | rfl)
          · exact unmarked.1
          · exact unmarked.2

end Slot

/-- A slot among the parts of a scanned formula is read from the text between its delimiters. -/
theorem Part.Scanned.read_slot {style : MarkerStyle} {parts : List Part} {s : Slot}
    (scanned : Scanned style parts) (member : .slot s ∈ parts) :
    Slot.ofBody? style s.body = .ok s := by
  induction scanned with
  | nil => cases member
  | char _ _ inductionHypothesis =>
    cases member with
    | tail _ later => exact inductionHypothesis later
  | slot _ declared _ inductionHypothesis =>
    cases member with
    | head => exact declared
    | tail _ later => exact inductionHypothesis later

/-- The body of a scanned formula is scanned. -/
theorem Piece.Scanned.inside {style : MarkerStyle} {pieces : List Piece} {parts : List Part}
    (scanned : Scanned style pieces) (member : .formula parts ∈ pieces) :
    Part.Scanned style parts := by
  induction scanned with
  | nil => cases member
  | char _ _ inductionHypothesis =>
    cases member with
    | tail _ later => exact inductionHypothesis later
  | slot _ _ _ inductionHypothesis =>
    cases member with
    | tail _ later => exact inductionHypothesis later
  | formula _ _ inside _ inductionHypothesis =>
    cases member with
    | head => exact inside
    | tail _ later => exact inductionHypothesis later

/-- The slots of scanned pieces are read from the text between their delimiters. -/
theorem Piece.Scanned.read_slot {style : MarkerStyle} {pieces : List Piece} {piece : Piece}
    {s : Slot} (scanned : Scanned style pieces) (member : piece ∈ pieces) (has : piece.HasSlot s) :
    Slot.ofBody? style s.body = .ok s := by
  induction scanned with
  | nil => cases member
  | char _ _ inductionHypothesis =>
    cases member with
    | head => exact has.elim
    | tail _ later => exact inductionHypothesis later
  | slot _ declared _ inductionHypothesis =>
    cases member with
    | head =>
      obtain rfl := has
      exact declared
    | tail _ later => exact inductionHypothesis later
  | formula _ _ inside _ inductionHypothesis =>
    cases member with
    | head => exact inside.read_slot has
    | tail _ later => exact inductionHypothesis later

/-- A located piece that is no character stands in a scanned row. -/
theorem Line.exists_scanned_row {style : MarkerStyle} {t : Text} {lines : List Line}
    {place : Position} {piece : Piece} (scanned : scan style t = .ok lines)
    (member : (place, piece) ∈ located style 0 1 lines) (notChar : ∀ c, piece ≠ .char c) :
    ∃ pieces, Piece.Scanned style pieces ∧ piece ∈ pieces := by
  obtain ⟨earlier, line, later, before, after, rfl, pieces, -⟩ :=
    (mem_located_iff _ _ _ _ _ _).1 member
  have lineScanned := ((scan_eq_ok_iff _ _ _).1 scanned).2 line (by simp)
  have onLine : piece ∈ line.pieces := by simp [pieces]
  refine ⟨line.pieces, lineScanned.marked ?_, onLine⟩
  rw [← Bool.not_eq_true]
  intro comment
  obtain ⟨c, isChar⟩ := piece_eq_char_of_comment lineScanned comment onLine
  exact notChar c isChar

/-- The slots of a located piece are what the text between their delimiters says. -/
theorem Line.declared_of_mem_located {style : MarkerStyle} {t : Text} {lines : List Line}
    {place : Position} {piece : Piece} {s : Slot} (scanned : scan style t = .ok lines)
    (member : (place, piece) ∈ located style 0 1 lines) (has : piece.HasSlot s) :
    s.Declared style := by
  have notChar : ∀ c, piece ≠ .char c := by
    rintro c rfl
    exact has
  obtain ⟨pieces, rowScanned, inRow⟩ := exists_scanned_row scanned member notChar
  exact Slot.declared_of_ofBody? (rowScanned.read_slot inRow has)

/-- The slot is this content between delimiters behind the prefix of variables. -/
def SlotOccurrence.Encloses (s : SlotOccurrence) (style : MarkerStyle) (t content : Text) : Prop :=
  s.span.Holds t (style.variableMark :: style.openDelimiter :: (content ++ [style.closeDelimiter]))

/-- A reported slot stands in the deck and is what the text between its delimiters says. -/
theorem Line.exists_declared_slot {style : MarkerStyle} {t : Text} {lines : List Line}
    {s : SlotOccurrence} (scanned : scan style t = .ok lines) (member : s ∈ slots style lines) :
    ∃ place slot, s = Slot.occurrence style place slot ∧ s.span.Holds t (slot.source style) ∧
      slot.Declared style := by
  obtain ⟨place, piece, located, slotOf⟩ := (mem_slots_iff _ _ _).1 member
  obtain ⟨before, slot, after, has, written, rfl⟩ := Piece.exists_slot_part slotOf
  have holds := holds_of_mem_located located
  rw [source_of_scan scanned, written] at holds
  exact ⟨_, slot, rfl, Position.holds_part holds, declared_of_mem_located scanned located has⟩

end InputDeck
