import InputDeck.Text.Basic

/-!
# Slices by byte offsets

A text may be cut at a number of bytes only where a character ends, and a slice needs its ends in
order as well. Cutting is therefore partial: there is a slice exactly where the text can be
written with the slice between these two offsets.
-/

namespace InputDeck.Text

/-- The text before and behind an offset, unless it falls into a character or behind the end. -/
def cut? : Text → Nat → Option (Text × Text)
  | t, 0 => some ([], t)
  | [], _ + 1 => none
  | c :: rest, offset + 1 =>
    if c.utf8Size ≤ offset + 1 then
      (cut? rest (offset + 1 - c.utf8Size)).map fun (before, behind) => (c :: before, behind)
    else none

/-- The text between two offsets, unless one of them is no place to cut or they are out of
order. -/
def slice? (t : Text) (start stop : Nat) : Option Text :=
  if start ≤ stop then
    match cut? t start with
    | none => none
    | some (_, behind) => (cut? behind (stop - start)).map Prod.fst
  else none

/-- A text is cut where so many bytes stand before the cut. -/
theorem cut?_eq_some_iff (t : Text) (offset : Nat) (before behind : Text) :
    cut? t offset = some (before, behind) ↔
      t = before ++ behind ∧ byteLength before = offset := by
  induction t generalizing offset before with
  | nil =>
    cases offset with
    | zero => cases before <;> cases behind <;> simp [cut?, byteLength]
    | succ offset =>
      simp only [cut?, reduceCtorEq, List.nil_eq_append_iff, false_iff, not_and, and_imp]
      rintro rfl -
      simp [byteLength]
  | cons c rest inductionHypothesis =>
    have positive := c.utf8Size_pos
    cases offset with
    | zero =>
      cases before with
      | nil => simp [cut?, byteLength, eq_comm]
      | cons first before =>
        have := first.utf8Size_pos
        simp only [cut?, byteLength, Option.some.injEq, Prod.mk.injEq, List.nil_eq, reduceCtorEq,
          false_and, false_iff, not_and]
        omega
    | succ offset =>
      unfold cut?
      cases before with
      | nil =>
        split <;> simp [byteLength]
      | cons first before =>
        split
        · rename_i fits
          simp only [Option.map_eq_some_iff, Prod.mk.injEq, List.cons.injEq, Prod.exists,
            List.cons_append, byteLength]
          constructor
          · rintro ⟨inner, outer, cut, ⟨rfl, rfl⟩, rfl⟩
            obtain ⟨rfl, length⟩ := (inductionHypothesis _ _).1 cut
            exact ⟨⟨rfl, rfl⟩, by omega⟩
          · rintro ⟨⟨rfl, rfl⟩, length⟩
            exact ⟨before, behind, (inductionHypothesis _ _).2 ⟨rfl, by omega⟩, ⟨rfl, rfl⟩, rfl⟩
        · rename_i tooLong
          simp only [reduceCtorEq, List.cons_append, List.cons.injEq, byteLength, false_iff,
            not_and, and_imp]
          rintro rfl -
          omega

/-- A text is cut behind what stands in front. -/
theorem cut?_append (before behind : Text) :
    cut? (before ++ behind) (byteLength before) = some (before, behind) :=
  (cut?_eq_some_iff _ _ _ _).2 ⟨rfl, rfl⟩

/-- There is a slice exactly where the text can be written with it between the offsets. -/
theorem slice?_eq_some_iff (t : Text) (start stop : Nat) (content : Text) :
    slice? t start stop = some content ↔
      ∃ before behind, t = before ++ content ++ behind ∧ start = byteLength before ∧
        stop = byteLength before + byteLength content := by
  unfold slice?
  constructor
  · intro sliced
    split at sliced
    · rename_i ordered
      split at sliced
      · cases sliced
      · rename_i before behind outer
        obtain ⟨⟨inside, behind⟩, inner, rfl⟩ := Option.map_eq_some_iff.1 sliced
        obtain ⟨rfl, startLength⟩ := (cut?_eq_some_iff _ _ _ _).1 outer
        obtain ⟨rfl, insideLength⟩ := (cut?_eq_some_iff _ _ _ _).1 inner
        exact ⟨before, behind, by simp, by omega, by simp only; omega⟩
    · cases sliced
  · rintro ⟨before, behind, rfl, rfl, rfl⟩
    have outer : cut? (before ++ content ++ behind) (byteLength before) =
        some (before, content ++ behind) :=
      (cut?_eq_some_iff _ _ _ _).2 ⟨by simp, rfl⟩
    have inner : cut? (content ++ behind) (byteLength content) = some (content, behind) :=
      (cut?_eq_some_iff _ _ _ _).2 ⟨rfl, rfl⟩
    simp only [Nat.le_add_right, ite_true, outer, Nat.add_sub_cancel_left, inner, Option.map_some]

end InputDeck.Text
