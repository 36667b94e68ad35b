import InputDeck.Text.Slices
import InputDeck.Text.Search

/-!
# Where a mark occurs

A mark may occur in a text at several places, and these may overlap. A text is split at the first of
them, the one with the fewest bytes in front, and it is not split exactly if it has none. So what
stands before the split does not have a mark that is not empty, and neither does it together with
the beginning of a further one.

Split at every occurrence of a single character, a text has one part at least.
-/

namespace InputDeck.Text

/-- A text that is written with a mark inside is split at a mark. -/
theorem splitFirst_isSome (before mark after : Text) :
    (splitFirst mark (before ++ mark ++ after)).isSome = true := by
  induction before with
  | nil =>
    rw [List.nil_append]
    cases written : mark ++ after with
    | nil => simp [splitFirst, (List.append_eq_nil_iff.1 written).1]
    | cons c rest =>
      have begins := (after?_eq_some_iff mark (c :: rest) after).2 written.symm
      simp [splitFirst, begins]
  | cons c rest inductionHypothesis =>
    simp only [List.cons_append, splitFirst]
    split
    · rfl
    · simpa using inductionHypothesis

/-- A text contains a mark exactly if it is written with the mark inside. -/
theorem contains_iff (mark t : Text) : contains mark t = true ↔ mark <:+: t := by
  unfold contains
  constructor
  · intro found
    obtain ⟨⟨before, after⟩, split⟩ := Option.isSome_iff_exists.1 found
    exact ⟨before, after, (splitFirst_append split).symm⟩
  · rintro ⟨before, after, rfl⟩
    exact splitFirst_isSome before mark after

/-- A text is not split exactly if the mark does not occur in it. -/
theorem splitFirst_eq_none_iff (mark t : Text) : splitFirst mark t = none ↔ ¬mark <:+: t := by
  rw [← contains_iff, contains, Option.not_isSome_iff_eq_none]

/-! ## First occurrences -/

/-- The mark occurs in the text between these two, and nowhere at a smaller offset. -/
structure OccursFirst (mark t before following : Text) : Prop where
  written : t = before ++ mark ++ following
  first : ∀ earlier later, t = earlier ++ mark ++ later → byteLength before ≤ byteLength earlier

section

variable {mark t before following : Text}

/-- There is one first occurrence at most. -/
theorem OccursFirst.unique {before' following' : Text} (occurs : OccursFirst mark t before following)
    (other : OccursFirst mark t before' following') : before = before' ∧ following = following' := by
  have same : byteLength before = byteLength before' :=
    Nat.le_antisymm (occurs.first _ _ other.written) (other.first _ _ occurs.written)
  have cut := (cut?_eq_some_iff t _ before (mark ++ following)).2
    ⟨by rw [occurs.written, List.append_assoc], rfl⟩
  have otherCut := (cut?_eq_some_iff t _ before' (mark ++ following')).2
    ⟨by rw [other.written, List.append_assoc], rfl⟩
  rw [same, otherCut] at cut
  obtain ⟨rfl, rest⟩ := Prod.mk.inj (Option.some.inj cut)
  exact ⟨rfl, (List.append_cancel_left rest).symm⟩

/-- A text is split where a mark occurs first. -/
theorem occursFirst_of_splitFirst (found : splitFirst mark t = some (before, following)) :
    OccursFirst mark t before following := by
  refine ⟨splitFirst_append found, fun earlier later written => ?_⟩
  induction t generalizing before earlier with
  | nil =>
    unfold splitFirst at found
    split at found
    · cases found
      exact Nat.zero_le _
    · cases found
  | cons c rest inductionHypothesis =>
    unfold splitFirst at found
    split at found
    · cases found
      exact Nat.zero_le _
    · rename_i elsewhere
      obtain ⟨⟨inside, outside⟩, split, same⟩ := Option.map_eq_some_iff.1 found
      cases same
      cases earlier with
      | nil =>
        rw [(after?_eq_some_iff mark (c :: rest) later).2 written] at elsewhere
        cases elsewhere
      | cons d others =>
        obtain ⟨rfl, behind⟩ := List.cons.inj written
        exact Nat.add_le_add_left (inductionHypothesis split others behind) _

/-- A text is split exactly where a mark occurs first. -/
theorem splitFirst_eq_some_iff :
    splitFirst mark t = some (before, following) ↔ OccursFirst mark t before following := by
  constructor
  · exact occursFirst_of_splitFirst
  · intro occurs
    have found := splitFirst_isSome before mark following
    rw [← occurs.written] at found
    obtain ⟨⟨early, late⟩, split⟩ := Option.isSome_iff_exists.1 found
    obtain ⟨rfl, rfl⟩ := occurs.unique (occursFirst_of_splitFirst split)
    exact split

/-- A mark that occurs in a text occurs first somewhere. -/
theorem exists_occursFirst (occurs : mark <:+: t) :
    ∃ before following, OccursFirst mark t before following := by
  obtain ⟨⟨before, following⟩, split⟩ :=
    Option.isSome_iff_exists.1 ((contains_iff mark t).2 occurs)
  exact ⟨before, following, occursFirst_of_splitFirst split⟩

/-- A mark that is not empty does not occur before its first occurrence. -/
theorem OccursFirst.not_contained (occurs : OccursFirst mark t before following)
    (nonempty : mark ≠ []) : ¬mark <:+: before := by
  rintro ⟨early, late, rfl⟩
  have first := occurs.first early (late ++ mark ++ following) (by simp [occurs.written])
  obtain ⟨c, rest, rfl⟩ := List.exists_cons_of_ne_nil nonempty
  have positive := c.utf8Size_pos
  simp only [byteLength_append, byteLength] at first
  omega

/-- Where a mark occurs first in a text, it occurs first in the text that ends with it there. -/
theorem OccursFirst.at_end (occurs : OccursFirst mark t before following) :
    OccursFirst mark (before ++ mark) before [] := by
  refine ⟨by simp, fun earlier later written => ?_⟩
  exact occurs.first earlier (later ++ following) (by simp [occurs.written, written])

end

/-! ## Single characters -/

/-- A text that is not split at a character does not have it. -/
theorem not_mem_of_splitFirst {c : Char} {t : Text} (whole : splitFirst [c] t = none) : c ∉ t := by
  intro member
  obtain ⟨early, late, rfl⟩ := List.append_of_mem member
  exact (splitFirst_eq_none_iff [c] _).1 whole ⟨early, late, by simp⟩

/-- The text before the first occurrence of a character does not have it. -/
theorem not_mem_before_splitFirst {c : Char} {t before following : Text}
    (found : splitFirst [c] t = some (before, following)) : c ∉ before := by
  intro member
  obtain ⟨early, late, rfl⟩ := List.append_of_mem member
  have absent := (occursFirst_of_splitFirst found).not_contained (List.cons_ne_nil c [])
  exact absent ⟨early, late, by simp⟩

/-- A text that is split at every occurrence of a character has a part. -/
theorem splitOnChar_ne_nil (separator : Char) (t : Text) : splitOnChar separator t ≠ [] := by
  cases t with
  | nil => simp [splitOnChar]
  | cons c rest =>
    unfold splitOnChar
    split
    · simp
    · split <;> simp

end InputDeck.Text
