import Mathlib.Data.List.TakeWhile
import InputDeck.Text.Basic

/-!
# Cutting off the ends of a text

What is cut off at the end of a text depends on its last character outside of the class alone. So a
text keeps what stands before such a character, is not blank if it holds one that is no white
space, and is trimmed already if it holds no other.
-/

namespace InputDeck.Text

/-- Text that ends in a character outside of the class keeps its part up to there. -/
theorem dropEndWhile_append {inClass : Char → Bool} {d : Char} (outside : inClass d = false)
    (a b : Text) : dropEndWhile inClass (a ++ d :: b) = a ++ d :: dropEndWhile inClass b := by
  induction a with
  | nil =>
    rw [List.nil_append, List.nil_append, dropEndWhile]
    cases dropEndWhile inClass b with
    | nil => simp [outside]
    | cons c rest => rfl
  | cons c rest inductionHypothesis =>
    rw [List.cons_append, dropEndWhile, inductionHypothesis]
    cases rest <;> rfl

/-- Nothing is kept of a text in the class. -/
theorem dropEndWhile_eq_nil {inClass : Char → Bool} {t : Text}
    (within : ∀ c ∈ t, inClass c = true) : dropEndWhile inClass t = [] := by
  induction t with
  | nil => rfl
  | cons c rest inductionHypothesis =>
    obtain ⟨first, later⟩ := List.forall_mem_cons.1 within
    rw [dropEndWhile, inductionHypothesis later]
    exact if_pos first

/-- A text that does not end in the class is what is kept of it before characters of the class. -/
theorem dropEndWhile_append_of_within {inClass : Char → Bool} {kept ending : Text}
    (outside : ∀ d, kept.getLast? = some d → inClass d = false)
    (within : ∀ c ∈ ending, inClass c = true) :
    dropEndWhile inClass (kept ++ ending) = kept := by
  rcases List.eq_nil_or_concat kept with rfl | ⟨early, d, rfl⟩
  · exact dropEndWhile_eq_nil within
  · have same := dropEndWhile_append (outside d (by simp)) early ending
    rw [dropEndWhile_eq_nil within] at same
    simpa using same

/-- A text that ends outside of the class keeps its end before characters of the class. -/
theorem dropEndWhile_append_of_outside {inClass : Char → Bool} {first last ending : Text}
    (nonempty : last ≠ []) (outside : ∀ d, last.getLast? = some d → inClass d = false)
    (within : ∀ c ∈ ending, inClass c = true) :
    dropEndWhile inClass (first ++ last ++ ending) = first ++ last := by
  refine dropEndWhile_append_of_within ?_ within
  intro d ends
  rw [List.getLast?_append, Option.or_of_isSome (List.getLast?_isSome.2 nonempty)] at ends
  exact outside d ends

/-- A text with a character that is no white space is not blank. -/
theorem trim_ne_nil {t : Text} {c : Char} (member : c ∈ t) (visible : isBlank c = false) :
    trim t ≠ [] := by
  have inside : c ∈ trimStart t := by
    rw [← List.takeWhile_append_dropWhile (p := isBlank) (l := t), List.mem_append] at member
    refine member.resolve_left ?_
    intro blank
    have impossible := List.mem_takeWhile_imp blank
    rw [visible] at impossible
    cases impossible
  obtain ⟨early, late, split⟩ := List.append_of_mem inside
  rw [trim, split, dropEndWhile_append visible]
  simp

/-- A text without white space has none at its ends. -/
theorem trim_eq_self {t : Text} (visible : ∀ c ∈ t, isBlank c = false) : trim t = t := by
  have start : trimStart t = t := by
    cases t with
    | nil => rfl
    | cons c rest => simp [trimStart, visible c List.mem_cons_self]
  have kept : dropEndWhile isBlank (t ++ []) = t :=
    dropEndWhile_append_of_within (fun d last => visible d (List.mem_of_getLast? last)) (by simp)
  rw [List.append_nil] at kept
  rw [trim, start, kept]

/-- A text is white space throughout. -/
def Blank (gap : Text) : Prop := ∀ c ∈ gap, isBlank c = true

/-- The empty text holds nothing but white space. -/
theorem blank_nil : Blank [] := by simp [Blank]

/-- A space is white space. -/
theorem blank_space : Blank [' '] := by
  intro c member
  rw [List.mem_singleton.1 member]
  rfl

/-- The text does not begin with white space. -/
def Visible (t : Text) : Prop := ∀ c rest, t = c :: rest → isBlank c = false

/-- White space is passed over in front of any text. -/
theorem trimStart_append {gap : Text} (blank : Blank gap) (t : Text) :
    trimStart (gap ++ t) = trimStart t := List.dropWhile_append_of_pos blank

/-- A text that does not begin with white space is left as it is. -/
theorem trimStart_of_visible {t : Text} (visible : Visible t) : trimStart t = t := by
  cases t with
  | nil => rfl
  | cons c rest => simp [trimStart, visible c rest rfl]

/-- What is left of a text stands behind white space and does not begin with any. -/
theorem exists_gap (t : Text) : Visible (trimStart t) ∧ ∃ gap, Blank gap ∧ t = gap ++ trimStart t := by
  constructor
  · intro c rest same
    have stopped := List.head?_dropWhile_not isBlank t
    rw [trimStart] at same
    rw [same] at stopped
    simpa using stopped
  · refine ⟨t.takeWhile isBlank, ?_, (List.takeWhile_append_dropWhile).symm⟩
    exact fun c member => List.all_eq_true.1 List.all_takeWhile c member

/-- What is kept of a text ends outside of the class, and the rest is in the class. -/
theorem exists_end (inClass : Char → Bool) (t : Text) :
    (∀ d, (dropEndWhile inClass t).getLast? = some d → inClass d = false) ∧
      ∃ gap, (∀ c ∈ gap, inClass c = true) ∧ t = dropEndWhile inClass t ++ gap := by
  induction t with
  | nil => exact ⟨by simp [dropEndWhile], [], by simp, rfl⟩
  | cons c rest inductionHypothesis =>
    obtain ⟨outside, gap, within, split⟩ := inductionHypothesis
    cases kept : dropEndWhile inClass rest with
    | nil =>
      have whole : dropEndWhile inClass (c :: rest) = if inClass c then [] else [c] := by
        rw [dropEndWhile, kept]
      rw [kept, List.nil_append] at split
      rw [whole]
      by_cases inside : inClass c = true
      · refine ⟨by simp [inside], c :: gap, List.forall_mem_cons.2 ⟨inside, within⟩, ?_⟩
        simp [inside, split]
      · exact ⟨by simp [inside], gap, within, by simp [inside, split]⟩
    | cons d others =>
      have whole : dropEndWhile inClass (c :: rest) = c :: d :: others := by
        rw [dropEndWhile, kept]
      rw [kept] at outside split
      rw [whole]
      refine ⟨?_, gap, within, by simp [split]⟩
      simpa using outside

/-- A text is what stands between the white space at its ends. -/
theorem exists_trim_between (t : Text) :
    ∃ before after, Blank before ∧ Blank after ∧ t = before ++ trim t ++ after := by
  obtain ⟨-, before, blankBefore, start⟩ := exists_gap t
  obtain ⟨-, after, blankAfter, stop⟩ := exists_end isBlank (trimStart t)
  refine ⟨before, after, blankBefore, blankAfter, ?_⟩
  rw [trim, List.append_assoc, ← stop, ← start]

/-- A trimmed text begins and ends with something else than white space. -/
theorem visible_trim (t : Text) :
    Visible (trim t) ∧ ∀ d, (trim t).getLast? = some d → isBlank d = false := by
  obtain ⟨visible, -⟩ := exists_gap t
  obtain ⟨outside, gap, -, split⟩ := exists_end isBlank (trimStart t)
  refine ⟨?_, outside⟩
  intro c rest same
  rw [trim] at same
  refine visible c (rest ++ gap) ?_
  rw [split, same, List.cons_append]

/-- A text is trimmed once for all. -/
theorem trim_trim (t : Text) : trim (trim t) = trim t := by
  obtain ⟨visible, outside⟩ := visible_trim t
  have kept : dropEndWhile isBlank (trim t ++ []) = trim t :=
    dropEndWhile_append_of_within outside (by simp)
  rw [List.append_nil] at kept
  rw [trim, trimStart_of_visible visible, kept]

/-- White space at the beginning ends before a character that is none. -/
theorem trimStart_append_cons {c : Char} (visible : isBlank c = false) (before after : Text) :
    trimStart (before ++ c :: after) = trimStart before ++ c :: after := by
  induction before with
  | nil => simp [trimStart, visible]
  | cons b rest inductionHypothesis =>
    by_cases blank : isBlank b = true
    · simpa [trimStart, blank] using inductionHypothesis
    · simp [trimStart, blank]

/-- Trimming does not reach over a character that is no white space. -/
theorem trim_append_cons {c : Char} (visible : isBlank c = false) (before after : Text) :
    trim (before ++ c :: after) = trimStart before ++ c :: dropEndWhile isBlank after := by
  rw [trim, trimStart_append_cons visible, dropEndWhile_append visible]

/-- Trimming does not reach between two characters that are no white space. -/
theorem trim_append_visible {c d : Char} (first : isBlank c = false) (last : isBlank d = false)
    (before after : Text) :
    trim (before ++ c :: d :: after) = trimStart before ++ c :: d :: dropEndWhile isBlank after := by
  have stop := dropEndWhile_append last (trimStart before ++ [c]) after
  rw [trim, trimStart_append_cons first]
  simpa using stop

/-- Two neighbours that are no white space are neighbours in the trimmed text as well. -/
theorem neighbours_trim_iff {c d : Char} (first : isBlank c = false) (last : isBlank d = false)
    (t : Text) : [c, d] <:+: trim t ↔ [c, d] <:+: t := by
  constructor
  · rintro ⟨early, late, same⟩
    obtain ⟨before, after, -, -, split⟩ := exists_trim_between t
    exact ⟨before ++ early, late ++ after, by rw [split, ← same]; simp⟩
  · rintro ⟨before, after, rfl⟩
    refine ⟨trimStart before, dropEndWhile isBlank after, ?_⟩
    simpa using (trim_append_visible first last before after).symm

end InputDeck.Text
