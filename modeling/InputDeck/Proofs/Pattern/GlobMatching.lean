import Mathlib.Data.List.Forall2
import InputDeck.Pattern.Glob

/-!
# One place to return to

Matching a glob in full tries every length for every star. The match that is run returns only to
the last star it has passed, and still finds what the full search does. What stands between two
stars takes as many characters wherever it is tried, so a later start of an earlier star leaves no
more text for the star behind it than the earliest start does, and what a star can do with less
text it can do with more.
-/

namespace InputDeck.Glob

/-- Whether the parts cover the text, with every length tried for every star. -/
def explore : List GlobToken → Text → Bool
  | [], t => t.isEmpty
  | .star :: others, [] => explore others []
  | .star :: others, c :: rest => explore others (c :: rest) || explore (.star :: others) rest
  | _ :: _, [] => false
  | token :: others, c :: rest => accepts token c && explore others rest
termination_by parts t => parts.length + t.length

/-- The parts take the characters one by one, and none of them is a star. -/
abbrev Takes : List GlobToken → Text → Prop :=
  List.Forall₂ fun token c => token ≠ .star ∧ accepts token c = true

/-- A part that is no star takes one character. -/
theorem explore_single {token : GlobToken} (single : token ≠ .star) (others : List GlobToken)
    (c : Char) (rest : Text) :
    explore (token :: others) (c :: rest) = (accepts token c && explore others rest) := by
  cases token with
  | star => exact absurd rfl single
  | _ =>
    rw [explore]
    simp

/-- A star takes the beginning of the text, however long. -/
theorem explore_star_iff (others : List GlobToken) (t : Text) :
    explore (.star :: others) t = true ↔
      ∃ early late, t = early ++ late ∧ explore others late = true := by
  induction t with
  | nil => simp [explore]
  | cons c rest inductionHypothesis =>
    rw [explore, Bool.or_eq_true, inductionHypothesis]
    constructor
    · rintro (here | ⟨early, late, rfl, further⟩)
      · exact ⟨[], c :: rest, rfl, here⟩
      · exact ⟨c :: early, late, rfl, further⟩
    · rintro ⟨early, late, split, found⟩
      cases early with
      | nil => exact .inl (split ▸ found)
      | cons d early =>
        cases split
        exact .inr ⟨early, late, rfl, found⟩

/-- Stars alone cover the empty text. -/
theorem explore_nil (parts : List GlobToken) : explore parts [] = parts.all (· == .star) := by
  induction parts with
  | nil => rw [explore]; rfl
  | cons token others inductionHypothesis =>
    cases token with
    | star =>
      rw [explore, inductionHypothesis]
      rfl
    | _ =>
      rw [explore]
      · rfl
      · simp

/-- What has been taken leaves the rest to the parts behind. -/
theorem explore_taken {taken : List GlobToken} {early : Text} (takes : Takes taken early)
    (parts : List GlobToken) (t : Text) :
    explore (taken ++ parts) (early ++ t) = explore parts t := by
  induction takes with
  | nil => rfl
  | cons takesOne _ inductionHypothesis =>
    rw [List.cons_append, List.cons_append, explore_single takesOne.1, takesOne.2,
      inductionHypothesis, Bool.true_and]

/-- Parts that are no stars take as many characters as they are, wherever they are tried. -/
theorem exists_of_explore_append {taken parts : List GlobToken} {t : Text}
    (single : ∀ token ∈ taken, token ≠ .star) (found : explore (taken ++ parts) t = true) :
    ∃ early late, t = early ++ late ∧ early.length = taken.length ∧
      explore parts late = true := by
  induction taken generalizing t with
  | nil => exact ⟨[], t, rfl, rfl, found⟩
  | cons token others inductionHypothesis =>
    obtain ⟨notStar, singles⟩ := List.forall_mem_cons.1 single
    cases t with
    | nil =>
      rw [List.cons_append, explore_nil, List.all_cons] at found
      simp [notStar] at found
    | cons c rest =>
      rw [List.cons_append, explore_single notStar, Bool.and_eq_true] at found
      obtain ⟨early, late, rfl, length, behind⟩ := inductionHypothesis singles found.2
      exact ⟨c :: early, late, rfl, by simp [length], behind⟩

/-- No star takes a character alone. -/
theorem Takes.single {taken : List GlobToken} {early : Text} (takes : Takes taken early) :
    ∀ token ∈ taken, token ≠ .star := by
  induction takes with
  | nil => simp
  | cons takesOne _ inductionHypothesis =>
    exact List.forall_mem_cons.2 ⟨takesOne.1, inductionHypothesis⟩

/-- Wherever what has been taken is tried again behind its star, the parts that follow are left with
no more text than they have. -/
theorem exists_suffix_of_explore {taken parts : List GlobToken} {early t : Text}
    (takes : Takes taken early)
    (found : explore (.star :: (taken ++ parts)) (early ++ t) = true) :
    ∃ late, late <:+ t ∧ explore parts late = true := by
  obtain ⟨skipped, tried, split, behind⟩ := (explore_star_iff _ _).1 found
  obtain ⟨again, late, rfl, length, last⟩ := exists_of_explore_append takes.single behind
  have sameLength : taken.length = early.length := takes.length_eq
  have whole := congrArg List.length split
  simp only [List.length_append] at whole
  have ending : late <:+ early ++ t := ⟨skipped ++ again, by rw [split, List.append_assoc]⟩
  have shorter : late.length ≤ t.length := by omega
  exact ⟨late, List.suffix_of_suffix_length_le ending (List.suffix_append early t) shorter, last⟩

/-- What has been taken since a star need not be tried in another place once the next star is
reached. -/
theorem explore_next_star {taken : List GlobToken} {early : Text} (takes : Takes taken early)
    (others : List GlobToken) (t : Text) :
    explore (.star :: (taken ++ .star :: others)) (early ++ t) = explore (.star :: others) t := by
  apply Bool.eq_iff_iff.2
  constructor
  · intro found
    obtain ⟨late, ⟨before, rfl⟩, behind⟩ := exists_suffix_of_explore takes found
    obtain ⟨between, last, rfl, covered⟩ := (explore_star_iff _ _).1 behind
    exact (explore_star_iff _ _).2 ⟨before ++ between, last, by simp, covered⟩
  · intro found
    exact (explore_star_iff _ _).2 ⟨[], early ++ t, rfl, by rwa [explore_taken takes]⟩

/-- At the end of the text, what has been taken since a star need not be tried in another place. -/
theorem explore_at_end {taken parts : List GlobToken} {early : Text} (takes : Takes taken early) :
    explore (.star :: (taken ++ parts)) early = explore parts [] := by
  apply Bool.eq_iff_iff.2
  constructor
  · intro found
    rw [← List.append_nil early] at found
    obtain ⟨late, ending, covered⟩ := exists_suffix_of_explore takes found
    rwa [List.suffix_nil.1 ending] at covered
  · intro found
    refine (explore_star_iff _ _).2 ⟨[], early, rfl, ?_⟩
    rw [← List.append_nil early]
    rwa [explore_taken takes]

/-- The parts take a character exactly when the first of them does and the others go on. -/
theorem explore_takeChar? {parts : List GlobToken} (noStar : ∀ others, parts ≠ .star :: others)
    (c : Char) (rest : Text) :
    explore parts (c :: rest) = (takeChar? parts c).any (explore · rest) := by
  cases parts with
  | nil =>
    rw [explore]
    rfl
  | cons token others =>
    have single : token ≠ .star := fun same => noStar others (same ▸ rfl)
    rw [explore_single single, takeChar?]
    cases accepts token c <;> rfl

/-- What has been taken since the star has the parts that were tried, and its text, in front of the
parts and the text that are left. -/
def Retry.Passed {t : Text} (parts : List GlobToken) (retry : Retry t) : Prop :=
  ∃ taken early, retry.tokens = taken ++ parts ∧ retry.reached = early ++ t ∧ Takes taken early

/-- A character that is taken is passed. -/
theorem Retry.passed_advance {parts others : List GlobToken} {c : Char} {rest : Text}
    {retry : Option (Retry (c :: rest))} (noStar : ∀ behind, parts ≠ .star :: behind)
    (taken : takeChar? parts c = some others) (passed : ∀ last ∈ retry, last.Passed parts) :
    ∀ last ∈ Retry.advance retry, last.Passed others := by
  intro last member
  obtain ⟨earlier, same, rfl⟩ := Option.map_eq_some_iff.1 member
  obtain ⟨before, early, tokens, reached, takes⟩ := passed earlier same
  cases parts with
  | nil => cases taken
  | cons token behind =>
    have single : token ≠ .star := fun star => noStar behind (star ▸ rfl)
    rw [takeChar?] at taken
    split at taken
    · rename_i accepted
      cases taken
      refine ⟨before ++ [token], early ++ [c], ?_, ?_, ?_⟩
      · simp [tokens]
      · simp [reached]
      · exact List.rel_append takes (.cons ⟨single, accepted⟩ .nil)
    · cases taken

/-- What the match is still to find: the parts in the text, or from the last star on what stands
behind it. -/
def pending (parts : List GlobToken) {t : Text} : Option (Retry t) → Bool
  | none => explore parts t
  | some last => explore (.star :: last.tokens) last.reached

/-- The match finds what is still to be found. The invariant is that everything since the last star
has been taken. -/
theorem matchFrom_eq {parts : List GlobToken} {t : Text} {retry : Option (Retry t)}
    (passed : ∀ last ∈ retry, last.Passed parts) :
    matchFrom parts t retry = pending parts retry := by
  fun_induction matchFrom parts t retry with
  | case1 parts retry =>
    cases retry with
    | none => exact (explore_nil parts).symm
    | some last =>
      obtain ⟨taken, early, tokens, reached, takes⟩ := passed last rfl
      rw [pending, tokens, reached, List.append_nil, explore_at_end takes, explore_nil]
  | case2 c rest others retry inductionHypothesis =>
    rw [inductionHypothesis]
    · cases retry with
      | none => rfl
      | some last =>
        obtain ⟨taken, early, tokens, reached, takes⟩ := passed last rfl
        rw [pending, pending, tokens, reached, explore_next_star takes]
    · rintro last same
      cases same
      exact ⟨[], [], rfl, rfl, .nil⟩
  | case3 c rest parts noStar others taken retry inductionHypothesis =>
    rw [inductionHypothesis (Retry.passed_advance noStar taken passed)]
    cases retry with
    | none =>
      rw [pending, explore_takeChar? noStar, taken]
      rfl
    | some last => rfl
  | case4 c rest parts noStar refused again d reached bounded inductionHypothesis =>
    obtain ⟨taken, early, tokens, split, takes⟩ := passed _ rfl
    simp only at tokens split
    have here : explore again (d :: reached) = false := by
      rw [tokens, split, explore_taken takes, explore_takeChar? noStar, refused]
      rfl
    rw [inductionHypothesis]
    · simp only [pending]
      conv_rhs => rw [explore, here, Bool.false_or]
    · rintro last same
      cases same
      exact ⟨[], [], rfl, rfl, .nil⟩
  | case5 c rest parts noStar refused retry exhausted =>
    cases retry with
    | none =>
      rw [pending, explore_takeChar? noStar, refused]
      rfl
    | some last =>
      obtain ⟨again, reached, bounded⟩ := last
      cases reached with
      | nil => simp at bounded
      | cons d reached => exact (exhausted again d reached bounded rfl).elim

/-- Returning to the last star alone loses no match and invents none. -/
theorem covers_eq_explore (glob name : Text) : covers glob name = explore (tokens glob) name := by
  apply matchFrom_eq
  intro last same
  cases same

end InputDeck.Glob
