import Mathlib.Data.List.Nodup
import InputDeck.Proofs.Number.Notation
import InputDeck.Proofs.Sweep.Cases

/-!
# Counting the cases of a sweep

Cases are counted in words. A build that checks its arithmetic refuses a sweep where the lists up to
one of them make more choices than there are words, even if a later list is empty. A build that does
not has the first cases, as many as what is left of the product in a word, and so it may have none
of many. Both give up cases that take more bytes than a row may.
-/

namespace InputDeck

namespace Counting

variable {counting : Counting}

/-- The build refuses to count the choices, a number of which is counted already: it checks its
arithmetic, and the lists up to one of them make more choices than there are words. -/
def Refuses (counting : Counting) (count : ℕ) (axes : List (Text × List Value)) : Prop :=
  counting.wraps = false ∧ ∃ front, front <+: axes ∧ 2 ^ 64 ≤ count * choiceCount front

/-- What holds of the lists up to one of them holds behind the first list as well. -/
theorem refuses_cons_iff (count : UInt64) (axis : Text × List Value)
    (rest : List (Text × List Value)) :
    counting.Refuses count.toNat (axis :: rest) ↔
      counting.Refuses (count.toNat * axis.2.length) rest := by
  have word := count.toNat_lt
  refine and_congr_right fun _ => ⟨?_, ?_⟩
  · rintro ⟨front, begins, large⟩
    rcases List.prefix_cons_iff.1 begins with rfl | ⟨later, rfl, further⟩
    · simp only [choiceCount, List.map_nil, List.prod_nil] at large
      omega
    · exact ⟨later, further, by rwa [Nat.mul_assoc, ← choiceCount_cons]⟩
  · rintro ⟨later, further, large⟩
    exact ⟨axis :: later, List.cons_prefix_cons.2 ⟨rfl, further⟩,
      by rwa [choiceCount_cons, ← Nat.mul_assoc]⟩

/-- A factor that is refused leaves no number of cases. -/
theorem multiply_eq_error {count : UInt64} {length : ℕ} (checks : counting.wraps = false)
    (large : 2 ^ 64 ≤ count.toNat * length) :
    counting.multiply count length = .error .tooManyCases := by
  rw [multiply, if_neg]
  simpa [checks, UInt64.size] using large

/-- A factor that is not refused is multiplied in words, and only what goes beyond a word is
lost. -/
theorem multiply_eq_ok {count : UInt64} {length : ℕ}
    (accepted : counting.wraps = true ∨ count.toNat * length < 2 ^ 64) :
    ∃ product, counting.multiply count length = .ok product ∧
      product.toNat = count.toNat * length % 2 ^ 64 := by
  refine ⟨count * UInt64.ofNat length, if_pos accepted, ?_⟩
  simp [UInt64.toNat_mul, Nat.mul_mod]

/-- What is refused is not counted. -/
theorem product_eq_error {count : UInt64} {axes : List (Text × List Value)}
    (refuses : counting.Refuses count.toNat axes) :
    counting.product count axes = .error .tooManyCases := by
  induction axes generalizing count with
  | nil =>
    obtain ⟨-, front, begins, large⟩ := refuses
    have word := count.toNat_lt
    rw [List.prefix_nil.1 begins] at large
    simp only [choiceCount, List.map_nil, List.prod_nil] at large
    omega
  | cons axis rest inductionHypothesis =>
    rw [refuses_cons_iff] at refuses
    rw [product]
    by_cases fits : count.toNat * axis.2.length < 2 ^ 64
    · obtain ⟨next, multiplied, exactly⟩ := @multiply_eq_ok counting count _ (.inr fits)
      rw [Nat.mod_eq_of_lt fits] at exactly
      rw [multiplied]
      exact inductionHypothesis (by rwa [exactly])
    · rw [multiply_eq_error refuses.1 (Nat.le_of_not_lt fits)]

/-- What is not refused is counted, and only what goes beyond a word is lost. -/
theorem product_eq_ok {count : UInt64} {axes : List (Text × List Value)}
    (accepted : ¬counting.Refuses count.toNat axes) :
    ∃ product, counting.product count axes = .ok product ∧
      product.toNat = count.toNat * choiceCount axes % 2 ^ 64 := by
  induction axes generalizing count with
  | nil =>
    refine ⟨count, rfl, ?_⟩
    simp [choiceCount, Nat.mod_eq_of_lt count.toNat_lt]
  | cons axis rest inductionHypothesis =>
    rw [refuses_cons_iff] at accepted
    have small : counting.wraps = true ∨ count.toNat * axis.2.length < 2 ^ 64 := by
      rcases Bool.eq_false_or_eq_true counting.wraps with wraps | checks
      · exact .inl wraps
      · refine .inr (Nat.lt_of_not_le fun large => accepted ⟨checks, [], List.nil_prefix, ?_⟩)
        simpa [choiceCount] using large
    obtain ⟨next, multiplied, counted⟩ := multiply_eq_ok small
    have later : ¬counting.Refuses next.toNat rest := by
      rintro ⟨checks, front, begins, large⟩
      have fits := small.resolve_left (by simp [checks])
      rw [counted, Nat.mod_eq_of_lt fits] at large
      exact accepted ⟨checks, front, begins, large⟩
    obtain ⟨last, rest, exactly⟩ := inductionHypothesis later
    refine ⟨last, by rw [product, multiplied]; exact rest, ?_⟩
    rw [exactly, counted, Nat.mod_mul_mod, choiceCount_cons, Nat.mul_assoc]

end Counting

/-- What becomes of a sweep: its choices are refused, they take too many bytes as cases, or the
first cases are made, as many as are counted. -/
inductive Counting.Outcome (counting : Counting) (axes : Axes) :
    Except SweepFault (List Case) → Prop
  | refused (refuses : counting.Refuses 1 axes.pairs) : Outcome counting axes (.error .tooManyCases)
  | tooLarge (accepted : ¬counting.Refuses 1 axes.pairs)
      (large : maxRowBytes < choiceCount axes.pairs % 2 ^ 64 * counting.caseBytes) :
      Outcome counting axes (.error .tooManyBytes)
  | made (accepted : ¬counting.Refuses 1 axes.pairs)
      (small : choiceCount axes.pairs % 2 ^ 64 * counting.caseBytes ≤ maxRowBytes) :
      Outcome counting axes (.ok ((allCases axes.pairs).take (choiceCount axes.pairs % 2 ^ 64)))

/-- One of these becomes of every sweep. -/
theorem outcome_grid (counting : Counting) (axes : Axes) :
    counting.Outcome axes (grid counting axes) := by
  by_cases refuses : counting.Refuses 1 axes.pairs
  · have counted : counting.product 1 axes.pairs = .error .tooManyCases :=
      Counting.product_eq_error refuses
    rw [grid, counted]
    exact .refused refuses
  · have accepted : ¬counting.Refuses (1 : UInt64).toNat axes.pairs := refuses
    obtain ⟨count, counted, exactly⟩ := Counting.product_eq_ok accepted
    rw [UInt64.toNat_one, Nat.one_mul] at exactly
    rw [grid, counted]
    by_cases small : choiceCount axes.pairs % 2 ^ 64 * counting.caseBytes ≤ maxRowBytes
    · have room : counting.reserve count = .ok () := by
        rw [Counting.reserve, exactly, if_pos small]
      have first := take_allCases (Nat.mod_le (choiceCount axes.pairs) (2 ^ 64))
      rw [← exactly] at first
      simp only [room, bind, Except.bind, pure, Except.pure]
      rw [← first, exactly]
      exact .made refuses small
    · have full : counting.reserve count = .error .tooManyBytes := by
        rw [Counting.reserve, exactly, if_neg small]
      simpa [full, bind, Except.bind] using
        Counting.Outcome.tooLarge refuses (Nat.lt_of_not_le small)

/-- Only one thing becomes of a sweep. -/
theorem outcome_iff (counting : Counting) (axes : Axes)
    (outcome : Except SweepFault (List Case)) :
    counting.Outcome axes outcome ↔ grid counting axes = outcome := by
  have given := outcome_grid counting axes
  constructor
  · intro becomes
    generalize grid counting axes = found at given
    cases given with
    | refused refuses =>
      cases becomes with
      | refused => rfl
      | tooLarge accepted => exact absurd refuses accepted
      | made accepted => exact absurd refuses accepted
    | tooLarge accepted large =>
      cases becomes with
      | refused refuses => exact absurd refuses accepted
      | tooLarge => rfl
      | made _ small => exact absurd small (Nat.not_le_of_lt large)
    | made accepted small =>
      cases becomes with
      | refused refuses => exact absurd refuses accepted
      | tooLarge _ large => exact absurd small (Nat.not_le_of_lt large)
      | made => rfl
  · rintro rfl
    exact given

section

variable (counting : Counting) (axes : Axes)

/-- A sweep has too many cases exactly if the build refuses to count its choices. -/
theorem grid_eq_tooManyCases_iff :
    grid counting axes = .error .tooManyCases ↔ counting.Refuses 1 axes.pairs := by
  rw [← outcome_iff]
  exact ⟨fun | .refused refuses => refuses, .refused⟩

/-- A sweep takes too many bytes exactly if its choices are counted and that many cases do. -/
theorem grid_eq_tooManyBytes_iff :
    grid counting axes = .error .tooManyBytes ↔ ¬counting.Refuses 1 axes.pairs ∧
      maxRowBytes < choiceCount axes.pairs % 2 ^ 64 * counting.caseBytes := by
  rw [← outcome_iff]
  exact ⟨fun | .tooLarge accepted large => ⟨accepted, large⟩,
    fun ⟨accepted, large⟩ => .tooLarge accepted large⟩

/-- A sweep has the first cases, as many as are counted, exactly if its choices are counted and that
many cases fit into a row. -/
theorem grid_eq_ok_iff (cases : List Case) :
    grid counting axes = .ok cases ↔ (¬counting.Refuses 1 axes.pairs ∧
      choiceCount axes.pairs % 2 ^ 64 * counting.caseBytes ≤ maxRowBytes) ∧
      cases = (allCases axes.pairs).take (choiceCount axes.pairs % 2 ^ 64) := by
  rw [← outcome_iff]
  constructor
  · rintro ⟨⟩
    rename_i accepted small
    exact ⟨⟨accepted, small⟩, rfl⟩
  · rintro ⟨⟨accepted, small⟩, rfl⟩
    exact .made accepted small

end

/-- Choices that are refused although they can be counted in words have an empty list among
theirs. -/
theorem exists_empty_of_refuses {counting : Counting} {axes : List (Text × List Value)}
    (fits : choiceCount axes < 2 ^ 64) (refuses : counting.Refuses 1 axes) :
    ∃ axis ∈ axes, axis.2 = [] := by
  obtain ⟨-, front, ⟨behind, rfl⟩, large⟩ := refuses
  have split : choiceCount (front ++ behind) = choiceCount front * choiceCount behind := by
    simp [choiceCount]
  rw [← choiceCount_eq_zero_iff]
  rw [split] at fits ⊢
  rcases Nat.eq_zero_or_pos (choiceCount behind) with none | some
  · rw [none, Nat.mul_zero]
  · have more := Nat.le_mul_of_pos_right (choiceCount front) some
    omega

/-- A build that checks its arithmetic refuses all choices that cannot be counted in words. -/
theorem refuses_of_large {counting : Counting} (checks : counting.wraps = false)
    {axes : List (Text × List Value)} (large : 2 ^ 64 ≤ choiceCount axes) :
    counting.Refuses 1 axes :=
  ⟨checks, axes, List.prefix_refl axes, by rwa [Nat.one_mul]⟩

/-- If the choices can be counted in words and the cases of all of them fit into a row, the cases of
a sweep are the choices, one for each in their order. So there are as many as the product of the
lengths says, none exactly if a list is empty, and one without values if there are no variables. A
sweep is given up where the cases take too many bytes, and where the build refuses to count them
although there is an empty list. -/
theorem sweep_lists_choices_in_order (counting : Counting) (axes : Axes)
    (fits : choiceCount axes.pairs < 2 ^ 64) :
    (¬counting.Refuses 1 axes.pairs →
      choiceCount axes.pairs * counting.caseBytes ≤ maxRowBytes →
      ∃ cases, grid counting axes = .ok cases ∧
        (∃ choices, ListsChoices axes.pairs choices ∧
          List.Forall₂ (Chooses axes.pairs) choices cases) ∧
        (∀ made ∈ cases, made.map (·.1) = axes.keys) ∧
        cases.length = choiceCount axes.pairs ∧
        (cases = [] ↔ ∃ axis ∈ axes.pairs, axis.2 = []) ∧
        (axes.pairs = [] → cases = [[]])) ∧
    (grid counting axes = .error .tooManyBytes ↔ ¬counting.Refuses 1 axes.pairs ∧
      maxRowBytes < choiceCount axes.pairs * counting.caseBytes) ∧
    (grid counting axes = .error .tooManyCases ↔ counting.Refuses 1 axes.pairs) ∧
    (counting.Refuses 1 axes.pairs → ∃ axis ∈ axes.pairs, axis.2 = []) := by
  have counted := Nat.mod_eq_of_lt fits
  have tooManyBytes := grid_eq_tooManyBytes_iff counting axes
  rw [counted] at tooManyBytes
  refine ⟨fun accepted small => ?_, tooManyBytes, grid_eq_tooManyCases_iff counting axes,
    exists_empty_of_refuses fits⟩
  refine ⟨allCases axes.pairs, (grid_eq_ok_iff counting axes _).2 ⟨⟨accepted, ?_⟩, ?_⟩,
    ⟨_, listsChoices_allChoices axes.pairs, chooses_allCases axes.pairs⟩, ?_,
    length_allCases axes.pairs, ?_, ?_⟩
  · rwa [counted]
  · rw [counted, ← length_allCases, List.take_length]
  · intro made member
    obtain ⟨number, -, rfl⟩ := List.mem_map.1 member
    exact keys_ofNumber number axes.pairs
  · rw [← choiceCount_eq_zero_iff, ← length_allCases, List.length_eq_zero_iff]
  · intro none
    rw [none]
    rfl

/-- A sweep of two variables. -/
def radiusAndEnrichment : Axes where
  pairs := [("radius".toList, [.real 8, .real 8.5, .real 9]),
    ("u5".toList, [.real 0.045, .real 0.05])]
  distinct := by decide

/-- Three values and two make six cases, and the values of the first variable change last. -/
theorem six_cases_of_two_variables :
    choiceCount radiusAndEnrichment.pairs < 2 ^ 64 ∧
    ∃ cases, grid .unchecked radiusAndEnrichment = .ok cases ∧
      (∃ choices, ListsChoices radiusAndEnrichment.pairs choices ∧
        List.Forall₂ (Chooses radiusAndEnrichment.pairs) choices cases) ∧
      cases.length = 6 ∧
      cases[1]? = some [("radius".toList, .real 8), ("u5".toList, .real 0.05)] := by
  have fits : choiceCount radiusAndEnrichment.pairs < 2 ^ 64 := by decide
  obtain ⟨makes, -⟩ := sweep_lists_choices_in_order .unchecked radiusAndEnrichment fits
  have accepted : ¬Counting.unchecked.Refuses 1 radiusAndEnrichment.pairs := by
    simp [Counting.Refuses, Counting.unchecked]
  obtain ⟨cases, made, listed, -, length, -⟩ := makes accepted (by decide)
  refine ⟨fits, cases, made, listed, length, ?_⟩
  obtain ⟨-, rfl⟩ := (grid_eq_ok_iff _ _ _).1 made
  rfl

/-- Variables with the values zero and one. -/
def switches (count : ℕ) : Axes where
  pairs := (List.range count).map fun number => (renderNat number, [.int 0, .int 1])
  distinct := by
    have injective : Function.Injective renderNat :=
      Function.LeftInverse.injective digitsValue_renderNat
    simpa [Function.comp_def] using List.nodup_range.map injective

/-- Every switch doubles the number of choices. -/
theorem choiceCount_switches (count : ℕ) : choiceCount (switches count).pairs = 2 ^ count := by
  simp [choiceCount, switches, Function.comp_def]

/-- Sixty-four switches and a variable without values. -/
def switchesWithoutCase : Axes where
  pairs := (switches 64).pairs ++ [("64".toList, [])]
  distinct := by decide +kernel

/-- A variable without values leaves no choice. -/
theorem choiceCount_switchesWithoutCase : choiceCount switchesWithoutCase.pairs = 0 :=
  (choiceCount_eq_zero_iff _).2 ⟨("64".toList, []), by simp [switchesWithoutCase], rfl⟩

/-- A build that checks its arithmetic refuses the switches before it sees that a list is empty. -/
theorem refuses_switchesWithoutCase : Counting.checked.Refuses 1 switchesWithoutCase.pairs :=
  ⟨rfl, (switches 64).pairs, List.prefix_append _ _, by rw [choiceCount_switches]; decide⟩

/-- Without any choice the sweep should have no case and is given up, and so is a sweep of sixty
switches, whose choices can be counted in words. -/
theorem countable_sweeps_given_up :
    choiceCount switchesWithoutCase.pairs = 0 ∧
      grid .checked switchesWithoutCase = .error .tooManyCases ∧
      choiceCount (switches 60).pairs = 2 ^ 60 ∧
      grid .checked (switches 60) = .error .tooManyBytes ∧
      grid .unchecked (switches 60) = .error .tooManyBytes := by
  have accepted (counting : Counting) : ¬counting.Refuses 1 (switches 60).pairs := by
    intro refuses
    obtain ⟨axis, member, none⟩ :=
      exists_empty_of_refuses (by rw [choiceCount_switches]; decide) refuses
    obtain ⟨number, -, rfl⟩ := List.mem_map.1 member
    cases none
  have large (counting : Counting) (bytes : counting.caseBytes = 72) :
      grid counting (switches 60) = .error .tooManyBytes := by
    refine (grid_eq_tooManyBytes_iff counting _).2 ⟨accepted counting, ?_⟩
    rw [choiceCount_switches, bytes]
    decide
  exact ⟨choiceCount_switchesWithoutCase,
    (grid_eq_tooManyCases_iff _ _).2 refuses_switchesWithoutCase, choiceCount_switches 60,
    large .checked rfl, large .unchecked rfl⟩

/-- Cases are counted in words, and a sweep that is not given up has the first cases, as many as
the word says. So it has all cases exactly if they can be counted in words; and then it has none
exactly if a list is empty. Otherwise a build that checks its arithmetic gives the sweep up. In
one that does not, cases are missing without notice, and all of them if their number is a multiple
of the number of words. -/
theorem sweep_is_counted_in_words (counting : Counting) (axes : Axes) :
    (∀ cases, grid counting axes = .ok cases →
      (∃ choices, ListsChoices axes.pairs choices ∧
        List.Forall₂ (Chooses axes.pairs) (choices.take (choiceCount axes.pairs % 2 ^ 64)) cases) ∧
      cases.length = choiceCount axes.pairs % 2 ^ 64 ∧
      (cases.length = choiceCount axes.pairs ↔ choiceCount axes.pairs < 2 ^ 64) ∧
      (choiceCount axes.pairs < 2 ^ 64 → (cases = [] ↔ ∃ axis ∈ axes.pairs, axis.2 = []))) ∧
    ((∃ cases, grid counting axes = .ok cases) ↔ ¬counting.Refuses 1 axes.pairs ∧
      choiceCount axes.pairs % 2 ^ 64 * counting.caseBytes ≤ maxRowBytes) ∧
    (counting.wraps = false →
      (2 ^ 64 ≤ choiceCount axes.pairs → grid counting axes = .error .tooManyCases) ∧
        ∀ cases, grid counting axes = .ok cases → cases.length = choiceCount axes.pairs) ∧
    (counting.wraps = true →
      (grid counting axes = .ok [] ↔ 2 ^ 64 ∣ choiceCount axes.pairs)) := by
  have length : ((allCases axes.pairs).take (choiceCount axes.pairs % 2 ^ 64)).length =
      choiceCount axes.pairs % 2 ^ 64 := by
    rw [List.length_take, length_allCases, Nat.min_eq_left (Nat.mod_le _ _)]
  refine ⟨fun cases made => ?_, ?_, fun checks => ⟨fun large => ?_, fun cases made => ?_⟩,
    fun wraps => ?_⟩
  · obtain ⟨-, rfl⟩ := (grid_eq_ok_iff counting axes cases).1 made
    refine ⟨⟨_, listsChoices_allChoices axes.pairs,
      List.forall₂_take _ (chooses_allCases axes.pairs)⟩, length, ?_, fun fits => ?_⟩
    · rw [length, Nat.mod_eq_iff_lt (by decide)]
    · rw [← choiceCount_eq_zero_iff, ← List.length_eq_zero_iff, length, Nat.mod_eq_of_lt fits]
  · constructor
    · rintro ⟨cases, made⟩
      exact ((grid_eq_ok_iff counting axes cases).1 made).1
    · intro fits
      exact ⟨_, (grid_eq_ok_iff counting axes _).2 ⟨fits, rfl⟩⟩
  · exact (grid_eq_tooManyCases_iff counting axes).2 (refuses_of_large checks large)
  · obtain ⟨⟨accepted, -⟩, rfl⟩ := (grid_eq_ok_iff counting axes cases).1 made
    rw [length, Nat.mod_eq_iff_lt (by decide)]
    exact Nat.lt_of_not_le fun large => accepted (refuses_of_large checks large)
  · rw [grid_eq_ok_iff, Nat.dvd_iff_mod_eq_zero]
    constructor
    · rintro ⟨-, none⟩
      rw [← none] at length
      exact length.symm
    · intro none
      rw [none]
      refine ⟨⟨fun refuses => ?_, by simp⟩, rfl⟩
      rw [refuses.1] at wraps
      cases wraps

/-- Sixty-four switches have choices, but a build that does not check its arithmetic finds no case
of them. A build that does gives them up, even with a variable that leaves no choice. -/
theorem no_case_of_sixty_four_switches :
    (∀ axis ∈ (switches 64).pairs, axis.2 ≠ []) ∧ choiceCount (switches 64).pairs = 2 ^ 64 ∧
      grid .unchecked (switches 64) = .ok [] ∧
      grid .checked (switches 64) = .error .tooManyCases ∧
      choiceCount switchesWithoutCase.pairs = 0 ∧
      grid .checked switchesWithoutCase = .error .tooManyCases := by
  refine ⟨by simp [switches], choiceCount_switches 64, ?_, ?_, choiceCount_switchesWithoutCase,
    (grid_eq_tooManyCases_iff _ _).2 refuses_switchesWithoutCase⟩
  · rw [grid_eq_ok_iff, choiceCount_switches, Nat.mod_self]
    simp [Counting.Refuses, Counting.unchecked]
  · refine (grid_eq_tooManyCases_iff _ _).2 (refuses_of_large rfl ?_)
    rw [choiceCount_switches]

end InputDeck
