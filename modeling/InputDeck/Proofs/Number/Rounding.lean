import Mathlib.Algebra.Order.Archimedean.Basic
import Mathlib.Algebra.Order.Field.Power
import Mathlib.Algebra.Order.Ring.Unbundled.Rat
import Mathlib.Tactic.FieldSimp
import Mathlib.Tactic.Linarith
import Mathlib.Tactic.NormNum
import Mathlib.Tactic.Positivity
import Mathlib.Tactic.Ring

/-!
# Rounding to binary numbers of 64 bits

A quantity is rounded in two steps. Its mantissa is cut off at the exponent that leaves 53 bits,
or at the least exponent there is, with what was cut off told as exact, below, at or above one
half; then the mantissa goes to the nearest integer, an even one deciding between two. A number
of the format is therefore the result exactly for the quantities of an interval around it, and
how the quantity was given, as a product or as a quotient, makes no difference.
-/

namespace InputDeck.Rounding

open Float.Model Float.Model.UnpackedFloat

/-! ## Nearest integers -/

/-- The integer is nearest to the quantity, and it is even if another one is as near. -/
structure NearestEven (q : ℚ) (n : ℕ) : Prop where
  below : n - 1 / 2 ≤ q
  above : q ≤ n + 1 / 2
  strict : n % 2 = 1 → n - 1 / 2 < q ∧ q < n + 1 / 2

/-- There is only one nearest integer. -/
theorem NearestEven.unique {q : ℚ} {m n : ℕ} (left : NearestEven q m) (right : NearestEven q n) :
    m = n := by
  -- Two different ones are neighbours, with the quantity halfway between them.
  have apart : ∀ {m n : ℕ}, NearestEven q m → NearestEven q n → ¬m < n := by
    intro m n left right less
    have atLeast : (m : ℚ) + 1 ≤ n := by exact_mod_cast less
    have atMost : (n : ℚ) ≤ m + 1 := by linarith [left.above, right.below]
    have next : n = m + 1 := by exact_mod_cast le_antisymm atMost atLeast
    have halfway : q = m + 1 / 2 := by linarith [left.above, right.below]
    rcases Nat.mod_two_eq_zero_or_one m with even | odd
    · linarith [(right.strict (by omega)).1]
    · linarith [(left.strict odd).2]
  exact le_antisymm (not_lt.1 (apart right left)) (not_lt.1 (apart left right))

/-- An integer is nearest to itself. -/
theorem NearestEven.self (n : ℕ) : NearestEven n n := by
  refine ⟨?_, ?_, fun _ => ⟨?_, ?_⟩⟩ <;> linarith

/-- Only an integer itself is nearest to it. -/
theorem NearestEven.natCast_eq {k n : ℕ} (nearest : NearestEven k n) : k = n :=
  (NearestEven.self k).unique nearest

/-- The accuracy tells where the quantity lies between the mantissa and the next one. -/
def Approximates (mantissa : ℕ) (accuracy : Accuracy) (q : ℚ) : Prop :=
  match accuracy with
  | .exact => q = mantissa
  | .inexact .lt => mantissa < q ∧ q < mantissa + 1 / 2
  | .inexact .eq => q = mantissa + 1 / 2
  | .inexact .gt => mantissa + 1 / 2 < q ∧ q < mantissa + 1

/-- The mantissa is what is left of the quantity without its fraction. -/
theorem Approximates.bounds {mantissa : ℕ} {accuracy : Accuracy} {q : ℚ}
    (approximates : Approximates mantissa accuracy q) : mantissa ≤ q ∧ q < mantissa + 1 := by
  unfold Approximates at approximates
  split at approximates
  all_goals constructor <;> linarith

/-- Rounding by the accuracy goes to the nearest integer. -/
theorem Approximates.nearestEven {mantissa : ℕ} {accuracy : Accuracy} {q : ℚ}
    (approximates : Approximates mantissa accuracy q) :
    NearestEven q (accuracy.roundToNearestEven mantissa) := by
  unfold Approximates at approximates
  split at approximates
  all_goals simp only [Accuracy.roundToNearestEven]
  case h_1 =>
    refine ⟨?_, ?_, fun _ => ⟨?_, ?_⟩⟩ <;> linarith
  case h_2 =>
    refine ⟨?_, ?_, fun _ => ⟨?_, ?_⟩⟩ <;> linarith
  case h_3 =>
    rcases Nat.mod_two_eq_zero_or_one mantissa with even | odd
    · rw [even]
      refine ⟨?_, ?_, fun odd => by omega⟩ <;> push_cast <;> linarith
    · rw [odd]
      refine ⟨?_, ?_, fun odd => by omega⟩ <;> push_cast <;> linarith
  case h_4 =>
    refine ⟨?_, ?_, fun _ => ⟨?_, ?_⟩⟩ <;> push_cast <;> linarith

/-- What a mantissa with its residual bits stands for. -/
def Represents (extended : ExtendedMantissa) (q : ℚ) : Prop :=
  Approximates extended.mantissa extended.accuracy q

/-- An accuracy is kept in the residual bits. -/
theorem represents_ofMantissaAndAccuracy {mantissa : ℕ} {accuracy : Accuracy} {q : ℚ}
    (approximates : Approximates mantissa accuracy q) :
    Represents (.ofMantissaAndAccuracy mantissa accuracy) q := by
  rcases accuracy with _ | (_ | _ | _) <;> exact approximates

/-- A shift by one place halves the quantity. -/
theorem Represents.shiftRightOne {extended : ExtendedMantissa} {q : ℚ}
    (represents : Represents extended q) : Represents extended.shiftRightOne (q / 2) := by
  obtain ⟨mantissa, roundBit, stickyBit⟩ := extended
  have division : ((mantissa % 2 : ℕ) : ℚ) + 2 * ((mantissa / 2 : ℕ) : ℚ) = mantissa := by
    exact_mod_cast Nat.mod_add_div mantissa 2
  rcases Nat.mod_two_eq_zero_or_one mantissa with parity | parity
  all_goals rw [parity] at division
  all_goals push_cast at division
  all_goals cases roundBit <;> cases stickyBit
  all_goals
    simp only [Represents, Approximates, ExtendedMantissa.accuracy,
      ExtendedMantissa.shiftRightOne, parity, Bool.or_false, Bool.or_true, bne_self_eq_false,
      Nat.reduceBNe] at represents ⊢
  all_goals first | linarith | (constructor <;> linarith)

/-- A shift by several places divides by the power of two. -/
theorem Represents.shiftRight {extended : ExtendedMantissa} {q : ℚ}
    (represents : Represents extended q) (places : ℕ) :
    Represents (extended >>> places) (q / 2 ^ places) := by
  change Represents (places.repeat ExtendedMantissa.shiftRightOne extended) _
  induction places with
  | zero => simpa [Nat.repeat] using represents
  | succ places ih =>
    have halved := ih.shiftRightOne
    rwa [div_div, ← pow_succ] at halved

/-! ## Numbers of the format -/

/-- A positive number of the format has a mantissa of 53 bits, or of fewer at the least
exponent. -/
structure Canonical (mantissa : ℕ) (exponent : ℤ) : Prop where
  positive : 0 < mantissa
  fits : mantissa < 2 ^ 53
  least : -1074 ≤ exponent
  greatest : exponent ≤ 971
  full : -1074 < exponent → 2 ^ 52 ≤ mantissa

/-- The quantity is nearer to the number than to the other numbers of the format, or as near and
the mantissa is even. Below a power of two they lie twice as dense as above it. -/
structure RoundsTo (q : ℚ) (mantissa : ℕ) (exponent : ℤ) : Prop where
  nearest : NearestEven (q / 2 ^ exponent) mantissa
  dense : mantissa = 2 ^ 52 → -1074 < exponent → mantissa - 1 / 4 ≤ q / 2 ^ exponent

/-- A mantissa has 53 bits. -/
theorem mantissaBits_binary64 : Format.binary64.mantissaBits = 53 := rfl

/-- The exponent that a mantissa is cut off at. -/
theorem targetExponent_eq (mantissa : ℕ) (exponent : ℤ) :
    Format.binary64.targetExponent (totalExponent mantissa exponent) =
      max (mantissa.log2 + exponent - 52) (-1074) := by
  simp only [Format.targetExponent, totalExponent, mantissaBits_binary64, Format.minExponent]
  norm_num
  omega

/-- A mantissa of 53 bits, or of fewer at the least exponent, is cut off at its own exponent. -/
theorem targetExponent_of_bits {mantissa : ℕ} {exponent : ℤ} (positive : 0 < mantissa)
    (fits : mantissa < 2 ^ 53) (least : -1074 ≤ exponent)
    (full : -1074 < exponent → 2 ^ 52 ≤ mantissa) :
    Format.binary64.targetExponent (totalExponent mantissa exponent) = exponent := by
  have most : mantissa.log2 < 53 := (Nat.log2_lt positive.ne').2 fits
  rw [targetExponent_eq]
  rcases least.lt_or_eq with greater | same
  · have atLeast : 52 ≤ mantissa.log2 := (Nat.le_log2 positive.ne').2 (full greater)
    omega
  · omega

/-- A shift by no place changes nothing. -/
theorem shiftRight_zero (extended : ExtendedMantissa) : extended >>> 0 = extended := rfl

/-- Such a mantissa is not shifted. -/
theorem shiftToTargetExponent_of_bits {mantissa : ℕ} {exponent : ℤ} (positive : 0 < mantissa)
    (fits : mantissa < 2 ^ 53) (least : -1074 ≤ exponent)
    (full : -1074 < exponent → 2 ^ 52 ≤ mantissa) :
    shiftToTargetExponent Format.binary64 mantissa exponent .exact =
      (⟨mantissa, false, false⟩, exponent) := by
  simp [shiftToTargetExponent, shiftToExponent, targetExponent_of_bits positive fits least full,
    shiftRight_zero, ExtendedMantissa.ofMantissaAndAccuracy]

/-- A number of the format is not shifted. -/
theorem Canonical.shiftToTargetExponent_eq {mantissa : ℕ} {exponent : ℤ}
    (canonical : Canonical mantissa exponent) :
    shiftToTargetExponent Format.binary64 mantissa exponent .exact =
      (⟨mantissa, false, false⟩, exponent) :=
  shiftToTargetExponent_of_bits canonical.positive canonical.fits canonical.least canonical.full

/-- A mantissa rounded up to 54 bits is shifted by one place. -/
theorem shiftToTargetExponent_carry {exponent : ℤ} (least : -1074 ≤ exponent) :
    shiftToTargetExponent Format.binary64 (2 ^ 53) exponent .exact =
      (⟨2 ^ 52, false, false⟩, exponent + 1) := by
  have target : Format.binary64.targetExponent (totalExponent (2 ^ 53) exponent) =
      exponent + 1 := by
    rw [targetExponent_eq, Nat.log2_two_pow]
    push_cast
    omega
  have place : (exponent + 1 - exponent).toNat = 1 := by omega
  simp only [shiftToTargetExponent, shiftToExponent, target, place,
    ExtendedMantissa.ofMantissaAndAccuracy]
  rfl

/-! ## Rounding a quantity -/

section

variable {q : ℚ} {mantissa : ℕ} {exponent : ℤ}

/-- Powers of two with exponents in order. -/
theorem zpow_two_le {a b : ℤ} (le : a ≤ b) : (2 : ℚ) ^ a ≤ 2 ^ b :=
  zpow_le_zpow_right₀ one_le_two le

/-- The numbers that a number of the format is rounded from are about as large as it. -/
theorem RoundsTo.bounds (rounds : RoundsTo q mantissa exponent) :
    (mantissa - 1 / 2) * 2 ^ exponent ≤ q ∧ q ≤ (mantissa + 1 / 2) * 2 ^ exponent := by
  have positive : (0 : ℚ) < 2 ^ exponent := zpow_pos two_pos _
  exact ⟨(le_div_iff₀ positive).1 rounds.nearest.below,
    (div_le_iff₀ positive).1 rounds.nearest.above⟩

/-- A quantity is cut off at the exponent of the number it is rounded to or, if it is below a
power of two and rounded up to it, at the exponent before that. -/
theorem exponent_of_roundsTo (canonical : Canonical mantissa exponent)
    (rounds : RoundsTo q mantissa exponent) {target : ℤ} (least : -1074 ≤ target)
    (below : q < 2 ^ (target + 53)) (atLeast : -1074 < target → 2 ^ (target + 52) ≤ q) :
    target = exponent ∨
      (exponent = target + 1 ∧ mantissa = 2 ^ 52 ∧ NearestEven (q / 2 ^ target) (2 ^ 53)) := by
  obtain ⟨low, high⟩ := rounds.bounds
  have ulp : (0 : ℚ) < 2 ^ exponent := zpow_pos two_pos _
  have scaled : ∀ n : ℤ, (2 : ℚ) ^ (exponent + n) = 2 ^ n * 2 ^ exponent := by
    intro n
    rw [add_comm, zpow_add₀ two_ne_zero]
  rcases lt_trichotomy target exponent with less | same | greater
  · right
    have full : 2 ^ 52 ≤ mantissa := canonical.full (least.trans_lt less)
    have belowPower : q < 2 ^ 52 * 2 ^ exponent := by
      have le : target + 53 ≤ exponent + 52 := by omega
      calc q < 2 ^ (target + 53) := below
        _ ≤ 2 ^ (exponent + 52) := zpow_two_le le
        _ = 2 ^ 52 * 2 ^ exponent := by rw [scaled]; norm_num
    have notGreater : (mantissa : ℚ) < 2 ^ 52 + 1 := by
      have := lt_of_mul_lt_mul_right (low.trans_lt belowPower) ulp.le
      linarith
    have power : mantissa = 2 ^ 52 := by
      have : mantissa < 2 ^ 52 + 1 := by exact_mod_cast notGreater
      omega
    have dense := (le_div_iff₀ ulp).1 (rounds.dense power (least.trans_lt less))
    subst power
    have next : exponent = target + 1 := by
      by_contra other
      have le : target + 53 ≤ exponent + 51 := by omega
      have small : q < 2 ^ 51 * 2 ^ exponent := by
        calc q < 2 ^ (target + 53) := below
          _ ≤ 2 ^ (exponent + 51) := zpow_two_le le
          _ = 2 ^ 51 * 2 ^ exponent := by rw [scaled]; norm_num
      push_cast at dense
      have := lt_of_mul_lt_mul_right (dense.trans_lt small) ulp.le
      norm_num at this
    refine ⟨next, rfl, ?_⟩
    have halves : (2 : ℚ) ^ exponent = 2 * 2 ^ target := by
      rw [next, zpow_add₀ two_ne_zero, zpow_one, mul_comm]
    have targetPositive : (0 : ℚ) < 2 ^ target := zpow_pos two_pos _
    rw [halves] at dense belowPower
    push_cast at dense
    refine ⟨?_, ?_, fun odd => absurd odd (by decide)⟩
    · rw [le_div_iff₀ targetPositive]
      push_cast
      linarith
    · rw [div_le_iff₀ targetPositive]
      push_cast
      linarith
  · exact .inl same
  · have le : exponent + 53 ≤ target + 52 := by omega
    have large : 2 ^ 53 * 2 ^ exponent ≤ q := by
      calc 2 ^ 53 * (2 : ℚ) ^ exponent = 2 ^ (exponent + 53) := by rw [scaled]; norm_num
        _ ≤ 2 ^ (target + 52) := zpow_two_le le
        _ ≤ q := atLeast (canonical.least.trans_lt greater)
    have fits : (mantissa : ℚ) + 1 ≤ 2 ^ 53 := by exact_mod_cast canonical.fits
    have := le_of_mul_le_mul_right (large.trans high) ulp
    linarith

/-- A quantity has at most 53 bits before the exponent it is cut off at, and exactly as many unless
that is the least exponent. -/
theorem Approximates.magnitude {m : ℕ} {e : ℤ} {accuracy : Accuracy}
    (approximates : Approximates m accuracy (q / 2 ^ e)) {target : ℤ}
    (targeted : Format.binary64.targetExponent (totalExponent m e) = target)
    (enough : e ≤ target) :
    q < 2 ^ (target + 53) ∧ (-1074 < target → 2 ^ (target + 52) ≤ q) := by
  obtain ⟨atLeast, below⟩ := approximates.bounds
  have unit : (0 : ℚ) < 2 ^ e := zpow_pos two_pos _
  rw [le_div_iff₀ unit] at atLeast
  rw [div_lt_iff₀ unit] at below
  rw [targetExponent_eq] at targeted
  constructor
  · have bits : (m : ℚ) + 1 ≤ 2 ^ (m.log2 + 1) := by exact_mod_cast Nat.lt_log2_self (n := m)
    have le : ((m.log2 + 1 : ℕ) : ℤ) + e ≤ target + 53 := by omega
    calc q < (m + 1) * 2 ^ e := below
      _ ≤ 2 ^ (m.log2 + 1) * 2 ^ e := mul_le_mul_of_nonneg_right bits unit.le
      _ = 2 ^ (((m.log2 + 1 : ℕ) : ℤ) + e) := by rw [zpow_add₀ two_ne_zero, zpow_natCast]
      _ ≤ 2 ^ (target + 53) := zpow_two_le le
  · intro normal
    have same : target + 52 = (m.log2 : ℤ) + e := by omega
    have nonzero : m ≠ 0 := by
      rintro rfl
      simp only [Nat.log2_zero] at targeted
      omega
    have bits : (2 : ℚ) ^ m.log2 ≤ m := by exact_mod_cast Nat.log2_self_le nonzero
    calc (2 : ℚ) ^ (target + 52) = 2 ^ m.log2 * 2 ^ e := by
          rw [same, zpow_add₀ two_ne_zero, zpow_natCast]
      _ ≤ m * 2 ^ e := mul_le_mul_of_nonneg_right bits unit.le
      _ ≤ q := atLeast

/-- A quantity that is cut off at the exponent that leaves it 53 bits, or at the least one, has this
mantissa when it is rounded there. -/
structure CutOff (q : ℚ) (mantissa : ℕ) (target : ℤ) : Prop where
  least : -1074 ≤ target
  below : q < 2 ^ (target + 53)
  atLeast : -1074 < target → 2 ^ (target + 52) ≤ q
  nearest : NearestEven (q / 2 ^ target) mantissa

/-- What a rounded mantissa becomes, which is a bit too long if it was rounded up to a power of
two. -/
def carried (sign : Sign) (mantissa : ℕ) (target : ℤ) : UnpackedFloat :=
  let (final, exponent) := shiftToTargetExponent Format.binary64 mantissa target .exact
  if zero : final.mantissa = 0 then .zero sign
  else .finite sign final.mantissa exponent (Nat.pos_of_ne_zero zero)

/-- A rounded mantissa stays what its final shift leaves of it. -/
theorem carried_eq {sign : Sign} {rounded : ℕ} {target : ℤ}
    (shifted : shiftToTargetExponent Format.binary64 rounded target .exact =
      (⟨mantissa, false, false⟩, exponent)) (positive : 0 < mantissa) :
    carried sign rounded target = .finite sign mantissa exponent positive := by
  rw [carried, shifted]
  exact dif_neg positive.ne'

/-- A quantity given by a mantissa, an exponent and an accuracy is cut off and rounded. -/
theorem exists_cutOff {m : ℕ} {e : ℤ} {accuracy : Accuracy}
    (approximates : Approximates m accuracy (q / 2 ^ e))
    (enough : e ≤ Format.binary64.targetExponent (totalExponent m e)) :
    ∃ n target, CutOff q n target ∧ ∀ sign,
      roundWithAccuracy Format.binary64 sign m e accuracy = carried sign n target := by
  generalize targeted : Format.binary64.targetExponent (totalExponent m e) = target at enough
  obtain ⟨below, atLeast⟩ := approximates.magnitude targeted enough
  have least : -1074 ≤ target := by
    rw [targetExponent_eq] at targeted
    omega
  let extended := ExtendedMantissa.ofMantissaAndAccuracy m accuracy >>> (target - e).toNat
  have first : shiftToTargetExponent Format.binary64 m e accuracy = (extended, target) := by
    have reached : e + ((target - e).toNat : ℤ) = target := by omega
    simp only [shiftToTargetExponent, targeted, shiftToExponent, reached, extended]
  have nearest : NearestEven (q / 2 ^ target) extended.roundedMantissa := by
    have shifted := (represents_ofMantissaAndAccuracy approximates).shiftRight (target - e).toNat
    have places : (2 : ℚ) ^ e * 2 ^ (target - e).toNat = 2 ^ target := by
      rw [← zpow_natCast, Int.toNat_of_nonneg (by omega), ← zpow_add₀ two_ne_zero]
      congr 1
      omega
    rw [div_div, places] at shifted
    exact shifted.nearestEven
  refine ⟨extended.roundedMantissa, target, ⟨least, below, atLeast, nearest⟩, ?_⟩
  intro sign
  rw [roundWithAccuracy, first]
  rfl

/-- A quantity given by a mantissa, an exponent and an accuracy is rounded to the number whose
interval it lies in. -/
theorem roundWithAccuracy_eq (canonical : Canonical mantissa exponent)
    (rounds : RoundsTo q mantissa exponent) (sign : Sign) {m : ℕ} {e : ℤ} {accuracy : Accuracy}
    (approximates : Approximates m accuracy (q / 2 ^ e))
    (enough : e ≤ Format.binary64.targetExponent (totalExponent m e)) :
    roundWithAccuracy Format.binary64 sign m e accuracy =
      .finite sign mantissa exponent canonical.positive := by
  obtain ⟨n, target, cut, rounded⟩ := exists_cutOff approximates enough
  rw [rounded]
  rcases exponent_of_roundsTo canonical rounds cut.least cut.below cut.atLeast with
    rfl | ⟨rfl, rfl, carry⟩
  · rw [cut.nearest.unique rounds.nearest]
    exact carried_eq canonical.shiftToTargetExponent_eq canonical.positive
  · rw [cut.nearest.unique carry]
    exact carried_eq (shiftToTargetExponent_carry cut.least) canonical.positive

/-- A number of the format is rounded to itself. -/
theorem roundsTo_self (mantissa : ℕ) (exponent : ℤ) :
    RoundsTo (mantissa * 2 ^ exponent) mantissa exponent := by
  have same : (mantissa : ℚ) * 2 ^ exponent / 2 ^ exponent = mantissa :=
    mul_div_cancel_right₀ _ (zpow_pos two_pos _).ne'
  refine ⟨?_, fun _ _ => ?_⟩
  · rw [same]
    exact .self mantissa
  · rw [same]
    linarith

/-- Trailing zeros make the mantissa longer by as many bits. -/
theorem log2_shiftLeft {m : ℕ} (positive : 0 < m) (places : ℕ) :
    (m <<< places).log2 = m.log2 + places := by
  have shifted : m <<< places ≠ 0 := by
    rw [Nat.shiftLeft_eq]
    exact (Nat.mul_pos positive (Nat.two_pow_pos places)).ne'
  rw [Nat.log2_eq_iff shifted, Nat.shiftLeft_eq, pow_add, add_right_comm, pow_add _ _ places]
  exact ⟨Nat.mul_le_mul_right _ (Nat.log2_self_le positive.ne'),
    Nat.mul_lt_mul_of_pos_right Nat.lt_log2_self (Nat.two_pow_pos places)⟩

/-- A mantissa of too few bits is made longer before it is rounded. -/
theorem round_eq (canonical : Canonical mantissa exponent) (sign : Sign) {m : ℕ} {e : ℤ}
    (positive : 0 < m) (rounds : RoundsTo (m * 2 ^ e) mantissa exponent) :
    UnpackedFloat.round Format.binary64 sign m e =
      .finite sign mantissa exponent canonical.positive := by
  generalize targeted : Format.binary64.targetExponent (totalExponent m e) = target
  have extended : decreaseExponent m e target =
      (m <<< (e - target).toNat, e - (e - target).toNat) := rfl
  rw [UnpackedFloat.round, targeted, extended]
  rw [targetExponent_eq] at targeted
  apply roundWithAccuracy_eq canonical rounds
  · change _ = ((m <<< (e - target).toNat : ℕ) : ℚ)
    rw [div_eq_iff (zpow_pos two_pos _).ne', Nat.shiftLeft_eq]
    push_cast
    rw [mul_assoc, ← zpow_natCast, ← zpow_add₀ two_ne_zero]
    congr 2
    ring
  · rw [targetExponent_eq, log2_shiftLeft positive]
    push_cast
    omega

/-! ## Products and quotients -/

/-- A product has an exact mantissa. -/
theorem approximates_mul (m n : ℕ) (e f : ℤ) :
    Approximates (m * n) .exact ((m : ℚ) * 2 ^ e * (n * 2 ^ f) / 2 ^ (e + f)) := by
  have unit : (2 : ℚ) ^ (e + f) ≠ 0 := (zpow_pos two_pos _).ne'
  change _ = ((m * n : ℕ) : ℚ)
  rw [div_eq_iff unit, zpow_add₀ two_ne_zero]
  push_cast
  ring

/-- A product is rounded from its exact mantissa. -/
theorem mul_eq (canonical : Canonical mantissa exponent) {m n : ℕ} {e f : ℤ}
    (mPositive : 0 < m) (nPositive : 0 < n)
    (rounds : RoundsTo ((m * 2 ^ e) * (n * 2 ^ f)) mantissa exponent)
    (enough : e + f ≤ Format.binary64.targetExponent (totalExponent (m * n) (e + f))) :
    UnpackedFloat.mul Format.binary64 (.finite .positive m e mPositive)
        (.finite .positive n f nPositive) =
      .finite .positive mantissa exponent canonical.positive :=
  roundWithAccuracy_eq canonical rounds .positive (approximates_mul m n e f) enough

/-- A quotient and its remainder tell where the fraction lies. -/
theorem approximates_div (m : ℕ) {n : ℕ} (positive : 0 < n) :
    Approximates (m / n) (accuracyOfFraction (m % n) n) ((m : ℚ) / n) := by
  have division : ((m % n : ℕ) : ℚ) + n * ((m / n : ℕ) : ℚ) = m := by
    exact_mod_cast Nat.mod_add_div m n
  have divisor : (0 : ℚ) < n := by exact_mod_cast positive
  have fraction : (m : ℚ) / n = (m / n : ℕ) + ((m % n : ℕ) : ℚ) / n := by
    rw [← division]
    field_simp
    ring
  rw [fraction]
  unfold accuracyOfFraction
  by_cases exact : m % n = 0
  · simp [exact, Approximates]
  · have some : (0 : ℚ) < ((m % n : ℕ) : ℚ) := by exact_mod_cast Nat.pos_of_ne_zero exact
    have notAll : ((m % n : ℕ) : ℚ) < n := by exact_mod_cast Nat.mod_lt m positive
    simp only [exact, ite_false]
    cases compared : compare (2 * (m % n)) n with
    | lt =>
      have less : 2 * ((m % n : ℕ) : ℚ) < n := by exact_mod_cast Nat.compare_eq_lt.1 compared
      refine ⟨lt_add_of_pos_right _ (div_pos some divisor), add_lt_add_right ?_ _⟩
      rw [div_lt_iff₀ divisor]
      linarith
    | eq =>
      have same : 2 * ((m % n : ℕ) : ℚ) = n := by exact_mod_cast Nat.compare_eq_eq.1 compared
      change _ = _
      rw [← same]
      field_simp
    | gt =>
      have greater : (n : ℚ) < 2 * ((m % n : ℕ) : ℚ) := by
        exact_mod_cast Nat.compare_eq_gt.1 compared
      refine ⟨add_lt_add_right ?_ _, add_lt_add_right ((div_lt_one divisor).2 notAll) _⟩
      rw [lt_div_iff₀ divisor]
      linarith

/-- A quotient is calculated to enough bits. -/
theorem divCore_enough {m n : ℕ} (mPositive : 0 < m) (nPositive : 0 < n) {difference target : ℤ}
    (least : target ≤ difference)
    (targeted : target ≤ max (m.log2 - n.log2 + difference - 53) (-1074)) :
    target ≤ Format.binary64.targetExponent
      (totalExponent (m <<< (difference - target).toNat / n) target) := by
  rw [targetExponent_eq]
  by_cases normal : -1074 < target
  · have shift : 53 + n.log2 ≤ m.log2 + (difference - target).toNat := by omega
    have quotient : 2 ^ 52 ≤ m <<< (difference - target).toNat / n := by
      rw [Nat.le_div_iff_mul_le nPositive, Nat.shiftLeft_eq]
      calc 2 ^ 52 * n ≤ 2 ^ 52 * 2 ^ (n.log2 + 1) := Nat.mul_le_mul_left _ Nat.lt_log2_self.le
        _ = 2 ^ (53 + n.log2) := by rw [← pow_add]; congr 1; omega
        _ ≤ 2 ^ (m.log2 + (difference - target).toNat) := Nat.pow_le_pow_right two_pos shift
        _ = 2 ^ m.log2 * 2 ^ (difference - target).toNat := pow_add _ _ _
        _ ≤ m * 2 ^ (difference - target).toNat :=
          Nat.mul_le_mul_right _ (Nat.log2_self_le mPositive.ne')
    have bits : 52 ≤ (m <<< (difference - target).toNat / n).log2 :=
      (Nat.le_log2 (by omega)).2 quotient
    omega
  · omega

/-- A quotient is calculated to enough bits as its integral part and what is known of the rest. -/
theorem divCore_approximates {m n : ℕ} (mPositive : 0 < m) (nPositive : 0 < n) (e f : ℤ) :
    ∃ quotient target accuracy, divCore Format.binary64 m e n f = (quotient, target, accuracy) ∧
      Approximates quotient accuracy ((m : ℚ) * 2 ^ e / (n * 2 ^ f) / 2 ^ target) ∧
      target ≤ Format.binary64.targetExponent (totalExponent quotient target) := by
  let target := min (e - f)
    (Format.binary64.targetExponent (totalExponent m e - totalExponent n f))
  have least : target ≤ e - f := min_le_left _ _
  have targeted : target ≤ max (m.log2 - n.log2 + (e - f) - 53) (-1074) := by
    refine (min_le_right _ _).trans (le_of_eq ?_)
    simp only [Format.targetExponent, totalExponent, mantissaBits_binary64, Format.minExponent]
    norm_num
    omega
  refine ⟨_, target, _, rfl, ?_, divCore_enough mPositive nPositive least targeted⟩
  have quantity : (m : ℚ) * 2 ^ e / (n * 2 ^ f) / 2 ^ target =
      ((m <<< (e - f - target).toNat : ℕ) : ℚ) / n := by
    rw [Nat.shiftLeft_eq]
    push_cast
    rw [← zpow_natCast, Int.toNat_of_nonneg (by omega), zpow_sub₀ two_ne_zero,
      zpow_sub₀ two_ne_zero]
    field_simp
  rw [quantity]
  exact approximates_div _ nPositive

/-- The quotient of two positive numbers goes from its calculation straight to rounding. -/
theorem div_of_divCore {m n : ℕ} {e f : ℤ} (mPositive : 0 < m) (nPositive : 0 < n) {quotient : ℕ}
    {target : ℤ} {accuracy : Accuracy}
    (core : divCore Format.binary64 m e n f = (quotient, target, accuracy)) :
    UnpackedFloat.div Format.binary64 (.finite .positive m e mPositive)
        (.finite .positive n f nPositive) =
      roundWithAccuracy Format.binary64 .positive quotient target accuracy := by
  change
    (match divCore Format.binary64 m e n f with
      | (quotient, target, accuracy) =>
        roundWithAccuracy Format.binary64 .positive quotient target accuracy) = _
  rw [core]

/-- A quotient is rounded from its integral part and what is known of the rest. -/
theorem div_eq (canonical : Canonical mantissa exponent) {m n : ℕ} {e f : ℤ}
    (mPositive : 0 < m) (nPositive : 0 < n)
    (rounds : RoundsTo ((m * 2 ^ e) / (n * 2 ^ f)) mantissa exponent) :
    UnpackedFloat.div Format.binary64 (.finite .positive m e mPositive)
        (.finite .positive n f nPositive) =
      .finite .positive mantissa exponent canonical.positive := by
  obtain ⟨quotient, target, accuracy, core, approximates, enough⟩ :=
    divCore_approximates mPositive nPositive e f
  rw [div_of_divCore mPositive nPositive core]
  exact roundWithAccuracy_eq canonical rounds .positive approximates enough

/-! ## Decimals -/

/-- What is rounded to a number of the format is neither too small nor too large for it. -/
theorem RoundsTo.range (canonical : Canonical mantissa exponent)
    (rounds : RoundsTo q mantissa exponent) : (2 : ℚ) ^ (-1075 : ℤ) ≤ q ∧ q < 2 ^ (1024 : ℤ) := by
  obtain ⟨low, high⟩ := rounds.bounds
  have positive : (1 : ℚ) ≤ mantissa := by exact_mod_cast canonical.positive
  have fits : (mantissa : ℚ) + 1 ≤ 2 ^ 53 := by exact_mod_cast canonical.fits
  have unit : (0 : ℚ) < 2 ^ exponent := zpow_pos two_pos _
  constructor
  · calc (2 : ℚ) ^ (-1075 : ℤ) = 1 / 2 * 2 ^ (-1074 : ℤ) := by
          rw [show (-1075 : ℤ) = -1 + -1074 by norm_num, zpow_add₀ two_ne_zero]
          norm_num
      _ ≤ (mantissa - 1 / 2) * 2 ^ exponent :=
        mul_le_mul (by linarith) (zpow_two_le canonical.least) (zpow_nonneg two_pos.le _)
          (by linarith)
      _ ≤ q := low
  · calc q ≤ (mantissa + 1 / 2) * 2 ^ exponent := high
      _ < 2 ^ 53 * 2 ^ exponent := mul_lt_mul_of_pos_right (by linarith) unit
      _ ≤ 2 ^ 53 * 2 ^ (971 : ℤ) :=
        mul_le_mul_of_nonneg_left (zpow_two_le canonical.greatest) (by norm_num)
      _ = 2 ^ (1024 : ℤ) := by
        rw [← zpow_natCast, ← zpow_add₀ two_ne_zero]
        norm_num

/-- A power of ten is at least the power of two. -/
theorem two_pow_le_ten_pow (n : ℕ) : (2 : ℚ) ^ n ≤ 10 ^ n :=
  pow_le_pow_left₀ two_pos.le (by norm_num) n

/-- A decimal that is not calculated because its exponent is too small is too small for the
format. -/
theorem lt_of_small_exponent {m : ℕ} {e : ℤ} (small : e < -(2 ^ 11 + m.log2 : ℤ)) :
    (m : ℚ) * 10 ^ e < 2 ^ (-1075 : ℤ) := by
  obtain ⟨n, rfl⟩ : ∃ n : ℕ, e = -((2048 + m.log2 + n : ℕ) : ℤ) :=
    ⟨(-e - (2048 + m.log2)).toNat, by omega⟩
  rw [zpow_neg (10 : ℚ), zpow_natCast, ← div_eq_mul_inv, div_lt_iff₀ (by positivity)]
  have bits : (m : ℚ) < 2 ^ (m.log2 + 1) := by exact_mod_cast Nat.lt_log2_self (n := m)
  have powers : (2 : ℚ) ^ (2048 + m.log2) ≤ 10 ^ (2048 + m.log2 + n) :=
    (two_pow_le_ten_pow _).trans (pow_le_pow_right₀ (by norm_num) (by omega))
  have atLeast : (2 : ℚ) ^ (m.log2 + 1) ≤ 2 ^ (-1075 : ℤ) * 2 ^ (2048 + m.log2) := by
    rw [← zpow_natCast, ← zpow_natCast, ← zpow_add₀ two_ne_zero]
    apply zpow_two_le
    push_cast
    omega
  calc (m : ℚ) < 2 ^ (m.log2 + 1) := bits
    _ ≤ 2 ^ (-1075 : ℤ) * 2 ^ (2048 + m.log2) := atLeast
    _ ≤ 2 ^ (-1075 : ℤ) * 10 ^ (2048 + m.log2 + n) :=
      mul_le_mul_of_nonneg_left powers (by positivity)

/-- A decimal that is not calculated because its exponent is too large is too large for the
format. -/
theorem le_of_large_exponent {m : ℕ} (positive : 0 < m) {e : ℤ} (large : 2 ^ 11 < e) :
    (2 : ℚ) ^ (1024 : ℤ) ≤ m * 10 ^ e := by
  obtain ⟨n, rfl⟩ : ∃ n : ℕ, e = ((2048 + n : ℕ) : ℤ) := ⟨(e - 2048).toNat, by omega⟩
  have one : (1 : ℚ) ≤ m := by exact_mod_cast positive
  rw [zpow_natCast]
  calc (2 : ℚ) ^ (1024 : ℤ) ≤ 2 ^ ((2048 + n : ℕ) : ℤ) := by
        apply zpow_two_le
        push_cast
        omega
    _ = 2 ^ (2048 + n) := zpow_natCast _ _
    _ ≤ 10 ^ (2048 + n) := two_pow_le_ten_pow _
    _ ≤ m * 10 ^ (2048 + n) := le_mul_of_one_le_left (by positivity) one

/-- A decimal whose exponent is not extreme is calculated with enough bits, as a product or as a
quotient. -/
theorem ofScientific_approximates {m : ℕ} (positive : 0 < m) {e : ℤ} (most : e ≤ 2 ^ 11)
    (least : -(2 ^ 11 + m.log2 : ℤ) ≤ e) :
    ∃ n target accuracy, Approximates n accuracy ((m : ℚ) * 10 ^ e / 2 ^ target) ∧
      target ≤ Format.binary64.targetExponent (totalExponent n target) ∧
      UnpackedFloat.ofScientific Format.binary64 m e =
        roundWithAccuracy Format.binary64 .positive n target accuracy := by
  rw [UnpackedFloat.ofScientific, dif_neg positive.ne', if_neg (not_lt.2 most),
    if_neg (not_lt.2 least)]
  by_cases whole : 0 ≤ e
  · rw [if_pos whole]
    obtain ⟨n, rfl⟩ := Int.eq_ofNat_of_zero_le whole
    have quantity : ((m <<< 53 : ℕ) : ℚ) * 2 ^ (-53 : ℤ) * (((10 ^ n : ℕ) : ℚ) * 2 ^ (0 : ℤ)) =
        m * 10 ^ (n : ℤ) := by
      rw [Nat.shiftLeft_eq, zpow_neg, zpow_ofNat, zpow_zero, zpow_natCast]
      push_cast
      field_simp
      norm_num
    have bits : 52 ≤ (m <<< 53 * 10 ^ n).log2 := by
      have large : 2 ^ 53 ≤ m <<< 53 * 10 ^ n := by
        rw [Nat.shiftLeft_eq]
        calc 2 ^ 53 = 1 * 2 ^ 53 * 1 := by rw [one_mul, mul_one]
          _ ≤ m * 2 ^ 53 * 10 ^ n := by
            gcongr
            · exact positive
            · exact Nat.one_le_pow _ _ (by norm_num)
      exact (Nat.le_log2 (by omega)).2 ((by norm_num : 2 ^ 52 ≤ 2 ^ 53).trans large)
    have approximates := approximates_mul (m <<< 53) (10 ^ n) (-53) 0
    rw [quantity] at approximates
    refine ⟨m <<< 53 * 10 ^ n, -53 + 0, .exact, approximates, ?_, rfl⟩
    rw [targetExponent_eq]
    omega
  · rw [if_neg whole]
    obtain ⟨n, rfl⟩ : ∃ n : ℕ, e = -(n : ℤ) := ⟨(-e).toNat, by omega⟩
    have power : 0 < 10 ^ (- -(n : ℤ)).toNat := Nat.pow_pos (by norm_num)
    have quantity : (m : ℚ) * 2 ^ (0 : ℤ) / (((10 ^ (- -(n : ℤ)).toNat : ℕ) : ℚ) * 2 ^ (0 : ℤ)) =
        m * 10 ^ (-(n : ℤ)) := by
      rw [zpow_neg, zpow_natCast, neg_neg, Int.toNat_natCast]
      push_cast
      simp [div_eq_mul_inv]
    obtain ⟨quotient, target, accuracy, core, approximates, enough⟩ :=
      divCore_approximates positive power 0 0
    rw [quantity] at approximates
    exact ⟨quotient, target, accuracy, approximates, enough,
      div_of_divCore positive power core⟩

/-- A decimal is rounded to the number whose interval it lies in. -/
theorem ofScientific_eq (canonical : Canonical mantissa exponent) {m : ℕ} {e : ℤ}
    (rounds : RoundsTo (m * 10 ^ e) mantissa exponent) :
    UnpackedFloat.ofScientific Format.binary64 m e =
      .finite .positive mantissa exponent canonical.positive := by
  obtain ⟨small, large⟩ := rounds.range canonical
  have positive : 0 < m := by
    apply Nat.pos_of_ne_zero
    rintro rfl
    have positive : (0 : ℚ) < 2 ^ (-1075 : ℤ) := zpow_pos two_pos _
    simp only [Nat.cast_zero, zero_mul] at small
    exact absurd small (not_le.2 positive)
  have most : e ≤ 2 ^ 11 := by
    by_contra greater
    exact absurd (le_of_large_exponent positive (not_le.1 greater)) (not_le.2 large)
  have least : -(2 ^ 11 + m.log2 : ℤ) ≤ e := by
    by_contra less
    exact absurd (lt_of_small_exponent (not_le.1 less)) (not_lt.2 small)
  obtain ⟨n, target, accuracy, approximates, enough, rounded⟩ :=
    ofScientific_approximates positive most least
  rw [rounded]
  exact roundWithAccuracy_eq canonical rounds .positive approximates enough

end

end InputDeck.Rounding
