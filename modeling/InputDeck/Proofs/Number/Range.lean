import InputDeck.Proofs.Number.Storage

/-!
# The range of the format

A quantity is rounded to zero, to a number of the format or, if it is too large, to an infinity, and
never to NaN. It is too large from the middle between the greatest number and the next power of two
on. So a decimal is read as a finite number exactly if it is below that middle, and a word always
is.
-/

namespace InputDeck.Rounding

open Float.Model Float.Model.UnpackedFloat

/-- The least quantity that is too large for the format, halfway between the greatest number and the
next power of two. -/
def tooLarge : ℚ := (2 ^ 53 - 1 / 2) * 2 ^ (971 : ℤ)

/-- What a quantity is rounded to, before it is stored. -/
inductive Outcome (q : ℚ) : UnpackedFloat → Prop
  | zero (sign : Sign) (small : q < tooLarge) : Outcome q (.zero sign)
  | finite (sign : Sign) {mantissa : ℕ} {exponent : ℤ} (canonical : Canonical mantissa exponent)
      (small : q < tooLarge) : Outcome q (.finite sign mantissa exponent canonical.positive)
  | beyond (sign : Sign) {mantissa : ℕ} {exponent : ℤ} (positive : 0 < mantissa)
      (greater : 971 < exponent) (large : tooLarge ≤ q) :
      Outcome q (.finite sign mantissa exponent positive)
  | infinity (sign : Sign) (large : tooLarge ≤ q) : Outcome q (.infinity sign)

section

variable {q : ℚ} {mantissa : ℕ} {exponent : ℤ}

/-! ## Rounding -/

/-- A quantity with a smaller exponent than the greatest one is not too large. -/
theorem lt_tooLarge {target : ℤ} (below : q < 2 ^ (target + 53)) (less : target < 971) :
    q < tooLarge := by
  have le : target + 53 ≤ 1023 := by omega
  calc q < 2 ^ (target + 53) := below
    _ ≤ 2 ^ (1023 : ℤ) := zpow_two_le le
    _ = 2 ^ 52 * 2 ^ (971 : ℤ) := by
      rw [← zpow_natCast, ← zpow_add₀ two_ne_zero]
      norm_num
    _ ≤ tooLarge := mul_le_mul_of_nonneg_right (by norm_num) (zpow_nonneg two_pos.le _)

/-- A quantity with a greater exponent than the greatest one is too large. -/
theorem tooLarge_le {target : ℤ} (atLeast : 2 ^ (target + 52) ≤ q) (greater : 971 < target) :
    tooLarge ≤ q := by
  have le : 1024 ≤ target + 52 := by omega
  calc tooLarge ≤ 2 ^ 53 * 2 ^ (971 : ℤ) :=
        mul_le_mul_of_nonneg_right (by norm_num) (zpow_nonneg two_pos.le _)
    _ = 2 ^ (1024 : ℤ) := by
      rw [← zpow_natCast, ← zpow_add₀ two_ne_zero]
      norm_num
    _ ≤ 2 ^ (target + 52) := zpow_two_le le
    _ ≤ q := atLeast

namespace CutOff

variable {n : ℕ} {target : ℤ} (cut : CutOff q n target)

include cut

/-- A mantissa of 53 bits may be rounded up by one. -/
theorem mantissa_le : n ≤ 2 ^ 53 := by
  have unit : (0 : ℚ) < 2 ^ target := zpow_pos two_pos _
  have below := cut.below
  rw [zpow_add₀ two_ne_zero, mul_comm, ← div_lt_iff₀ unit] at below
  have near := cut.nearest.below
  rw [zpow_ofNat] at below
  have less : (n : ℚ) < (2 ^ 53 + 1 : ℕ) := by
    push_cast
    linarith
  exact Nat.lt_succ_iff.1 (by exact_mod_cast less)

/-- Unless it is cut off at the least exponent, the mantissa has 53 bits. -/
theorem le_mantissa (normal : -1074 < target) : 2 ^ 52 ≤ n := by
  have unit : (0 : ℚ) < 2 ^ target := zpow_pos two_pos _
  have atLeast := cut.atLeast normal
  rw [zpow_add₀ two_ne_zero, mul_comm, ← le_div_iff₀ unit] at atLeast
  have near := cut.nearest.above
  rw [zpow_ofNat] at atLeast
  have less : ((2 ^ 52 : ℕ) : ℚ) < (n + 1 : ℕ) := by
    push_cast
    linarith
  exact Nat.lt_succ_iff.1 (by exact_mod_cast less)

/-- At the greatest exponent the quantity is too large exactly if its mantissa is rounded up to 54
bits. -/
theorem lt_tooLarge_iff (greatest : target = 971) : q < tooLarge ↔ n < 2 ^ 53 := by
  have unit : (0 : ℚ) < 2 ^ target := zpow_pos two_pos _
  rw [tooLarge, ← greatest, ← div_lt_iff₀ unit]
  constructor
  · intro small
    by_contra long
    have same : n = 2 ^ 53 := le_antisymm cut.mantissa_le (not_lt.1 long)
    have below := cut.nearest.below
    rw [same] at below
    push_cast at below
    linarith
  · intro fits
    rcases Nat.lt_or_ge n (2 ^ 53 - 1) with less | last
    · have most : (n : ℚ) + 2 ≤ 2 ^ 53 := by
        have : n + 2 ≤ 2 ^ 53 := by omega
        exact_mod_cast this
      have near := cut.nearest.above
      linarith
    · have odd : n % 2 = 1 := by omega
      have most : (n : ℚ) + 1 = 2 ^ 53 := by
        have : n + 1 = 2 ^ 53 := by omega
        exact_mod_cast this
      have near := (cut.nearest.strict odd).2
      linarith

/-- A rounded mantissa makes a number of the format, or the quantity is too large. -/
theorem outcome (sign : Sign) : Outcome q (carried sign n target) := by
  rcases Nat.eq_zero_or_pos n with rfl | positive
  · have least : target = -1074 := by
      by_contra other
      have := cut.le_mantissa (lt_of_le_of_ne cut.least (Ne.symm other))
      omega
    subst least
    exact .zero sign (lt_tooLarge cut.below (by norm_num))
  · rcases cut.mantissa_le.lt_or_eq with fits | rfl
    · have kept : carried sign n target = .finite sign n target positive := by
        simp only [carried, shiftToTargetExponent_of_bits positive fits cut.least
          fun normal => cut.le_mantissa normal, positive.ne', dite_false]
      rw [kept]
      rcases lt_trichotomy target 971 with less | greatest | greater
      · exact .finite sign ⟨positive, fits, cut.least, less.le, cut.le_mantissa⟩
          (lt_tooLarge cut.below less)
      · exact .finite sign ⟨positive, fits, cut.least, greatest.le, cut.le_mantissa⟩
          ((cut.lt_tooLarge_iff greatest).2 fits)
      · exact .beyond sign positive greater (tooLarge_le (cut.atLeast (by omega)) greater)
    · have shorter : carried sign (2 ^ 53) target =
          .finite sign (2 ^ 52) (target + 1) (by norm_num) := by
        simp only [carried, shiftToTargetExponent_carry cut.least]
        rfl
      have least := cut.least
      rw [shorter]
      rcases lt_trichotomy target 971 with less | greatest | greater
      · exact .finite sign ⟨by norm_num, by norm_num, by omega, by omega, fun _ => le_rfl⟩
          (lt_tooLarge cut.below less)
      · refine .beyond sign _ (by omega) (not_lt.1 fun small => ?_)
        exact absurd ((cut.lt_tooLarge_iff greatest).1 small) (lt_irrefl _)
      · exact .beyond sign _ (by omega) (tooLarge_le (cut.atLeast (by omega)) greater)

/-- A mantissa that is rounded to something makes a number of the format, to which the quantity is
rounded, unless the quantity is too large. -/
theorem exists_roundsTo (some : 0 < n) (small : q < tooLarge) :
    ∃ m e, Canonical m e ∧ RoundsTo q m e := by
  have unit : (0 : ℚ) < 2 ^ target := zpow_pos two_pos _
  have least := cut.least
  have most : target ≤ 971 := by
    by_contra greater
    exact absurd small (not_lt.2 (tooLarge_le (cut.atLeast (by omega)) (not_le.1 greater)))
  rcases cut.mantissa_le.lt_or_eq with fits | rfl
  · refine ⟨n, target, ⟨some, fits, least, most, cut.le_mantissa⟩, cut.nearest, ?_⟩
    rintro rfl normal
    have atLeast := cut.atLeast normal
    rw [zpow_add₀ two_ne_zero, mul_comm, ← le_div_iff₀ unit, zpow_ofNat] at atLeast
    push_cast
    linarith
  · -- The mantissa is rounded up to 54 bits and ends in a zero, which is cut off as well.
    have less : target < 971 :=
      most.lt_of_ne fun greatest => absurd ((cut.lt_tooLarge_iff greatest).1 small) (lt_irrefl _)
    have below := cut.below
    rw [zpow_add₀ two_ne_zero, mul_comm, ← div_lt_iff₀ unit, zpow_ofNat] at below
    have near := cut.nearest.below
    have half : q / 2 ^ (target + 1) = q / 2 ^ target / 2 := by
      rw [zpow_add₀ two_ne_zero, zpow_one, div_div]
    push_cast at near
    refine ⟨2 ^ 52, target + 1, ⟨by norm_num, by norm_num, by omega, by omega, fun _ => le_rfl⟩,
      ⟨?_, ?_, fun odd => absurd odd (by decide)⟩, fun _ _ => ?_⟩
    all_goals
      rw [half]
      push_cast
      linarith

/-- A mantissa is rounded to nothing exactly if the quantity is at most half of the least number. -/
theorem eq_zero_iff : n = 0 ↔ q ≤ 2 ^ (-1075 : ℤ) := by
  have half : (2 : ℚ) ^ (-1075 : ℤ) = 1 / 2 * 2 ^ (-1074 : ℤ) := by
    rw [show (-1075 : ℤ) = -1 + -1074 by norm_num, zpow_add₀ two_ne_zero]
    norm_num
  have unit : (0 : ℚ) < 2 ^ (-1074 : ℤ) := zpow_pos two_pos _
  have atLeastExponent (small : n = 0 ∨ q ≤ 2 ^ (-1075 : ℤ)) : target = -1074 := by
    by_contra other
    have normal : -1074 < target := lt_of_le_of_ne cut.least (Ne.symm other)
    rcases small with rfl | tiny
    · exact absurd (cut.le_mantissa normal) (by norm_num)
    · have less : (2 : ℚ) ^ (-1075 : ℤ) < 2 ^ (target + 52) :=
        zpow_lt_zpow_right₀ one_lt_two (by omega)
      linarith [cut.atLeast normal]
  rw [half, ← div_le_iff₀ unit]
  constructor
  · rintro rfl
    have near := cut.nearest.above
    rw [atLeastExponent (.inl rfl)] at near
    linarith
  · intro tiny
    have nearest := cut.nearest
    rw [atLeastExponent (.inr (by rwa [half, ← div_le_iff₀ unit]))] at nearest
    by_contra some
    have one : (1 : ℚ) ≤ n := by exact_mod_cast Nat.pos_of_ne_zero some
    have single : n = 1 := by
      have atMost : (n : ℚ) ≤ 1 := by linarith [nearest.below]
      exact_mod_cast le_antisymm atMost one
    have strict := (nearest.strict (by omega)).1
    linarith

end CutOff

/-- A positive quantity is cut off at some exponent. -/
theorem exists_cutOff_of_pos (positive : 0 < q) : ∃ n target, CutOff q n target := by
  have numerator : 0 < q.num.natAbs := Int.natAbs_pos.2 (Rat.num_ne_zero.2 positive.ne')
  obtain ⟨quotient, target, accuracy, -, approximates, enough⟩ :=
    divCore_approximates numerator q.den_pos 0 0
  have quantity : (q.num.natAbs : ℚ) * 2 ^ (0 : ℤ) / (q.den * 2 ^ (0 : ℤ)) = q := by
    have size : (q.num.natAbs : ℤ) = q.num := Int.natAbs_of_nonneg (Rat.num_nonneg.2 positive.le)
    rw [zpow_zero, mul_one, mul_one, ← Int.cast_natCast, size, Rat.num_div_den]
  rw [quantity] at approximates
  obtain ⟨n, exponent, cut, -⟩ := exists_cutOff approximates enough
  exact ⟨n, exponent, cut⟩

/-- A quantity that is not too large is at most half of the least number, or it is rounded to a
number of the format. -/
theorem tiny_or_exists_roundsTo (nonneg : 0 ≤ q) (small : q < tooLarge) :
    q ≤ 2 ^ (-1075 : ℤ) ∨ ∃ m e, Canonical m e ∧ RoundsTo q m e := by
  rcases nonneg.eq_or_lt with rfl | positive
  · exact .inl (zpow_nonneg two_pos.le _)
  · obtain ⟨n, target, cut⟩ := exists_cutOff_of_pos positive
    rcases Nat.eq_zero_or_pos n with nothing | some
    · exact .inl (cut.eq_zero_iff.1 nothing)
    · exact .inr (cut.exists_roundsTo some small)

/-- A quantity that is given by a mantissa, an exponent and an accuracy is rounded. -/
theorem outcome_roundWithAccuracy (sign : Sign) {m : ℕ} {e : ℤ} {accuracy : Accuracy}
    (approximates : Approximates m accuracy (q / 2 ^ e))
    (enough : e ≤ Format.binary64.targetExponent (totalExponent m e)) :
    Outcome q (roundWithAccuracy Format.binary64 sign m e accuracy) := by
  obtain ⟨n, target, cut, rounded⟩ := exists_cutOff approximates enough
  rw [rounded]
  exact cut.outcome sign

/-- A decimal is rounded. -/
theorem outcome_ofScientific (m : ℕ) (e : ℤ) :
    Outcome (m * 10 ^ e) (UnpackedFloat.ofScientific Format.binary64 m e) := by
  have nothing : ∀ {q : ℚ}, q < 2 ^ (-1021 : ℤ) → q < tooLarge :=
    fun small => lt_tooLarge (by exact small) (by norm_num : (-1074 : ℤ) < 971)
  rcases Nat.eq_zero_or_pos m with rfl | positive
  · have empty : ((0 : ℕ) : ℚ) * 10 ^ e < 2 ^ (-1021 : ℤ) := by
      rw [Nat.cast_zero, zero_mul]
      exact zpow_pos two_pos _
    rw [UnpackedFloat.ofScientific, dif_pos rfl]
    exact .zero _ (nothing empty)
  · by_cases large : 2 ^ 11 < e
    · rw [UnpackedFloat.ofScientific, dif_neg positive.ne', if_pos large]
      exact .infinity _ (tooLarge_le (le_of_large_exponent positive large)
        (by norm_num : (971 : ℤ) < 972))
    · by_cases small : e < -(2 ^ 11 + m.log2 : ℤ)
      · have less : (m : ℚ) * 10 ^ e < 2 ^ (-1021 : ℤ) :=
          (lt_of_small_exponent small).trans_le (zpow_two_le (by norm_num))
        rw [UnpackedFloat.ofScientific, dif_neg positive.ne', if_neg large, if_pos small]
        exact .zero _ (nothing less)
      · obtain ⟨n, target, accuracy, approximates, enough, rounded⟩ :=
          ofScientific_approximates positive (not_lt.1 large) (not_lt.1 small)
        rw [rounded]
        exact outcome_roundWithAccuracy _ approximates enough

/-! ## Storage -/

/-- An infinity is stored where the exponent is too great. -/
theorem pack_beyond (sign : Sign) (positive : 0 < mantissa) (greater : 971 < exponent) :
    UnpackedFloat.pack Format.binary64 (.finite sign mantissa exponent positive) =
      UnpackedFloat.pack Format.binary64 (.infinity sign) := by
  have biased : 2 ^ 11 ≤ (exponent + Format.exponentBias Format.binary64 + 52).toNat + 1 := by
    change 2 ^ 11 ≤ (exponent + 1023 + 52).toNat + 1
    omega
  simp only [UnpackedFloat.pack, Nat.cast_ofNat, biased, ite_true]

/-- A stored infinity is what too large a quantity becomes. -/
theorem stored_infinity (sign : Sign) (large : tooLarge ≤ q) :
    (Float.ofModel (.pack (.infinity sign))).isNaN = false ∧
      ((Float.ofModel (.pack (.infinity sign))).isFinite = true ↔ q < tooLarge) := by
  cases sign <;> exact ⟨rfl, iff_of_false (by decide) (not_lt.2 large)⟩

/-- A rounded quantity is no NaN when it is stored, and it is finite exactly if it is not too
large. -/
theorem Outcome.status {u : UnpackedFloat} (outcome : Outcome q u) :
    (Float.ofModel (.pack u)).isNaN = false ∧
      ((Float.ofModel (.pack u)).isFinite = true ↔ q < tooLarge) := by
  cases outcome with
  | zero sign small => cases sign <;> exact ⟨rfl, iff_of_true rfl small⟩
  | finite sign canonical small =>
    refine ⟨?_, iff_of_true (canonical.isFinite_toFloat sign) small⟩
    change (canonical.toFloat sign).toModel.unpack.isNaN = false
    rw [canonical.unpack_toFloat]
    rfl
  | @beyond sign m e positive greater large =>
    have same : Float.ofModel (.pack (.finite sign m e positive)) =
        .ofModel (.pack (.infinity sign)) := by
      rw [← Float.toBits_inj]
      exact congrArg UInt64.ofBitVec (pack_beyond sign positive greater)
    rw [same]
    exact stored_infinity sign large
  | infinity sign large => exact stored_infinity sign large

/-- The product of two numbers of the format, the first of which has 53 bits, is rounded. -/
theorem Canonical.outcome_mul {m n : ℕ} {e f : ℤ} (left : Canonical m e) (right : Canonical n f)
    (full : 2 ^ 52 ≤ m) : ∃ u, Outcome ((m * 2 ^ e) * (n * 2 ^ f)) u ∧
      left.toFloat .positive * right.toFloat .positive = .ofModel (.pack u) := by
  refine ⟨_, outcome_roundWithAccuracy (.positive * .positive) (approximates_mul m n e f)
    (mul_enough full right.positive), ?_⟩
  change Float.ofModel (.pack (UnpackedFloat.mul Format.binary64
    (left.toFloat .positive).toModel.unpack (right.toFloat .positive).toModel.unpack)) = _
  rw [left.unpack_toFloat, right.unpack_toFloat]
  rfl

/-- The quotient of two numbers of the format is rounded. -/
theorem Canonical.outcome_div {m n : ℕ} {e f : ℤ} (left : Canonical m e) (right : Canonical n f) :
    ∃ u, Outcome ((m * 2 ^ e) / (n * 2 ^ f)) u ∧
      left.toFloat .positive / right.toFloat .positive = .ofModel (.pack u) := by
  obtain ⟨quotient, target, accuracy, core, approximates, enough⟩ :=
    divCore_approximates left.positive right.positive e f
  refine ⟨_, outcome_roundWithAccuracy (.positive / .positive) approximates enough, ?_⟩
  change Float.ofModel (.pack (UnpackedFloat.div Format.binary64
    (left.toFloat .positive).toModel.unpack (right.toFloat .positive).toModel.unpack)) = _
  rw [left.unpack_toFloat, right.unpack_toFloat]
  simp only [UnpackedFloat.div, core]

/-- Nothing times or divided by a number is nothing. -/
theorem Canonical.zeroFloat_mul_div {n : ℕ} {f : ℤ} (right : Canonical n f) :
    zeroFloat .positive * right.toFloat .positive = zeroFloat .positive ∧
      zeroFloat .positive / right.toFloat .positive = zeroFloat .positive := by
  have product : ∀ u : UnpackedFloat, (right.toFloat .positive).toModel.unpack = u →
      u = .finite .positive n f right.positive →
      UnpackedFloat.mul Format.binary64 (zeroFloat .positive).toModel.unpack u = .zero .positive ∧
      UnpackedFloat.div Format.binary64 (zeroFloat .positive).toModel.unpack u =
        .zero .positive := by
    rintro u - rfl
    exact ⟨rfl, rfl⟩
  obtain ⟨times, parts⟩ := product _ rfl (right.unpack_toFloat .positive)
  exact ⟨congrArg (Float.ofModel ∘ .pack) times, congrArg (Float.ofModel ∘ .pack) parts⟩

/-- A decimal is read without NaN, and as a finite number exactly if it is not too large. -/
theorem status_ofScientific (digits : ℕ) (small : Bool) (places : ℕ) :
    (Float.ofScientific digits small places).isNaN = false ∧
      ((Float.ofScientific digits small places).isFinite = true ↔
        (digits : ℚ) * 10 ^ (if small then -(places : ℤ) else places) < tooLarge) := by
  unfold Float.ofScientific
  split
  case isTrue exact =>
    obtain ⟨fits, few⟩ := exact
    have inTable : places < Float.exactlyRepresentablePowersOfTen.size := Nat.lt_succ_iff.2 few
    obtain ⟨n, f, right, rightValue, powerFloat⟩ := exists_power inTable
    rcases Nat.eq_zero_or_pos digits with rfl | positive
    · have nothing : (0 : ℕ).toUInt64.toFloat = zeroFloat .positive := rfl
      have empty : Outcome (((0 : ℕ) : ℚ) * 10 ^ (if small then -(places : ℤ) else places))
          (.zero .positive) := by
        rw [Nat.cast_zero, zero_mul]
        exact .zero _ (lt_tooLarge (zpow_pos two_pos _) (by norm_num : (0 : ℤ) < 971))
      obtain ⟨times, parts⟩ := right.zeroFloat_mul_div
      simp only [nothing, powerFloat, times, parts, ite_self]
      exact empty.status
    · obtain ⟨m, e, left, full, leftValue, digitsFloat⟩ := exists_digits positive fits
      simp only [digitsFloat, powerFloat]
      cases small with
      | true =>
        obtain ⟨u, outcome, same⟩ := left.outcome_div right
        rw [leftValue, rightValue] at outcome
        rw [if_pos rfl, same]
        simpa [div_eq_mul_inv] using outcome.status
      | false =>
        obtain ⟨u, outcome, same⟩ := left.outcome_mul right full
        rw [leftValue, rightValue] at outcome
        simp only [Bool.false_eq_true, if_false, same]
        simpa using outcome.status
  case isFalse =>
    simp only [signedPlaces]
    exact (outcome_ofScientific _ _).status

/-- The opposite of a stored number is stored without loss. -/
theorem unpack_neg (x : Float) : (-x).toModel.unpack = x.toModel.unpack.neg := by
  change (Float.Model.pack x.toModel.unpack.neg).unpack = _
  cases unpacked : x.toModel.unpack with
  | infinity sign => cases sign <;> rfl
  | notANumber => rfl
  | zero sign => cases sign <;> rfl
  | finite sign mantissa exponent positive =>
    exact (canonical_of_unpack unpacked).unpack_pack (-sign)

/-- The opposite of a number is as finite as the number. -/
theorem status_neg (x : Float) : (-x).isNaN = x.isNaN ∧ (-x).isFinite = x.isFinite := by
  unfold Float.isNaN Float.isFinite Float.Model.isNaN Float.Model.isFinite
  rw [unpack_neg]
  cases x.toModel.unpack <;> exact ⟨rfl, rfl⟩

end

end InputDeck.Rounding

namespace InputDeck

open Rounding

/-- A decimal is read without NaN, and as a finite number exactly if it is not too large. -/
theorem Decimal.status_toFloat (d : Decimal) :
    d.toFloat.isNaN = false ∧ (d.toFloat.isFinite = true ↔ d.value < tooLarge) := by
  have status := status_ofScientific d.digits (decide (d.exponent < 0)) d.exponent.natAbs
  rwa [d.exponent_eq] at status

/-- An integer is converted without NaN, and to a finite number exactly if it is not too large. -/
theorem status_ofInt (n : ℤ) :
    (Float.ofInt n).isNaN = false ∧
      ((Float.ofInt n).isFinite = true ↔ (n.natAbs : ℚ) < tooLarge) := by
  have natural : ∀ m : ℕ, (Float.ofNat m).isNaN = false ∧
      ((Float.ofNat m).isFinite = true ↔ (m : ℚ) < tooLarge) := by
    intro m
    have status := Decimal.status_toFloat ⟨m, 0⟩
    rw [Decimal.value, zpow_zero, mul_one] at status
    exact status
  cases n with
  | ofNat m => exact natural m
  | negSucc m =>
    obtain ⟨noNaN, finite⟩ := natural (m + 1)
    obtain ⟨sameNaN, sameFinite⟩ := status_neg (Float.ofNat (m + 1))
    change (-Float.ofNat (m + 1)).isNaN = false ∧
      ((-Float.ofNat (m + 1)).isFinite = true ↔ ((m + 1 : ℕ) : ℚ) < tooLarge)
    rw [sameNaN, sameFinite]
    exact ⟨noNaN, finite⟩

/-- A word is not too large. -/
theorem natAbs_lt_tooLarge (n : Int64) : (n.toInt.natAbs : ℚ) < tooLarge := by
  have fits : n.toInt.natAbs < 2 ^ 64 := by
    have lower := n.le_toInt
    have upper := n.toInt_lt
    omega
  have small : (n.toInt.natAbs : ℚ) < 2 ^ (64 : ℤ) := by exact_mod_cast fits
  exact lt_tooLarge (small.trans_le (zpow_two_le (by norm_num : (64 : ℤ) ≤ 11 + 53)))
    (by norm_num)

/-- The number that a whole text writes, without its sign. -/
def writtenDecimal? (t : Text) : Option Decimal :=
  let (numeral, rest) := Numeral.scan (Numeral.scanSign t).2
  if rest = [] ∧ numeral.hasDigits then some numeral.toDecimal else none

/-- A text is read as the number it writes, or as its opposite. -/
theorem readReal?_eq (t : Text) :
    readReal? t = (writtenDecimal? t).map fun d =>
      if (Numeral.scanSign t).1 then -d.toFloat else d.toFloat := by
  simp only [readReal?, writtenDecimal?]
  split <;> rfl

/-- A written number is read without NaN, and as a finite number exactly if it is not too large. -/
theorem status_readReal? {t : Text} {x : Float} (read : readReal? t = some x) :
    ∃ d, writtenDecimal? t = some d ∧ x.isNaN = false ∧
      (x.isFinite = true ↔ d.value < tooLarge) := by
  rw [readReal?_eq, Option.map_eq_some_iff] at read
  obtain ⟨d, written, rfl⟩ := read
  obtain ⟨sameNaN, sameFinite⟩ := status_neg d.toFloat
  refine ⟨d, written, ?_⟩
  split
  · rw [sameNaN, sameFinite]
    exact d.status_toFloat
  · exact d.status_toFloat

end InputDeck
