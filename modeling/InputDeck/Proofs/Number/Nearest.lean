import InputDeck.Proofs.Number.WordOrder

/-!
# Correct rounding

A finite number is the correct rounding of a quantity if no other finite number is nearer to it and,
where another one is as near, the mantissa is even; from halfway to the next power of two beyond the
greatest number on, no finite number is. There is only one such number with a given sign, and a
decimal is read as it.

The argument for uniqueness looks at the space between two such numbers: the quantity would lie in
the middle of it and both mantissas would be even, but behind an even mantissa follows an odd one.
-/

namespace InputDeck.Rounding

open Float.Model Float.Model.UnpackedFloat

/-- The size of a finite number. -/
def size (x : Float) : ℚ := (Binary.ofFloat x).mantissa * 2 ^ (Binary.ofFloat x).exponent

/-- The number is the correct rounding of a quantity, its sign aside. -/
structure Nearest (q : ℚ) (x : Float) : Prop where
  finite : x.isFinite = true
  inRange : q < tooLarge
  nearest : ∀ y : Float, y.isFinite = true → |q - size x| ≤ |q - size y|
  even : ∀ y : Float, y.isFinite = true → size y ≠ size x → |q - size x| = |q - size y| →
    (Binary.ofFloat x).mantissa % 2 = 0

section

variable {q : ℚ} {x y : Float} {m n : ℕ} {e f : ℤ}

/-! ## Sizes -/

/-- The size of a number of the format. -/
theorem Canonical.size_toFloat (canonical : Canonical m e) (sign : Sign) :
    size (canonical.toFloat sign) = m * 2 ^ e := by
  rw [size, canonical.ofFloat_toFloat]
  rfl

/-- The zeros have no size. -/
theorem size_zeroFloat (sign : Sign) : size (zeroFloat sign) = 0 := by
  rw [size, ofFloat_zeroFloat, Nat.cast_zero, zero_mul]

/-- The size of a finite number has a mantissa of at most 53 bits. -/
theorem exists_size (finite : x.isFinite = true) :
    ∃ (m : ℕ) (e : ℤ), size x = m * 2 ^ e ∧ m < 2 ^ 53 ∧ -1074 ≤ e := by
  rcases cases_of_isFinite finite with ⟨sign, rfl⟩ | ⟨sign, m, e, canonical, rfl⟩
  · exact ⟨0, -1074, by rw [size_zeroFloat]; simp, by norm_num, le_rfl⟩
  · exact ⟨m, e, canonical.size_toFloat sign, canonical.fits, canonical.least⟩

/-- No other mantissa and exponent have the same size. -/
theorem Canonical.eq_of_value (left : Canonical m e) (right : Canonical n f)
    (same : (m : ℚ) * 2 ^ e = n * 2 ^ f) : m = n ∧ e = f := by
  have one := (roundsTo_self m e).mono same.le left right (roundsTo_self n f)
  have other := (roundsTo_self n f).mono same.ge right left (roundsTo_self m e)
  omega

/-- There are two signs. -/
theorem eq_of_isNegative {sign sign' : Sign} (same : (sign == .negative) = (sign' == .negative)) :
    sign = sign' := by
  cases sign <;> cases sign' <;> first | rfl | cases same

/-- The size and the sign tell a finite number. -/
theorem eq_of_size (left : x.isFinite = true) (right : y.isFinite = true)
    (same : size x = size y) : (Binary.ofFloat x).mantissa = (Binary.ofFloat y).mantissa ∧
      (isNegative x = isNegative y → x = y) := by
  have some (m : ℕ) (e : ℤ) (canonical : Canonical m e) : (0 : ℚ) < m * 2 ^ e :=
    mul_pos (by exact_mod_cast canonical.positive) (zpow_pos two_pos _)
  rcases cases_of_isFinite left with ⟨sign, rfl⟩ | ⟨sign, m, e, canonical, rfl⟩
  · rcases cases_of_isFinite right with ⟨sign', rfl⟩ | ⟨sign', n, f, other, rfl⟩
    · rw [ofFloat_zeroFloat, ofFloat_zeroFloat, isNegative_zeroFloat, isNegative_zeroFloat]
      exact ⟨rfl, fun signs => congrArg zeroFloat (eq_of_isNegative signs)⟩
    · rw [size_zeroFloat, other.size_toFloat] at same
      exact absurd same (some n f other).ne
  · rcases cases_of_isFinite right with ⟨sign', rfl⟩ | ⟨sign', n, f, other, rfl⟩
    · rw [size_zeroFloat, canonical.size_toFloat] at same
      exact absurd same (some m e canonical).ne'
    · rw [canonical.size_toFloat, other.size_toFloat] at same
      obtain ⟨rfl, rfl⟩ := canonical.eq_of_value other same
      rw [canonical.ofFloat_toFloat, other.ofFloat_toFloat, canonical.isNegative_toFloat,
        other.isNegative_toFloat]
      exact ⟨rfl, fun signs => congrArg canonical.toFloat (eq_of_isNegative signs)⟩

/-! ## Neighbours -/

/-- A quantity with a larger exponent is a multiple of the unit of a smaller one. -/
theorem exists_multiple (le : e ≤ f) (n : ℕ) : ∃ k : ℕ, (n : ℚ) * 2 ^ f = k * 2 ^ e := by
  refine ⟨n * 2 ^ (f - e).toNat, ?_⟩
  push_cast
  rw [← zpow_natCast, Int.toNat_of_nonneg (by omega), mul_assoc, ← zpow_add₀ two_ne_zero]
  congr 2
  omega

/-- What has a smaller exponent and at most 53 bits is at least half a unit below the least mantissa
of 53 bits. -/
theorem le_of_lower_exponent (fits : n < 2 ^ 53) (less : f < e) :
    (n : ℚ) * 2 ^ f ≤ (2 ^ 52 - 1 / 2) * 2 ^ e := by
  have most : (n : ℚ) ≤ 2 ^ 53 - 1 := by
    have : (n : ℚ) + 1 ≤ 2 ^ 53 := by exact_mod_cast fits
    linarith
  have twice : 2 * (2 : ℚ) ^ f ≤ 2 ^ e := by
    rw [← zpow_one_add₀ two_ne_zero]
    exact zpow_two_le (by omega)
  have unit : (0 : ℚ) < 2 ^ f := zpow_pos two_pos _
  calc (n : ℚ) * 2 ^ f ≤ (2 ^ 53 - 1) * 2 ^ f := mul_le_mul_of_nonneg_right most unit.le
    _ = (2 ^ 52 - 1 / 2) * (2 * 2 ^ f) := by ring
    _ ≤ (2 ^ 52 - 1 / 2) * 2 ^ e := mul_le_mul_of_nonneg_left twice (by norm_num)

/-- What is greater than a number of the format is greater by a unit of it. -/
theorem Canonical.next_le (canonical : Canonical m e) (fits : n < 2 ^ 53) (least : -1074 ≤ f)
    (greater : (m : ℚ) * 2 ^ e < n * 2 ^ f) : ((m : ℚ) + 1) * 2 ^ e ≤ n * 2 ^ f := by
  have unit : (0 : ℚ) < 2 ^ e := zpow_pos two_pos _
  rcases le_or_gt e f with le | less
  · obtain ⟨k, multiple⟩ := exists_multiple le n
    rw [multiple] at greater ⊢
    have more : m + 1 ≤ k := by exact_mod_cast lt_of_mul_lt_mul_right greater unit.le
    exact mul_le_mul_of_nonneg_right (by exact_mod_cast more) unit.le
  · have full : (2 ^ 52 : ℚ) ≤ m := by exact_mod_cast canonical.full (least.trans_lt less)
    have atMost := le_of_lower_exponent fits less
    have below : (2 ^ 52 - 1 / 2) * (2 : ℚ) ^ e ≤ m * 2 ^ e :=
      mul_le_mul_of_nonneg_right (by linarith) unit.le
    linarith

/-- What is less than a number of the format is less by a unit of it or, below a power of two, by
half a unit. -/
theorem Canonical.le_previous (canonical : Canonical m e) (fits : n < 2 ^ 53) (least : -1074 ≤ f)
    (less : (n : ℚ) * 2 ^ f < m * 2 ^ e) :
    (n : ℚ) * 2 ^ f ≤ (m - 1) * 2 ^ e ∨
      m = 2 ^ 52 ∧ -1074 < e ∧ (n : ℚ) * 2 ^ f ≤ (m - 1 / 2) * 2 ^ e := by
  have unit : (0 : ℚ) < 2 ^ e := zpow_pos two_pos _
  rcases le_or_gt e f with le | lower
  · obtain ⟨k, multiple⟩ := exists_multiple le n
    rw [multiple] at less ⊢
    have fewer : k + 1 ≤ m := by exact_mod_cast lt_of_mul_lt_mul_right less unit.le
    have atMost : (k : ℚ) ≤ m - 1 := by
      have : (k : ℚ) + 1 ≤ m := by exact_mod_cast fewer
      linarith
    exact .inl (mul_le_mul_of_nonneg_right atMost unit.le)
  · have normal := least.trans_lt lower
    have atMost := le_of_lower_exponent fits lower
    rcases (canonical.full normal).eq_or_lt with power | more
    · refine .inr ⟨power.symm, normal, ?_⟩
      rw [← power]
      exact_mod_cast atMost
    · have next : (2 ^ 52 : ℚ) + 1 ≤ m := by exact_mod_cast more
      exact .inl (atMost.trans (mul_le_mul_of_nonneg_right (by linarith) unit.le))

/-- Behind a number with an even mantissa follows one with an odd mantissa. -/
theorem exists_odd_between (left : x.isFinite = true) (right : y.isFinite = true)
    (even : (Binary.ofFloat x).mantissa % 2 = 0) (less : size x < size y) :
    ∃ z : Float, z.isFinite = true ∧ (Binary.ofFloat z).mantissa % 2 = 1 ∧ size x < size z ∧
      size z ≤ size y := by
  obtain ⟨n, f, same, fits, least⟩ := exists_size right
  rw [same] at less ⊢
  have unit : (0 : ℚ) < 2 ^ f := zpow_pos two_pos _
  rcases cases_of_isFinite left with ⟨sign, rfl⟩ | ⟨sign, m, e, canonical, rfl⟩
  · have first : Canonical 1 (-1074) :=
      ⟨by norm_num, by norm_num, le_rfl, by norm_num, fun normal => absurd normal (lt_irrefl _)⟩
    rw [size_zeroFloat] at less ⊢
    have some : (1 : ℚ) ≤ n := by
      have nonzero : n ≠ 0 := by
        rintro rfl
        simp at less
      exact_mod_cast Nat.one_le_iff_ne_zero.2 nonzero
    refine ⟨first.toFloat .positive, first.isFinite_toFloat .positive, ?_, ?_, ?_⟩
    · rw [first.ofFloat_toFloat]
      rfl
    · rw [first.size_toFloat, Nat.cast_one, one_mul]
      exact zpow_pos two_pos _
    · rw [first.size_toFloat, Nat.cast_one]
      exact mul_le_mul some (zpow_two_le least) (zpow_nonneg two_pos.le _) (by linarith)
  · rw [canonical.ofFloat_toFloat] at even
    change m % 2 = 0 at even
    have room : m + 1 < 2 ^ 53 := by
      have := canonical.fits
      omega
    have next : Canonical (m + 1) e :=
      ⟨m.succ_pos, room, canonical.least, canonical.greatest,
        fun normal => (canonical.full normal).trans m.le_succ⟩
    rw [canonical.size_toFloat] at less ⊢
    refine ⟨next.toFloat .positive, next.isFinite_toFloat .positive, ?_, ?_, ?_⟩
    · rw [next.ofFloat_toFloat]
      change (m + 1) % 2 = 1
      omega
    · rw [next.size_toFloat]
      exact mul_lt_mul_of_pos_right (by push_cast; linarith) (zpow_pos two_pos _)
    · rw [next.size_toFloat]
      push_cast
      exact canonical.next_le fits least less

/-! ## One correct rounding -/

/-- Correct roundings have one size. -/
theorem Nearest.size_eq (left : Nearest q x) (right : Nearest q y) : size x = size y := by
  have apart : ∀ {x y : Float}, Nearest q x → Nearest q y → ¬size x < size y := by
    intro x y left right less
    -- Neither is nearer, so the quantity is in the middle of them and both mantissas are even.
    have equal : |q - size x| = |q - size y| :=
      le_antisymm (left.nearest y right.finite) (right.nearest x left.finite)
    have middle : q = (size x + size y) / 2 := by
      rcases abs_eq_abs.1 equal with same | opposite
      · linarith
      · linarith
    have evenLeft := left.even y right.finite less.ne' equal
    have evenRight := right.even x left.finite less.ne equal.symm
    obtain ⟨z, finite, odd, above, atMost⟩ :=
      exists_odd_between left.finite right.finite evenLeft less
    -- What follows behind the smaller one has an odd mantissa. It is not the greater one, then, and
    -- lies nearer to the middle.
    rcases atMost.eq_or_lt with same | below
    · have mantissas := (eq_of_size finite right.finite same).1
      omega
    · have near := left.nearest z finite
      rw [abs_of_nonneg (by linarith : 0 ≤ q - size x)] at near
      rcases abs_cases (q - size z) with ⟨value, -⟩ | ⟨value, -⟩
      · linarith
      · linarith
  exact le_antisymm (not_lt.1 (apart right left)) (not_lt.1 (apart left right))

/-- A quantity has one correct rounding with a given sign. -/
theorem Nearest.unique (left : Nearest q x) (right : Nearest q y)
    (signs : isNegative x = isNegative y) : x = y :=
  (eq_of_size left.finite right.finite (left.size_eq right)).2 signs

/-- A quantity is at most half a unit away from the number it is rounded to. -/
theorem RoundsTo.distance_le (rounds : RoundsTo q m e) : |q - m * 2 ^ e| ≤ 2 ^ e / 2 := by
  obtain ⟨low, high⟩ := rounds.bounds
  exact abs_le.2 ⟨by linarith, by linarith⟩

/-- It is less than half a unit away from an odd one. -/
theorem RoundsTo.distance_lt (rounds : RoundsTo q m e) (odd : m % 2 = 1) :
    |q - m * 2 ^ e| < 2 ^ e / 2 := by
  have unit : (0 : ℚ) < 2 ^ e := zpow_pos two_pos _
  obtain ⟨below, above⟩ := rounds.nearest.strict odd
  rw [lt_div_iff₀ unit] at below
  rw [div_lt_iff₀ unit] at above
  exact abs_lt.2 ⟨by linarith, by linarith⟩

/-- Every other number is at least half a unit away, or it is one of those that lie twice as dense
below a power of two and still not nearer. -/
theorem RoundsTo.half_le (canonical : Canonical m e) (rounds : RoundsTo q m e) (fits : n < 2 ^ 53)
    (least : -1074 ≤ f) (other : (n : ℚ) * 2 ^ f ≠ m * 2 ^ e) :
    2 ^ e / 2 ≤ |q - n * 2 ^ f| ∨ m = 2 ^ 52 ∧ |q - m * 2 ^ e| ≤ |q - n * 2 ^ f| := by
  have unit : (0 : ℚ) < 2 ^ e := zpow_pos two_pos _
  obtain ⟨low, high⟩ := rounds.bounds
  rcases lt_or_gt_of_ne other with less | greater
  · rcases canonical.le_previous fits least less with atMost | ⟨power, normal, atMost⟩
    · rw [abs_of_nonneg (by linarith)]
      exact .inl (by linarith)
    · have dense := (le_div_iff₀ unit).1 (rounds.dense power normal)
      rw [abs_of_nonneg (by linarith : 0 ≤ q - n * 2 ^ f)]
      exact .inr ⟨power, abs_le.2 ⟨by linarith, by linarith⟩⟩
  · have atLeast := canonical.next_le fits least greater
    rw [abs_of_nonpos (by linarith)]
    exact .inl (by linarith)

/-- The number whose interval a quantity lies in is its correct rounding. -/
theorem RoundsTo.isNearest (canonical : Canonical m e) (rounds : RoundsTo q m e) (sign : Sign)
    (small : q < tooLarge) : Nearest q (canonical.toFloat sign) := by
  have distance (y : Float) (finite : y.isFinite = true) (other : size y ≠ m * 2 ^ e) :
      |q - m * 2 ^ e| ≤ |q - size y| ∧ (|q - m * 2 ^ e| = |q - size y| → m % 2 = 0) := by
    obtain ⟨n, f, same, fits, least⟩ := exists_size finite
    rw [same] at other ⊢
    rcases rounds.half_le canonical fits least other with far | ⟨power, nearer⟩
    · refine ⟨rounds.distance_le.trans far, fun equal => ?_⟩
      by_contra odd
      exact absurd (rounds.distance_lt (by omega)) (not_lt.2 (far.trans equal.ge))
    · exact ⟨nearer, fun _ => by rw [power]; norm_num⟩
  refine ⟨canonical.isFinite_toFloat sign, small, fun y finite => ?_, fun y finite other equal => ?_⟩
  · rw [canonical.size_toFloat]
    by_cases same : size y = m * 2 ^ e
    · rw [same]
    · exact (distance y finite same).1
  · rw [canonical.size_toFloat] at other equal
    rw [canonical.ofFloat_toFloat]
    exact (distance y finite other).2 equal

/-- A quantity of at most half of the least number is rounded to zero. -/
theorem isNearest_zeroFloat (nonneg : 0 ≤ q) (tiny : q ≤ 2 ^ (-1075 : ℤ)) (sign : Sign) :
    Nearest q (zeroFloat sign) := by
  have half : 2 * (2 : ℚ) ^ (-1075 : ℤ) = 2 ^ (-1074 : ℤ) := by
    rw [← zpow_one_add₀ two_ne_zero]
    norm_num
  have small : q < tooLarge := by
    have below : q < 2 ^ ((0 : ℤ) + 53) :=
      tiny.trans_lt (zpow_lt_zpow_right₀ one_lt_two (by norm_num))
    exact lt_tooLarge below (by norm_num)
  refine ⟨by cases sign <;> rfl, small, fun y finite => ?_, fun y finite other equal => ?_⟩
  · rw [size_zeroFloat, sub_zero, abs_of_nonneg nonneg]
    obtain ⟨n, f, same, -, least⟩ := exists_size finite
    rw [same]
    rcases Nat.eq_zero_or_pos n with rfl | some
    · simp [abs_of_nonneg nonneg]
    · have one : (1 : ℚ) ≤ n := by exact_mod_cast some
      have atLeast : (2 : ℚ) ^ (-1074 : ℤ) ≤ n * 2 ^ f := by
        calc (2 : ℚ) ^ (-1074 : ℤ) ≤ 2 ^ f := zpow_two_le least
          _ ≤ n * 2 ^ f := le_mul_of_one_le_left (zpow_nonneg two_pos.le _) one
      rw [abs_of_nonpos (by linarith)]
      linarith
  · rw [ofFloat_zeroFloat]
    rfl

/-! ## Decimals -/

/-- A decimal of at most half of the least number is rounded to zero. -/
theorem ofScientific_of_tiny (tiny : (m : ℚ) * 10 ^ e ≤ 2 ^ (-1075 : ℤ)) :
    UnpackedFloat.ofScientific Format.binary64 m e = .zero .positive := by
  rcases Nat.eq_zero_or_pos m with rfl | positive
  · rw [UnpackedFloat.ofScientific, dif_pos rfl]
  · have notLarge : ¬2 ^ 11 < e := by
      intro large
      have less : (2 : ℚ) ^ (-1075 : ℤ) < 2 ^ (1024 : ℤ) :=
        zpow_lt_zpow_right₀ one_lt_two (by norm_num)
      linarith [le_of_large_exponent positive large]
    by_cases small : e < -(2 ^ 11 + m.log2 : ℤ)
    · rw [UnpackedFloat.ofScientific, dif_neg positive.ne', if_neg notLarge, if_pos small]
    · obtain ⟨n, target, accuracy, approximates, enough, rounded⟩ :=
        ofScientific_approximates positive (not_lt.1 notLarge) (not_lt.1 small)
      obtain ⟨mantissa, exponent, cut, same⟩ := exists_cutOff approximates enough
      obtain rfl := cut.eq_zero_iff.2 tiny
      have least : exponent = -1074 := by
        by_contra other
        have := cut.le_mantissa (lt_of_le_of_ne cut.least (Ne.symm other))
        omega
      rw [rounded, same, least]
      rfl

/-- What is calculated from exact numbers is not that small, unless it is nothing. -/
theorem not_tiny {digits places : ℕ} (positive : 0 < digits) (few : places ≤ 22) (small : Bool) :
    ¬(digits : ℚ) * 10 ^ (if small then -(places : ℤ) else places) ≤ 2 ^ (-1075 : ℤ) := by
  have exponent : (-22 : ℤ) ≤ if small then -(places : ℤ) else places := by
    split <;> omega
  have some : (1 : ℚ) ≤ digits := by exact_mod_cast positive
  rw [not_le]
  calc (2 : ℚ) ^ (-1075 : ℤ) < 2 ^ (-88 : ℤ) := zpow_lt_zpow_right₀ one_lt_two (by norm_num)
    _ ≤ 10 ^ (-22 : ℤ) := by norm_num
    _ ≤ 10 ^ (if small then -(places : ℤ) else places) :=
      zpow_le_zpow_right₀ (by norm_num) exponent
    _ ≤ digits * 10 ^ (if small then -(places : ℤ) else places) :=
      le_mul_of_one_le_left (zpow_nonneg (by norm_num) _) some

/-- A decimal of at most half of the least number is read as zero. -/
theorem toFloat_of_tiny {digits places : ℕ} {small : Bool}
    (tiny : (digits : ℚ) * 10 ^ (if small then -(places : ℤ) else places) ≤ 2 ^ (-1075 : ℤ)) :
    Float.ofScientific digits small places = zeroFloat .positive := by
  unfold Float.ofScientific
  split
  case isTrue exact =>
    obtain ⟨-, few⟩ := exact
    have inTable : places < Float.exactlyRepresentablePowersOfTen.size := Nat.lt_succ_iff.2 few
    obtain ⟨n, f, right, -, powerFloat⟩ := exists_power inTable
    rcases Nat.eq_zero_or_pos digits with rfl | positive
    · have nothing : (0 : ℕ).toUInt64.toFloat = zeroFloat .positive := rfl
      obtain ⟨times, parts⟩ := right.zeroFloat_mul_div
      simp only [nothing, powerFloat, times, parts, ite_self]
    · exact absurd tiny (not_tiny positive (Nat.lt_succ_iff.1 inTable) small)
  case isFalse =>
    simp only [signedPlaces]
    unfold Float.Model.ofScientific
    rw [ofScientific_of_tiny tiny]
    rfl

end

end InputDeck.Rounding

namespace InputDeck

open Rounding

namespace Decimal

/-- A decimal that is not too large is read as its correct rounding, whatever its sign. -/
theorem nearest_toFloat {d : Decimal} (small : d.value < tooLarge) (negative : Bool) :
    Nearest d.value (if negative then -d.toFloat else d.toFloat) ∧
      isNegative (if negative then -d.toFloat else d.toFloat) = negative := by
  have nonneg : 0 ≤ d.value := mul_nonneg (Nat.cast_nonneg _) (zpow_nonneg (by norm_num) _)
  rcases tiny_or_exists_roundsTo nonneg small with tiny | ⟨m, e, canonical, rounds⟩
  · have nothing : d.toFloat = zeroFloat .positive := by
      apply toFloat_of_tiny
      rw [d.exponent_eq]
      exact tiny
    have signed : (if negative then -d.toFloat else d.toFloat) =
        zeroFloat (if negative then .negative else .positive) := by
      rw [nothing]
      cases negative <;> rfl
    rw [signed, isNegative_zeroFloat]
    exact ⟨isNearest_zeroFloat nonneg tiny _, by cases negative <;> rfl⟩
  · have signed : (if negative then -d.toFloat else d.toFloat) =
        canonical.toFloat (if negative then .negative else .positive) := by
      rw [toFloat_eq canonical rounds, canonical.neg_toFloat]
      cases negative <;> rfl
    rw [signed, canonical.isNegative_toFloat]
    exact ⟨rounds.isNearest canonical _ small, by cases negative <;> rfl⟩

/-- The finite number that a signed decimal is read as is its correct rounding. -/
theorem isNearest_iff (d : Decimal) (negative : Bool) (x : Float) :
    Nearest d.value x ∧ isNegative x = negative ↔
      (if negative then -d.toFloat else d.toFloat) = x ∧ x.isFinite = true := by
  constructor
  · rintro ⟨nearest, sign⟩
    obtain ⟨own, ownSign⟩ := nearest_toFloat nearest.inRange negative
    exact ⟨own.unique nearest (ownSign.trans sign.symm), nearest.finite⟩
  · rintro ⟨rfl, finite⟩
    refine nearest_toFloat (d.status_toFloat.2.1 ?_) negative
    cases negative with
    | false => exact finite
    | true => exact (status_neg d.toFloat).2 ▸ finite

end Decimal

end InputDeck
