import InputDeck.Proofs.Number.Comparison
import InputDeck.Proofs.Number.Range

/-!
# The order of words as real numbers

A word becomes the nearest number of the format, and the order of words is kept: a greater word
becomes a number that is greater or the same. Words become the same number only if they have more
than 53 bits and are close to each other. So comparing words as real numbers tells which one is
less, unless they are different words that become the same number.
-/

namespace InputDeck.Rounding

open Float.Model Float.Model.UnpackedFloat

section

variable {p q : ℚ} {m n : ℕ} {e f : ℤ}

/-! ## Rounding in order -/

/-- A greater quantity has a nearest integer that is greater or the same. -/
theorem NearestEven.mono (le : p ≤ q) (left : NearestEven p m) (right : NearestEven q n) :
    m ≤ n := by
  by_contra greater
  have next : (n : ℚ) + 1 ≤ m := by exact_mod_cast not_le.1 greater
  have same : p = q := le_antisymm le (by linarith [left.below, right.above])
  subst same
  exact greater (left.unique right).le

/-- Above the least exponent, what is rounded to a number is at most a quarter below the least
mantissa of 53 bits. -/
theorem RoundsTo.atLeast (canonical : Canonical m e) (rounds : RoundsTo p m e)
    (normal : -1074 < e) : (2 ^ 52 - 1 / 4) * 2 ^ e ≤ p := by
  have unit : (0 : ℚ) < 2 ^ e := zpow_pos two_pos _
  rw [← le_div_iff₀ unit]
  rcases (canonical.full normal).eq_or_lt with power | greater
  · have dense := rounds.dense power.symm normal
    rw [← power] at dense
    exact_mod_cast dense
  · have next : (2 ^ 52 : ℚ) + 1 ≤ m := by exact_mod_cast greater
    linarith [rounds.nearest.below]

/-- What is rounded to a number is less than half above the greatest mantissa of 53 bits, which is
odd. -/
theorem RoundsTo.below (canonical : Canonical m e) (rounds : RoundsTo p m e) :
    p < (2 ^ 53 - 1 / 2) * 2 ^ e := by
  have unit : (0 : ℚ) < 2 ^ e := zpow_pos two_pos _
  have fits := canonical.fits
  rw [← div_lt_iff₀ unit]
  rcases Nat.mod_two_eq_zero_or_one m with even | odd
  · have most : (m : ℚ) + 2 ≤ 2 ^ 53 := by
      have : m + 2 ≤ 2 ^ 53 := by omega
      exact_mod_cast this
    linarith [rounds.nearest.above]
  · have most : (m : ℚ) + 1 ≤ 2 ^ 53 := by exact_mod_cast fits
    linarith [(rounds.nearest.strict odd).2]

/-- A greater quantity is rounded to a number that is greater or the same. -/
theorem RoundsTo.mono (le : p ≤ q) (left : Canonical m e) (right : Canonical n f)
    (rounds : RoundsTo p m e) (others : RoundsTo q n f) : e < f ∨ e = f ∧ m ≤ n := by
  rcases lt_trichotomy e f with less | same | greater
  · exact .inl less
  · subst same
    have unit : (0 : ℚ) ≤ 2 ^ e := zpow_nonneg two_pos.le _
    exact .inr ⟨rfl, rounds.nearest.mono (div_le_div_of_nonneg_right le unit) others.nearest⟩
  · have twice : 2 * (2 : ℚ) ^ f ≤ 2 ^ e := by
      rw [← zpow_one_add₀ two_ne_zero]
      exact zpow_two_le (by omega)
    have atLeast := rounds.atLeast left (right.least.trans_lt greater)
    have below := others.below right
    linarith

/-! ## Numbers in order -/

/-- Positive numbers are in the order of their exponents and, for the same exponent, of their
mantissas. -/
theorem Canonical.positive_le_iff (left : Canonical m e) (right : Canonical n f) :
    left.toFloat .positive ≤ right.toFloat .positive ↔ e < f ∨ e = f ∧ m ≤ n := by
  rw [float_le_iff, left.unpack_toFloat, right.unpack_toFloat]
  simp only [UnpackedFloat.le, UnpackedFloat.compare, Option.any_some, Ordering.isLE_then_iff_or,
    Int.compare_eq_lt, compare_eq_iff_eq, Nat.isLE_compare]

/-- Negative numbers are in the opposite order. -/
theorem Canonical.negative_le_iff (left : Canonical m e) (right : Canonical n f) :
    left.toFloat .negative ≤ right.toFloat .negative ↔ f < e ∨ f = e ∧ n ≤ m := by
  rw [float_le_iff, left.unpack_toFloat, right.unpack_toFloat]
  simp only [UnpackedFloat.le, UnpackedFloat.compare, Option.any_some, Ordering.swap_then,
    Int.compare_swap, Nat.compare_swap, Ordering.isLE_then_iff_or, Int.compare_eq_lt,
    compare_eq_iff_eq, Nat.isLE_compare]

/-- A number of the format tells its mantissa and its exponent. -/
theorem Canonical.toFloat_eq_iff {sign sign' : Sign} (left : Canonical m e)
    (right : Canonical n f) :
    left.toFloat sign = right.toFloat sign' ↔ sign = sign' ∧ m = n ∧ e = f := by
  constructor
  · intro same
    have unpacked := congrArg (fun x : Float => x.toModel.unpack) same
    simpa only [left.unpack_toFloat, right.unpack_toFloat, finite.injEq] using unpacked
  · rintro ⟨rfl, rfl, rfl⟩
    rfl

/-- A number of the format is no zero. -/
theorem Canonical.toFloat_ne_zeroFloat {sign : Sign} (canonical : Canonical m e) :
    canonical.toFloat sign ≠ zeroFloat .positive := by
  intro same
  have unpacked := congrArg (fun x : Float => x.toModel.unpack) same
  simp only [canonical.unpack_toFloat] at unpacked
  cases unpacked

/-! ## Words as real numbers -/

/-- What an integer becomes: zero, or the nearest number of the format with its sign. -/
inductive Becomes : ℤ → Float → Prop
  | zero : Becomes 0 (zeroFloat .positive)
  | positive {size : ℕ} {m : ℕ} {e : ℤ} (canonical : Canonical m e) (rounds : RoundsTo size m e) :
      Becomes size (canonical.toFloat .positive)
  | negative {size : ℕ} {m : ℕ} {e : ℤ} (canonical : Canonical m e) (rounds : RoundsTo size m e) :
      Becomes (-size) (canonical.toFloat .negative)

/-- A natural number that is no longer than a word becomes the nearest number. -/
theorem exists_ofNat {size : ℕ} (some : 0 < size) (fits : size ≤ 2 ^ 63) :
    ∃ m e, ∃ canonical : Canonical m e, RoundsTo size m e ∧
      Float.ofNat size = canonical.toFloat .positive := by
  have atLeastOne : (1 : ℚ) ≤ size := by exact_mod_cast some
  have small : (size : ℚ) < 2 ^ ((11 : ℤ) + 53) := by
    have less : size < 2 ^ 64 := fits.trans_lt (by norm_num)
    exact_mod_cast less
  have notTiny : ¬(size : ℚ) ≤ 2 ^ (-1075 : ℤ) := by
    have tiny : (2 : ℚ) ^ (-1075 : ℤ) < 2 ^ (0 : ℤ) := zpow_lt_zpow_right₀ one_lt_two (by norm_num)
    linarith [zpow_zero (2 : ℚ)]
  obtain ⟨m, e, canonical, rounds⟩ :=
    (tiny_or_exists_roundsTo (by linarith) (lt_tooLarge small (by norm_num))).resolve_left notTiny
  have decimal : RoundsTo (Decimal.value ⟨size, 0⟩) m e := by
    rwa [Decimal.value, zpow_zero, mul_one]
  exact ⟨m, e, canonical, rounds, Decimal.toFloat_eq canonical decimal⟩

/-- An integer that is no longer than a word becomes a number. -/
theorem becomes_ofInt {k : ℤ} (fits : k.natAbs ≤ 2 ^ 63) : Becomes k (Float.ofInt k) := by
  cases k with
  | ofNat size =>
    rcases Nat.eq_zero_or_pos size with rfl | some
    · have nothing : Float.ofInt (.ofNat 0) = zeroFloat .positive := by rfl
      rw [nothing]
      exact .zero
    · obtain ⟨m, e, canonical, rounds, same⟩ := exists_ofNat some fits
      change Becomes size (Float.ofNat size)
      rw [same]
      exact .positive canonical rounds
  | negSucc size =>
    obtain ⟨m, e, canonical, rounds, same⟩ := exists_ofNat size.succ_pos fits
    change Becomes (-(size + 1 : ℕ)) (-Float.ofNat (size + 1))
    rw [same, canonical.neg_toFloat]
    exact .negative canonical rounds

/-- What is rounded to a number of the format is not nothing. -/
theorem RoundsTo.size_pos {size : ℕ} (canonical : Canonical m e) (rounds : RoundsTo size m e) :
    0 < size := by
  have some : (0 : ℚ) < size := (zpow_pos two_pos _).trans_le (rounds.range canonical).1
  exact_mod_cast some

/-- Numbers are in the order of what is rounded to them, unless they are the same. -/
theorem RoundsTo.order {size other : ℕ} (left : Canonical m e) (right : Canonical n f)
    (rounds : RoundsTo size m e) (others : RoundsTo other n f) :
    (e < f ∨ e = f ∧ m ≤ n) ↔ size ≤ other ∨ m = n ∧ e = f := by
  constructor
  · intro le
    rcases Nat.le_total size other with inOrder | greater
    · exact .inl inOrder
    · have ge := others.mono (by exact_mod_cast greater) right left rounds
      omega
  · rintro (inOrder | ⟨rfl, rfl⟩)
    · exact rounds.mono (by exact_mod_cast inOrder) left right others
    · exact .inr ⟨rfl, le_rfl⟩

/-- Zero is held as zero. -/
theorem unpack_zeroFloat : (zeroFloat .positive).toModel.unpack = .zero .positive := rfl

/-- A greater integer becomes a number that is greater or the same, so comparing the numbers tells
the order of the integers unless they become the same number. -/
theorem Becomes.le_iff {a b : ℤ} {x y : Float} (left : Becomes a x) (right : Becomes b y) :
    x ≤ y ↔ a ≤ b ∨ x = y := by
  cases left with
  | zero =>
    rw [float_le_iff, unpack_zeroFloat]
    cases right with
    | zero => exact iff_of_true rfl (.inl le_rfl)
    | positive other others =>
      rw [other.unpack_toFloat]
      exact iff_of_true rfl (.inl (Int.natCast_nonneg _))
    | negative other others =>
      have some := others.size_pos other
      rw [other.unpack_toFloat]
      exact iff_of_false nofun (not_or.2 ⟨by omega, other.toFloat_ne_zeroFloat.symm⟩)
  | positive canonical rounds =>
    have some := rounds.size_pos canonical
    cases right with
    | zero =>
      rw [float_le_iff, unpack_zeroFloat, canonical.unpack_toFloat]
      exact iff_of_false nofun (not_or.2 ⟨by omega, canonical.toFloat_ne_zeroFloat⟩)
    | positive other others =>
      rw [canonical.positive_le_iff other, rounds.order canonical other others,
        canonical.toFloat_eq_iff other, Int.ofNat_le, and_iff_right rfl]
    | negative other others =>
      rw [float_le_iff, canonical.unpack_toFloat, other.unpack_toFloat,
        canonical.toFloat_eq_iff other]
      exact iff_of_false nofun (not_or.2 ⟨by omega, fun same => nomatch same.1⟩)
  | negative canonical rounds =>
    cases right with
    | zero =>
      rw [float_le_iff, unpack_zeroFloat, canonical.unpack_toFloat]
      exact iff_of_true rfl (.inl (by omega))
    | positive other others =>
      rw [float_le_iff, canonical.unpack_toFloat, other.unpack_toFloat]
      exact iff_of_true rfl (.inl (by omega))
    | negative other others =>
      rw [canonical.negative_le_iff other, others.order other canonical rounds,
        @eq_comm Float, other.toFloat_eq_iff canonical, Int.neg_le_neg_iff, Int.ofNat_le,
        and_iff_right rfl]

/-- Where mantissas count units or parts of them, a natural number is rounded to itself. -/
theorem RoundsTo.eq_of_fraction {size : ℕ} {places : ℕ} (rounds : RoundsTo size m (-places)) :
    size * 2 ^ places = m := by
  have nearest := rounds.nearest
  have whole : (size : ℚ) / 2 ^ (-places : ℤ) = (size * 2 ^ places : ℕ) := by
    rw [zpow_neg, zpow_natCast, div_inv_eq_mul]
    push_cast
    rfl
  rw [whole] at nearest
  exact nearest.natCast_eq

/-- Where mantissas count more than units, a natural number has more than 53 bits. -/
theorem RoundsTo.le_size {size : ℕ} (canonical : Canonical m e) (rounds : RoundsTo size m e)
    (coarse : 0 < e) : 2 ^ 53 ≤ size := by
  have atLeast := rounds.atLeast canonical (by omega)
  have two : (2 : ℚ) ^ (1 : ℤ) ≤ 2 ^ e := zpow_two_le coarse
  rw [zpow_one] at two
  have more : ((2 ^ 53 : ℕ) : ℚ) < (size + 1 : ℕ) := by
    push_cast
    linarith
  exact Nat.lt_succ_iff.1 (by exact_mod_cast more)

/-- Natural numbers that are rounded to the same number are the same, or they have more than 53 bits
and are close to each other. -/
theorem RoundsTo.near {size other : ℕ} (canonical : Canonical m e) (rounds : RoundsTo size m e)
    (others : RoundsTo other m e) (fits : size ≤ 2 ^ 63) (otherFits : other ≤ 2 ^ 63) :
    size = other ∨ 2 ^ 53 ≤ size ∧ 2 ^ 53 ≤ other ∧ |(size : ℤ) - other| ≤ 1024 := by
  rcases le_or_gt e 0 with fine | coarse
  · obtain ⟨places, rfl⟩ : ∃ places : ℕ, e = -places := ⟨(-e).toNat, by omega⟩
    exact .inl (Nat.eq_of_mul_eq_mul_right (Nat.two_pow_pos places)
      (rounds.eq_of_fraction.trans others.eq_of_fraction.symm))
  · refine .inr ⟨rounds.le_size canonical coarse, others.le_size canonical coarse, ?_⟩
    have atLeast := rounds.atLeast canonical (by omega)
    have otherAtLeast := others.atLeast canonical (by omega)
    have atMost : (size : ℚ) ≤ 2 ^ 63 := by exact_mod_cast fits
    have otherAtMost : (other : ℚ) ≤ 2 ^ 63 := by exact_mod_cast otherFits
    have spread : |(size : ℚ) - other| ≤ 1024 := by
      rw [abs_le]
      rcases le_or_gt e 10 with short | long
      · have units : (2 : ℚ) ^ e ≤ 2 ^ (10 : ℤ) := zpow_two_le short
        obtain ⟨low, high⟩ := rounds.bounds
        obtain ⟨otherLow, otherHigh⟩ := others.bounds
        constructor <;> linarith
      · -- Words end where the numbers begin that are further apart.
        have units : (2 : ℚ) ^ (11 : ℤ) ≤ 2 ^ e := zpow_two_le long
        constructor <;> linarith
    exact_mod_cast spread

/-- Integers that become the same number are the same, or they have more than 53 bits and are close
to each other. -/
theorem Becomes.near {a b : ℤ} {x y : Float} (left : Becomes a x) (right : Becomes b y)
    (same : x = y) (aFits : a.natAbs ≤ 2 ^ 63) (bFits : b.natAbs ≤ 2 ^ 63) :
    a = b ∨ 2 ^ 53 ≤ |a| ∧ 2 ^ 53 ≤ |b| ∧ |a - b| ≤ 1024 := by
  cases left with
  | zero =>
    cases right with
    | zero => exact .inl rfl
    | positive other | negative other => exact absurd same.symm other.toFloat_ne_zeroFloat
  | positive canonical rounds =>
    cases right with
    | zero => exact absurd same canonical.toFloat_ne_zeroFloat
    | positive other others =>
      obtain ⟨-, rfl, rfl⟩ := (canonical.toFloat_eq_iff other).1 same
      simpa using rounds.near canonical others aFits bFits
    | negative other => exact nomatch ((canonical.toFloat_eq_iff other).1 same).1
  | negative canonical rounds =>
    cases right with
    | zero => exact absurd same canonical.toFloat_ne_zeroFloat
    | positive other => exact nomatch ((canonical.toFloat_eq_iff other).1 same).1
    | negative other others =>
      obtain ⟨-, rfl, rfl⟩ := (canonical.toFloat_eq_iff other).1 same
      have near := others.near canonical rounds (by simpa using bFits) (by simpa using aFits)
      rw [neg_sub_neg, abs_neg, abs_neg, Nat.abs_cast, Nat.abs_cast]
      omega

end

end InputDeck.Rounding

namespace InputDeck

open Rounding

/-- A word becomes a number. -/
theorem becomes_ofWord (a : Int64) : Becomes a.toInt (Float.ofInt a.toInt) := by
  have least := a.le_toInt
  have greatest := a.toInt_lt
  exact becomes_ofInt (by omega)

/-- Comparing words as real numbers tells their order, unless they become the same number. -/
theorem ofWord_le_iff (a b : Int64) :
    Float.ofInt a.toInt ≤ Float.ofInt b.toInt ↔
      a.toInt ≤ b.toInt ∨ Float.ofInt a.toInt = Float.ofInt b.toInt :=
  (becomes_ofWord a).le_iff (becomes_ofWord b)

/-- Words that become the same number are the same, or they have more than 53 bits and are close to
each other. -/
theorem ofWord_near {a b : Int64} (same : Float.ofInt a.toInt = Float.ofInt b.toInt) :
    a = b ∨ 2 ^ 53 ≤ |a.toInt| ∧ 2 ^ 53 ≤ |b.toInt| ∧ |a.toInt - b.toInt| ≤ 1024 := by
  have least := a.le_toInt
  have greatest := a.toInt_lt
  have otherLeast := b.le_toInt
  have otherGreatest := b.toInt_lt
  rw [← Int64.toInt_inj]
  exact (becomes_ofWord a).near (becomes_ofWord b) same (by omega) (by omega)

end InputDeck
