import InputDeck.Proofs.Number.Notation
import InputDeck.Proofs.Number.Storage

/-!
# Written numbers read back

The digits of a number are looked for among the decimals of its interval, and neither zeros at
their end nor the notation they are written in changes the decimal. So a number that is written
in any notation is read again as the same number. How a deck writes it shows that it is real: an
integer gets a point or an exponent, and any other number has digits behind its point.
-/

namespace InputDeck

open Float.Model Rounding Numeral

namespace Binary

variable {mantissa : ℕ} {exponent : ℤ}

/-- One unit of the mantissa, on the scale of the exact digits. -/
theorem unit_mul_zpow (b : Binary) : (b.unit : ℚ) * 10 ^ b.decimalExponent = 2 ^ b.exponent := by
  obtain ⟨mantissa, exponent, narrow⟩ := b
  rcases Int.le_total 0 exponent with whole | small
  · obtain ⟨n, rfl⟩ := Int.eq_ofNat_of_zero_le whole
    simp [unit, decimalExponent]
  · obtain ⟨n, rfl⟩ := Int.exists_eq_neg_ofNat small
    cases n with
    | zero => simp [unit, decimalExponent]
    | succ n =>
      have negative : ¬(0 : ℤ) ≤ -((n + 1 : ℕ) : ℤ) := by omega
      have scale : min (-((n + 1 : ℕ) : ℤ)) 0 = -((n + 1 : ℕ) : ℤ) := by omega
      simp only [unit, decimalExponent, negative, ite_false, scale, Int.natAbs_neg,
        Int.natAbs_natCast, zpow_neg, zpow_natCast, Nat.pow_eq]
      push_cast
      rw [show (10 : ℚ) = 5 * 2 by norm_num, mul_pow]
      field_simp

/-- A unit is not nothing. -/
theorem unit_pos (b : Binary) : 0 < b.unit := by
  unfold unit
  split
  · exact Nat.pow_pos (by norm_num)
  · exact Nat.pow_pos (by norm_num)

/-- The exact digits are those of the number. -/
theorem exactDigits_mul_zpow (b : Binary) :
    (b.exactDigits : ℚ) * 10 ^ b.decimalExponent = b.mantissa * 2 ^ b.exponent := by
  rw [exactDigits, ← unit_mul_zpow]
  push_cast
  ring

/-- What reads back lies between the ends, and not at them if the mantissa is odd. -/
theorem bounds_of_readsBack {b : Binary} (positive : 0 < b.mantissa) {n : ℕ}
    (reads : b.readsBack n = true) :
    4 * b.exactDigits ≤ 4 * n + (if b.narrowBelow then b.unit else 2 * b.unit) ∧
      4 * n ≤ 4 * b.exactDigits + 2 * b.unit ∧
      (b.mantissa % 2 = 1 →
        4 * b.exactDigits < 4 * n + 2 * b.unit ∧ 4 * n < 4 * b.exactDigits + 2 * b.unit) := by
  have enough : b.unit ≤ b.exactDigits := Nat.le_mul_of_pos_left _ positive
  have smaller : (if b.narrowBelow then b.unit else 2 * b.unit) ≤ 2 * b.unit := by
    split <;> omega
  unfold readsBack at reads
  simp only at reads
  split at reads
  · simp only [Bool.and_eq_true, decide_eq_true_eq] at reads
    omega
  · simp only [Bool.and_eq_true, decide_eq_true_eq] at reads
    omega

/-- What reads back lies in the interval of the number. -/
theorem roundsTo_of_readsBack (canonical : Canonical mantissa exponent) {n : ℕ}
    (reads : (magnitude mantissa exponent).readsBack n = true) :
    RoundsTo (n * 10 ^ (magnitude mantissa exponent).decimalExponent) mantissa exponent := by
  obtain ⟨low, high, strict⟩ := bounds_of_readsBack canonical.positive reads
  have narrow : mantissa = 2 ^ 52 → -1074 < exponent →
      (magnitude mantissa exponent).narrowBelow = true :=
    fun power normal => decide_eq_true ⟨power, normal⟩
  have digits : (magnitude mantissa exponent).exactDigits =
      mantissa * (magnitude mantissa exponent).unit := rfl
  have unitPositive : (0 : ℚ) < (magnitude mantissa exponent).unit := by
    exact_mod_cast (magnitude mantissa exponent).unit_pos
  have quotient : (n : ℚ) * 10 ^ (magnitude mantissa exponent).decimalExponent / 2 ^ exponent =
      n / (magnitude mantissa exponent).unit := by
    have scale : (10 : ℚ) ^ (magnitude mantissa exponent).decimalExponent ≠ 0 :=
      zpow_ne_zero _ (by norm_num)
    have unit := (magnitude mantissa exponent).unit_mul_zpow
    change _ = (2 : ℚ) ^ exponent at unit
    rw [← unit, mul_div_mul_right _ _ scale]
  rw [digits] at low high strict
  generalize (magnitude mantissa exponent).unit = unit at *
  have lowHalf : 4 * (mantissa * unit) ≤ 4 * n + 2 * unit := by
    split at low <;> omega
  refine ⟨⟨?_, ?_, ?_⟩, ?_⟩
  all_goals rw [quotient]
  · rw [le_div_iff₀ unitPositive]
    have : 4 * ((mantissa : ℚ) * unit) ≤ 4 * n + 2 * unit := by exact_mod_cast lowHalf
    linarith
  · rw [div_le_iff₀ unitPositive]
    have : 4 * (n : ℚ) ≤ 4 * (mantissa * unit) + 2 * unit := by exact_mod_cast high
    linarith
  · intro odd
    obtain ⟨above, below⟩ := strict odd
    have above : 4 * ((mantissa : ℚ) * unit) < 4 * n + 2 * unit := by exact_mod_cast above
    have below : 4 * (n : ℚ) < 4 * (mantissa * unit) + 2 * unit := by exact_mod_cast below
    rw [lt_div_iff₀ unitPositive, div_lt_iff₀ unitPositive]
    constructor <;> linarith
  · intro power normal
    rw [if_pos (narrow power normal)] at low
    have : 4 * ((mantissa : ℚ) * unit) ≤ 4 * n + unit := by exact_mod_cast low
    rw [le_div_iff₀ unitPositive]
    linarith

/-- A neighbour that is taken reads back. -/
theorem readsBack_of_nearest? {b : Binary} {dropped n : ℕ} (taken : b.nearest? dropped = some n) :
    b.readsBack (n * 10 ^ dropped) = true := by
  unfold nearest? at taken
  simp only [Nat.pow_eq] at taken
  split at taken
  · rename_i below _
    cases taken
    exact below
  · rename_i above
    cases taken
    exact above
  · rename_i below above
    split at taken
    · cases taken
      exact above
    · cases taken
      exact below
  · cases taken

/-- What the search ends with lies in the interval of the number. -/
theorem roundsTo_search (canonical : Canonical mantissa exponent) (dropped : ℕ) :
    RoundsTo ((magnitude mantissa exponent).search dropped).value mantissa exponent := by
  induction dropped with
  | zero =>
    have exact := (magnitude mantissa exponent).exactDigits_mul_zpow
    change RoundsTo (((magnitude mantissa exponent).exactDigits : ℚ) *
      10 ^ (magnitude mantissa exponent).decimalExponent) mantissa exponent
    rw [exact]
    exact roundsTo_self mantissa exponent
  | succ dropped inductionHypothesis =>
    unfold search
    split
    · rename_i n taken
      have rounds := roundsTo_of_readsBack canonical (readsBack_of_nearest? taken)
      convert rounds using 1
      rw [Decimal.value, zpow_add₀ (by norm_num), zpow_natCast]
      push_cast
      ring
    · exact inductionHypothesis

end Binary

namespace Decimal

/-- Without its last zeros a decimal is the same quantity. -/
theorem value_strip (d : Decimal) : d.strip.value = d.value := by
  fun_induction strip d with
  | case1 d zero => simp [value, zero]
  | case2 d _ divides inductionHypothesis =>
    rw [inductionHypothesis]
    have digits : d.digits = d.digits / 10 * 10 := by omega
    conv => rhs; rw [value, digits]
    rw [value, zpow_add₀ (by norm_num), zpow_one]
    push_cast
    ring
  | case3 => rfl

/-- The decimal of fewest digits lies in the interval of the number. -/
theorem roundsTo_shortest {mantissa : ℕ} {exponent : ℤ} (canonical : Canonical mantissa exponent)
    (sign : UnpackedFloat.Sign) :
    RoundsTo (shortest (canonical.toFloat sign)).value mantissa exponent := by
  unfold shortest
  simp only [canonical.ofFloat_toFloat, value_strip]
  exact Binary.roundsTo_search canonical _

/-- A number whose digits have no fraction is an integer. The integers of its interval lie on the
grid of its mantissa, and there it is alone. -/
theorem isIntegral_of_roundsTo {mantissa : ℕ} {exponent : ℤ} {d : Decimal}
    (rounds : RoundsTo d.value mantissa exponent) (whole : 0 ≤ d.exponent) :
    (magnitude mantissa exponent).isIntegral = true := by
  obtain ⟨digits, power⟩ := d
  obtain ⟨zeros, rfl⟩ := Int.eq_ofNat_of_zero_le whole
  rcases Int.le_total 0 exponent with integral | fractional
  · simp [magnitude, Binary.isIntegral, integral]
  · obtain ⟨n, rfl⟩ := Int.exists_eq_neg_ofNat fractional
    have onGrid : (Decimal.mk digits zeros).value / 2 ^ (-(n : ℤ)) =
        ((digits * 10 ^ zeros * 2 ^ n : ℕ) : ℚ) := by
      simp [value]
    have nearest := rounds.nearest
    rw [onGrid] at nearest
    simp [magnitude, Binary.isIntegral, ← nearest.natCast_eq]

end Decimal

/-! ## Digits -/

/-- Zeros in front of digits. -/
theorem digitsValue_zeros_append (n : ℕ) (digits : Text) :
    digitsValue (List.replicate n '0' ++ digits) = digitsValue digits := by
  simp [digitsValue, Nat.ofDigitChars_append]

/-- Zeros behind digits. -/
theorem digitsValue_append_zeros (digits : Text) (n : ℕ) :
    digitsValue (digits ++ List.replicate n '0') = 10 ^ n * digitsValue digits := by
  simp [digitsValue, Nat.ofDigitChars_append]

namespace Decimal

/-- The digits on both sides of the point name the decimal. -/
theorem value_split (d : Decimal) :
    (digitsValue (d.split.1 ++ d.split.2) : ℚ) * 10 ^ (-(d.split.2.length : ℤ)) = d.value := by
  obtain ⟨digits, exponent⟩ := d
  by_cases whole : 0 ≤ exponent
  · obtain ⟨zeros, rfl⟩ := Int.eq_ofNat_of_zero_le whole
    simp [split, value, digitsValue_append_zeros, digitsValue_renderNat, mul_comm]
  · obtain ⟨places, rfl⟩ : ∃ places : ℕ, exponent = -(places : ℤ) := ⟨exponent.natAbs, by omega⟩
    by_cases small : (renderNat digits).length ≤ places
    · have zeros := digitsValue_zeros_append (1 + (places - (renderNat digits).length))
        (renderNat digits)
      rw [List.replicate_add, List.append_assoc, digitsValue_renderNat] at zeros
      simp only [split, whole, Int.natAbs_neg, Int.natAbs_natCast, small, ite_false, ite_true,
        value, List.length_append, List.length_replicate, Nat.sub_add_cancel small]
      rw [show ['0'] = List.replicate 1 '0' from rfl, zeros]
    · have length : (renderNat digits).length - ((renderNat digits).length - places) = places := by
        omega
      simp only [split, whole, Int.natAbs_neg, Int.natAbs_natCast, small, ite_false, value,
        List.take_append_drop, digitsValue_renderNat, List.length_drop, length]

/-- Only an integer has no digits behind the point. -/
theorem exponent_of_split_nil {d : Decimal} (empty : d.split.2 = []) : 0 ≤ d.exponent := by
  by_contra negative
  have nonempty := renderNat_ne_nil d.digits
  unfold split at empty
  simp only [negative, ite_false] at empty
  split at empty
  · simp [nonempty] at empty
  · simp only [List.drop_eq_nil_iff] at empty
    omega

/-- Plain notation names the decimal. -/
theorem value_plain (d : Decimal) :
    (Numeral.toDecimal ⟨d.split.1, if d.split.2 = [] then none else some d.split.2, none⟩).value =
      d.value := by
  have fraction : (if d.split.2 = [] then none else some d.split.2).getD [] = d.split.2 := by
    split
    · rename_i empty
      exact empty.symm
    · rfl
  rw [← d.value_split]
  simp [Numeral.toDecimal, value, fraction]

/-- Pointed notation names the decimal. -/
theorem value_pointed (d : Decimal) :
    (Numeral.toDecimal
      ⟨d.split.1, some (if d.split.2 = [] then ['0'] else d.split.2), none⟩).value = d.value := by
  rw [← d.value_split]
  by_cases empty : d.split.2 = []
  · have zero : digitsValue (d.split.1 ++ ['0']) = 10 * digitsValue d.split.1 :=
      digitsValue_append_zeros d.split.1 1
    simp only [Numeral.toDecimal, value, empty, ite_true, Option.getD_some, Option.getD_none, zero,
      List.length_singleton, List.length_nil, List.append_nil]
    push_cast
    field_simp
  · simp [Numeral.toDecimal, value, empty]

/-- The exponent that is written is the exponent. -/
theorem exponentValue_written (n : ℤ) :
    Numeral.exponentValue (decide (n < 0), renderNat n.natAbs) = n := by
  by_cases negative : n < 0
  · simp only [negative, decide_true, Numeral.exponentValue, digitsValue_renderNat]
    omega
  · simp only [negative, decide_false, Numeral.exponentValue, digitsValue_renderNat]
    omega

/-- Scientific notation names the decimal. -/
theorem value_scientific (d : Decimal) :
    (Numeral.toDecimal ⟨(renderNat d.digits).take 1,
      if (renderNat d.digits).drop 1 = [] then none else some ((renderNat d.digits).drop 1),
      some (Numeral.exponentValue (decide (d.power < 0), renderNat d.power.natAbs))⟩).value =
        d.value := by
  have fraction : (if (renderNat d.digits).drop 1 = [] then none
      else some ((renderNat d.digits).drop 1)).getD [] = (renderNat d.digits).drop 1 := by
    split
    · rename_i empty
      exact empty.symm
    · rfl
  have some : 0 < (renderNat d.digits).length := List.length_pos_iff.2 (renderNat_ne_nil d.digits)
  have exponent : d.power - ((renderNat d.digits).drop 1).length = d.exponent := by
    rw [power, List.length_drop]
    omega
  simp only [Numeral.toDecimal, value, fraction, List.take_append_drop, digitsValue_renderNat,
    exponentValue_written, Option.getD_some, exponent]

end Decimal

/-! ## Numbers in a deck -/

/-- The zeros have the digit zero. -/
theorem shortest_zeroFloat (sign : UnpackedFloat.Sign) :
    Decimal.shortest (zeroFloat sign) = ⟨0, 0⟩ := by
  have digits : (Binary.mk 0 (-1074) false).exactDigits = 0 := by
    rw [Binary.exactDigits, Nat.zero_mul]
  unfold Decimal.shortest
  simp only [ofFloat_zeroFloat, digits]
  change Decimal.strip ⟨(Binary.mk 0 (-1074) false).exactDigits, _⟩ = _
  rw [digits, Decimal.strip]
  rfl

/-- The zeros are written with one digit on each side of the point. -/
theorem renderDeckReal_zeroFloat (sign : UnpackedFloat.Sign) :
    renderDeckReal (zeroFloat sign) = renderReal Decimal.pointed (zeroFloat sign) := by
  have integral : isIntegral (zeroFloat sign) = true := by
    cases sign <;> decide +kernel
  have small : (zeroFloat sign).abs < 1e15 := by
    cases sign <;> decide +kernel
  simp only [renderDeckReal, integral, small]
  rfl

/-- The text is a numeral that is not a whole number, perhaps behind a minus sign, and reads as
this finite number. -/
inductive WritesReal : Text → Float → Prop
  | unsigned {t whole : Text} {fraction : Option Text} {exponent : Option (Bool × Text)}
      (isWritten : IsWritten t whole fraction exponent)
      (notWhole : Numeral.isWhole ⟨whole, fraction, exponent.map exponentValue⟩ = false) {x : Float}
      (reads : (toDecimal ⟨whole, fraction, exponent.map exponentValue⟩).toFloat = x)
      (finite : x.isFinite = true) : WritesReal t x
  | negative {t whole : Text} {fraction : Option Text} {exponent : Option (Bool × Text)}
      (isWritten : IsWritten t whole fraction exponent)
      (notWhole : Numeral.isWhole ⟨whole, fraction, exponent.map exponentValue⟩ = false) {x : Float}
      (reads : (toDecimal ⟨whole, fraction, exponent.map exponentValue⟩).toFloat = x)
      (finite : x.isFinite = true) : WritesReal ('-' :: t) (-x)

/-- In every notation that names the decimal, a number other than zero is written so that it reads
back. -/
theorem writesReal_renderReal {mantissa : ℕ} {binaryExponent : ℤ}
    (canonical : Canonical mantissa binaryExponent) (sign : UnpackedFloat.Sign)
    {layout : Decimal → Text} {whole : Text} {fraction : Option Text}
    {exponent : Option (Bool × Text)}
    (isWritten :
      IsWritten (layout (Decimal.shortest (canonical.toFloat sign))) whole fraction exponent)
    (notWhole : Numeral.isWhole ⟨whole, fraction, exponent.map exponentValue⟩ = false)
    (value : (toDecimal ⟨whole, fraction, exponent.map exponentValue⟩).value =
      (Decimal.shortest (canonical.toFloat sign)).value) :
    WritesReal (renderReal layout (canonical.toFloat sign)) (canonical.toFloat sign) := by
  obtain ⟨notNaN, notInf⟩ := status_of_isFinite (canonical.isFinite_toFloat sign)
  have rounds := Decimal.roundsTo_shortest canonical sign
  rw [← value] at rounds
  have reads := Decimal.toFloat_eq canonical rounds
  simp only [renderReal, notNaN, notInf, canonical.isNegative_toFloat, Bool.false_eq_true,
    ite_false]
  cases sign with
  | positive => exact .unsigned isWritten notWhole reads (canonical.isFinite_toFloat .positive)
  | negative =>
    have opposite := canonical.neg_toFloat .positive
    change -_ = canonical.toFloat .negative at opposite
    have writes :=
      WritesReal.negative isWritten notWhole reads (canonical.isFinite_toFloat .positive)
    rw [opposite] at writes
    exact writes

/-- How a deck writes a finite number reads as the number, and as a real one. -/
theorem writesReal_renderDeckReal {x : Float} (finite : x.isFinite = true) :
    WritesReal (renderDeckReal x) x := by
  rcases cases_of_isFinite finite with ⟨sign, rfl⟩ |
    ⟨sign, mantissa, exponent, canonical, rfl⟩
  · have isWritten : IsWritten ['0', '.', '0'] ['0'] (some ['0']) none :=
      ⟨rfl, List.cons_ne_nil _ _, by simp [Digits, Text.isDigit], by simp [Digits, Text.isDigit],
        by simp⟩
    have reads : (toDecimal ⟨['0'], some ['0'], none⟩).toFloat = zeroFloat .positive := by
      decide +kernel
    obtain ⟨notNaN, notInf⟩ := status_of_isFinite finite
    rw [renderDeckReal_zeroFloat]
    simp only [renderReal, notNaN, notInf, shortest_zeroFloat, Bool.false_eq_true, ite_false]
    cases sign with
    | positive => exact .unsigned isWritten rfl reads finite
    | negative => exact .negative isWritten rfl reads rfl
  · unfold renderDeckReal
    split
    · rename_i notIntegral
      have fraction : (Decimal.shortest (canonical.toFloat sign)).split.2 ≠ [] := by
        intro empty
        have integral := Decimal.isIntegral_of_roundsTo (Decimal.roundsTo_shortest canonical sign)
          (Decimal.exponent_of_split_nil empty)
        rw [← canonical.ofFloat_toFloat sign] at integral
        simp [isIntegral, canonical.isFinite_toFloat, integral] at notIntegral
      exact writesReal_renderReal canonical sign (Decimal.isWritten_plain _)
        (by simp [Numeral.isWhole, fraction]) (Decimal.value_plain _)
    · split
      · exact writesReal_renderReal canonical sign (Decimal.isWritten_pointed _) rfl
          (Decimal.value_pointed _)
      · exact writesReal_renderReal canonical sign (Decimal.isWritten_scientific _)
          (Bool.and_false _) (Decimal.value_scientific _)

end InputDeck
