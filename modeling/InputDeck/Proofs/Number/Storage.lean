import Mathlib
import InputDeck.Proofs.Number.Rounding
import InputDeck.Number.Notation

/-!
# Stored binary numbers

A number of the format is stored in three fields, its sign, its exponent and its mantissa without
the first bit of 53, and nothing else but the zeros, the infinities and NaN is stored in them. So
the fields of a finite number tell the number, and the decimals of an interval around it are read
as it.

The lemmas about packed fields are those of Batteries, which no smaller import than the whole of
Mathlib brings in.
-/

namespace InputDeck.Rounding

open Float.Model Float.Model.UnpackedFloat

section

variable {q : ℚ} {mantissa : ℕ} {exponent : ℤ}

/-! ## Fields -/

/-- A stored number whose exponent is neither the least nor the greatest has one bit more than
is stored. -/
theorem unpack_normal (sign : Sign) {biased stored : ℕ} (some : 0 < biased) (notAll : biased < 2047)
    (fits : stored < 2 ^ 52) :
    UnpackedFloat.unpack Format.binary64
        (packComponents Format.binary64 sign (BitVec.ofNat 11 biased) (BitVec.ofNat 52 stored)) =
      .finite sign (2 ^ 52 + stored) (biased - 1075) (by positivity) := by
  have exponentValue : (BitVec.ofNat 11 biased).toNat = biased :=
    Nat.mod_eq_of_lt (notAll.trans (by decide))
  have notOnes : BitVec.ofNat 11 biased ≠ -1#11 := by
    intro same
    have := congrArg BitVec.toNat same
    rw [exponentValue] at this
    exact absurd this (Nat.ne_of_lt notAll)
  have notZeros : BitVec.ofNat 11 biased ≠ 0#11 := by
    intro same
    have := congrArg BitVec.toNat same
    rw [exponentValue] at this
    exact absurd this some.ne'
  have mantissaValue : (1#1 ++ BitVec.ofNat 52 stored).toNat = 2 ^ 52 + stored := by
    rw [BitVec.toNat_append, BitVec.toNat_ofNat, BitVec.toNat_ofNat, Nat.mod_eq_of_lt fits,
      ← Nat.shiftLeft_add_eq_or_of_lt fits]
    rfl
  unfold UnpackedFloat.unpack
  simp only [unpackExponent_packComponents, unpackMantissa_packComponents,
    unpackSign_packComponents, Sign.ofBitVec_toBitVec, notOnes, notZeros, ite_false,
    exponentValue, mantissaValue, finite.injEq, true_and]
  rfl

/-- A stored number with the least exponent has no bits but those stored. -/
theorem unpack_subnormal (sign : Sign) {stored : ℕ} (some : 0 < stored) (fits : stored < 2 ^ 52) :
    UnpackedFloat.unpack Format.binary64
        (packComponents Format.binary64 sign 0#11 (BitVec.ofNat 52 stored)) =
      .finite sign stored (-1074) some := by
  have mantissaValue : (BitVec.ofNat 52 stored).toNat = stored := Nat.mod_eq_of_lt fits
  have notZeros : BitVec.ofNat 52 stored ≠ 0#52 := by
    intro same
    have := congrArg BitVec.toNat same
    rw [mantissaValue] at this
    exact absurd this some.ne'
  unfold UnpackedFloat.unpack
  simp only [unpackExponent_packComponents, unpackMantissa_packComponents,
    unpackSign_packComponents, Sign.ofBitVec_toBitVec, notZeros, mantissaValue]
  rfl

/-- Numbers of 53 bits are stored without the first one. -/
theorem pack_normal (sign : Sign) {biased stored : ℕ} (some : 0 < biased) (notAll : biased < 2047)
    (fits : stored < 2 ^ 52) (positive : 0 < 2 ^ 52 + stored) :
    UnpackedFloat.pack Format.binary64 (.finite sign (2 ^ 52 + stored) (biased - 1075) positive) =
      packComponents Format.binary64 sign (BitVec.ofNat 11 biased) (BitVec.ofNat 52 stored) := by
  have exponentValue : ((biased : ℤ) - 1075 + Format.exponentBias Format.binary64 + 52).toNat =
      biased := by
    change ((biased : ℤ) - 1075 + 1023 + 52).toNat = biased
    omega
  have bits : (2 ^ 52 + stored).log2 + 1 = Format.mantissaBits Format.binary64 := by
    have log : (2 ^ 52 + stored).log2 = 52 := (Nat.log2_eq_iff (by omega)).2 ⟨by omega, by omega⟩
    rw [log]
    rfl
  have hidden : BitVec.ofNat 52 (2 ^ 52 + stored) = BitVec.ofNat 52 stored := by
    apply BitVec.eq_of_toNat_eq
    simp only [BitVec.toNat_ofNat]
    omega
  have inRange : ¬2 ^ 11 ≤ biased + 1 := by omega
  simp only [UnpackedFloat.pack, bits, hidden, Nat.cast_ofNat, exponentValue, inRange, ite_false,
    ite_true]

/-- Numbers of fewer bits are stored as they are. -/
theorem pack_subnormal (sign : Sign) {stored : ℕ} (some : 0 < stored) (fits : stored < 2 ^ 52) :
    UnpackedFloat.pack Format.binary64 (.finite sign stored (-1074) some) =
      packComponents Format.binary64 sign 0#11 (BitVec.ofNat 52 stored) := by
  have exponentValue : ((-1074 : ℤ) + Format.exponentBias Format.binary64 + 52).toNat = 1 := rfl
  have bits : ¬stored.log2 + 1 = Format.mantissaBits Format.binary64 := by
    have log : stored.log2 < 52 := (Nat.log2_lt some.ne').2 fits
    change ¬stored.log2 + 1 = 53
    omega
  have inRange : ¬2 ^ 11 ≤ 1 + 1 := by decide
  simp only [UnpackedFloat.pack, bits, Nat.cast_ofNat, exponentValue, inRange, ite_false]

/-- A number of the format has 53 bits and one of the exponents between the least and the
greatest one that can be stored, or fewer bits and the least exponent. -/
theorem Canonical.stored (canonical : Canonical mantissa exponent) :
    (∃ biased stored : ℕ, 0 < biased ∧ biased < 2047 ∧ stored < 2 ^ 52 ∧
        mantissa = 2 ^ 52 + stored ∧ exponent = biased - 1075) ∨
      (mantissa < 2 ^ 52 ∧ exponent = -1074) := by
  obtain ⟨positive, fits, least, greatest, full⟩ := canonical
  by_cases normal : 2 ^ 52 ≤ mantissa
  · left
    exact ⟨(exponent + 1075).toNat, mantissa - 2 ^ 52, by omega, by omega, by omega, by omega,
      by omega⟩
  · right
    refine ⟨not_le.1 normal, ?_⟩
    by_contra other
    exact normal (full (by omega))

/-- A number of the format is stored without loss. -/
theorem Canonical.unpack_pack (canonical : Canonical mantissa exponent) (sign : Sign) :
    UnpackedFloat.unpack Format.binary64
        (UnpackedFloat.pack Format.binary64 (.finite sign mantissa exponent canonical.positive)) =
      .finite sign mantissa exponent canonical.positive := by
  rcases canonical.stored with ⟨biased, stored, some, notAll, fits, rfl, rfl⟩ | ⟨fits, rfl⟩
  · rw [pack_normal sign some notAll fits, unpack_normal sign some notAll fits]
  · rw [pack_subnormal sign canonical.positive fits,
      unpack_subnormal sign canonical.positive fits]

/-- What is stored, unless it is zero, an infinity or NaN, is a number of the format. -/
theorem canonical_of_unpack {bits : BitVec 64} {sign : Sign} {positive : 0 < mantissa}
    (unpacked : UnpackedFloat.unpack Format.binary64 bits =
      .finite sign mantissa exponent positive) : Canonical mantissa exponent := by
  revert unpacked
  fun_cases UnpackedFloat.unpack Format.binary64 bits with
  | case1 => exact UnpackedFloat.noConfusion
  | case2 => exact UnpackedFloat.noConfusion
  | case3 => exact UnpackedFloat.noConfusion
  | case4 stored biased unbiased signBit sign notOnes zeros some =>
    rw [finite.injEq]
    rintro ⟨-, rfl, rfl⟩
    have storedFits : stored.toNat < 2 ^ 52 := stored.isLt
    have least : unbiased + 1 = -1074 := by
      simp only [unbiased, zeros]
      rfl
    rw [least]
    exact ⟨positive, storedFits.trans (by norm_num), le_rfl, by norm_num,
      fun less => absurd less (lt_irrefl _)⟩
  | case5 stored biased unbiased signBit sign notOnes notZeros =>
    rw [finite.injEq]
    rintro ⟨-, rfl, rfl⟩
    have storedFits : stored.toNat < 2 ^ 52 := stored.isLt
    have biasedFits : biased.toNat < 2047 := by
      have most : biased.toNat < 2048 := biased.isLt
      have other : biased.toNat ≠ 2047 := fun same => notOnes (BitVec.eq_of_toNat_eq same)
      omega
    have some : 0 < biased.toNat := by
      have other : biased.toNat ≠ 0 := fun same => notZeros (BitVec.eq_of_toNat_eq same)
      omega
    have exponentValue : unbiased = biased.toNat - 1075 := by
      change (biased.toNat : ℤ) - (1023 + 52) = _
      ring
    have mantissaValue : (1#1 ++ stored).toNat = 2 ^ 52 + stored.toNat := by
      rw [BitVec.toNat_append, ← Nat.shiftLeft_add_eq_or_of_lt stored.isLt]
      rfl
    rw [exponentValue]
    refine ⟨positive, ?_, by omega, by omega, ?_⟩
    · rw [mantissaValue]
      omega
    · intro normal
      rw [mantissaValue]
      omega

/-- The exponent field. -/
theorem toNat_exponentField (bits : UInt64) :
    ((bits >>> 52) &&& 0x7FF).toNat =
      (@unpackExponent Format.binary64 bits.toBitVec).toNat := by
  rw [unpackExponent_def, BitVec.extractLsb'_toNat, UInt64.toNat_and, UInt64.toNat_shiftRight]
  exact Nat.and_two_pow_sub_one_eq_mod _ 11

/-- The mantissa field. -/
theorem toNat_mantissaField (bits : UInt64) :
    (bits &&& 0xFFFFFFFFFFFFF).toNat =
      (@unpackMantissa Format.binary64 bits.toBitVec).toNat := by
  rw [unpackMantissa_def, BitVec.extractLsb'_toNat, UInt64.toNat_and]
  exact Nat.and_two_pow_sub_one_eq_mod _ 52

/-- The sign field. -/
theorem signField (bits : UInt64) :
    (bits >>> 63 == 1) = (@unpackSign Format.binary64 bits.toBitVec == 1#1) := by
  have value : (bits >>> 63).toNat =
      (@unpackSign Format.binary64 bits.toBitVec).toNat := by
    rw [unpackSign_def, BitVec.extractLsb'_toNat, UInt64.toNat_shiftRight]
    have fits : bits.toNat >>> 63 < 2 ^ 1 := by
      rw [Nat.shiftRight_eq_div_pow]
      have := bits.toNat_lt
      omega
    exact (Nat.mod_eq_of_lt fits).symm
  apply Bool.eq_iff_iff.2
  rw [beq_iff_eq, beq_iff_eq, ← UInt64.toNat_inj, ← BitVec.toNat_inj, value]
  rfl

/-! ## Finite numbers -/

/-- The number with these fields. -/
def Canonical.toFloat (canonical : Canonical mantissa exponent) (sign : Sign) : Float :=
  .ofModel (.pack (.finite sign mantissa exponent canonical.positive))

/-- The zeros. -/
def zeroFloat (sign : Sign) : Float := .ofModel (.pack (.zero sign))

/-- What a number holds. -/
theorem Canonical.unpack_toFloat (canonical : Canonical mantissa exponent) (sign : Sign) :
    (canonical.toFloat sign).toModel.unpack =
      .finite sign mantissa exponent canonical.positive :=
  canonical.unpack_pack sign

/-- A number of the format is finite. -/
theorem Canonical.isFinite_toFloat (canonical : Canonical mantissa exponent) (sign : Sign) :
    (canonical.toFloat sign).isFinite = true := by
  unfold Float.isFinite Float.Model.isFinite
  rw [canonical.unpack_toFloat]
  rfl

/-- A number is told by what it holds. -/
theorem eq_ofModel_pack (x : Float) : x = .ofModel (.pack x.toModel.unpack) := by
  rw [← Float.toBits_inj]
  apply UInt64.toBitVec_inj.1
  exact (pack_unpack_of_valid x.toModel.valid).symm

/-- A finite number is a zero or a number of the format with a sign. -/
theorem cases_of_isFinite {x : Float} (finite : x.isFinite = true) :
    (∃ sign, x = zeroFloat sign) ∨
      ∃ sign mantissa exponent, ∃ canonical : Canonical mantissa exponent,
        x = canonical.toFloat sign := by
  have stored := eq_ofModel_pack x
  cases unpacked : x.toModel.unpack with
  | infinity sign =>
    unfold Float.isFinite Float.Model.isFinite at finite
    rw [unpacked] at finite
    cases finite
  | notANumber =>
    unfold Float.isFinite Float.Model.isFinite at finite
    rw [unpacked] at finite
    cases finite
  | zero sign =>
    rw [unpacked] at stored
    exact .inl ⟨sign, stored⟩
  | finite sign mantissa exponent positive =>
    rw [unpacked] at stored
    exact .inr ⟨sign, mantissa, exponent, canonical_of_unpack unpacked, stored⟩

/-- The opposite has the other sign. -/
theorem Canonical.neg_toFloat (canonical : Canonical mantissa exponent) (sign : Sign) :
    -canonical.toFloat sign = canonical.toFloat (-sign) := by
  change Float.ofModel (.pack (canonical.toFloat sign).toModel.unpack.neg) = _
  rw [canonical.unpack_toFloat]
  rfl

/-- The sign bit is set for the negative sign. -/
theorem Canonical.isNegative_toFloat (canonical : Canonical mantissa exponent) (sign : Sign) :
    isNegative (canonical.toFloat sign) = (sign == .negative) := by
  have bits : @unpackSign Format.binary64 (canonical.toFloat sign).toBits.toBitVec =
      sign.toBitVec := by
    change @unpackSign Format.binary64 (UnpackedFloat.pack Format.binary64 _) = _
    rcases canonical.stored with ⟨biased, stored, some, notAll, fits, rfl, rfl⟩ | ⟨fits, rfl⟩
    · rw [pack_normal sign some notAll fits, unpackSign_packComponents]
    · rw [pack_subnormal sign canonical.positive fits, unpackSign_packComponents]
  unfold isNegative
  rw [signField, bits]
  cases sign <;> rfl

/-- A mantissa and an exponent, with the neighbour below a power of two at half the distance. -/
def magnitude (mantissa : ℕ) (exponent : ℤ) : Binary :=
  ⟨mantissa, exponent, decide (mantissa = 2 ^ 52 ∧ -1074 < exponent)⟩

/-- The mantissa and the exponent are found again. -/
theorem Canonical.ofFloat_toFloat (canonical : Canonical mantissa exponent) (sign : Sign) :
    Binary.ofFloat (canonical.toFloat sign) = magnitude mantissa exponent := by
  have bits : (canonical.toFloat sign).toBits.toBitVec =
      UnpackedFloat.pack Format.binary64 (.finite sign mantissa exponent canonical.positive) := rfl
  unfold Binary.ofFloat magnitude
  simp only [toNat_exponentField, toNat_mantissaField, bits]
  rcases canonical.stored with ⟨biased, stored, some, notAll, fits, rfl, rfl⟩ | ⟨fits, rfl⟩
  · have exponentValue : (BitVec.ofNat 11 biased).toNat = biased :=
      Nat.mod_eq_of_lt (notAll.trans (by decide))
    have mantissaValue : (BitVec.ofNat 52 stored).toNat = stored := Nat.mod_eq_of_lt fits
    rw [pack_normal sign some notAll fits, unpackExponent_packComponents,
      unpackMantissa_packComponents]
    simp only [exponentValue, mantissaValue, some.ne', ite_false, Binary.mk.injEq, true_and,
      decide_eq_decide]
    omega
  · have mantissaValue : (BitVec.ofNat 52 mantissa).toNat = mantissa := Nat.mod_eq_of_lt fits
    rw [pack_subnormal sign canonical.positive fits, unpackExponent_packComponents,
      unpackMantissa_packComponents]
    simp [mantissaValue]

/-- The zeros have the mantissa zero. -/
theorem ofFloat_zeroFloat (sign : Sign) : Binary.ofFloat (zeroFloat sign) = ⟨0, -1074, false⟩ := by
  cases sign <;> rfl

/-- The sign bit of the negative zero is set. -/
theorem isNegative_zeroFloat (sign : Sign) :
    isNegative (zeroFloat sign) = (sign == .negative) := by
  cases sign <;> rfl

/-! ## Reading decimals -/

/-- A whole number whose bits, trailing zeros aside, fit a mantissa is a number of the format. -/
theorem exists_canonical_of_bits {bits : ℕ} (positive : 0 < bits) (fits : bits < 2 ^ 53)
    {zeros : ℕ} (few : zeros ≤ 22) :
    ∃ mantissa exponent, Canonical mantissa exponent ∧ 2 ^ 52 ≤ mantissa ∧
      (mantissa : ℚ) * 2 ^ exponent = bits * 2 ^ zeros := by
  have log : bits.log2 ≤ 52 := Nat.lt_succ_iff.1 ((Nat.log2_lt positive.ne').2 fits)
  have length : (bits <<< (52 - bits.log2)).log2 = 52 := by
    rw [log2_shiftLeft positive]
    omega
  have shifted : 0 < bits <<< (52 - bits.log2) := by
    rw [Nat.shiftLeft_eq]
    exact Nat.mul_pos positive (Nat.two_pow_pos _)
  obtain ⟨full, most⟩ := (Nat.log2_eq_iff shifted.ne').1 length
  refine ⟨bits <<< (52 - bits.log2), zeros - (52 - bits.log2 : ℕ),
    ⟨shifted, most, by omega, by omega, fun _ => full⟩, full, ?_⟩
  rw [Nat.shiftLeft_eq, zpow_sub₀ two_ne_zero, zpow_natCast, zpow_natCast]
  push_cast
  field_simp

/-- Such a whole number is converted without loss. -/
theorem ofNat_eq (canonical : Canonical mantissa exponent) {n : ℕ} (positive : 0 < n)
    (value : (mantissa : ℚ) * 2 ^ exponent = n) :
    Float.ofModel (.ofNat n) = canonical.toFloat .positive := by
  have rounds : RoundsTo (n * 2 ^ (0 : ℤ)) mantissa exponent := by
    rw [zpow_zero, mul_one, ← value]
    exact roundsTo_self mantissa exponent
  have greater : compare (n : ℤ) 0 = .gt := Int.compare_eq_gt.2 (by omega)
  unfold Float.Model.ofNat UnpackedFloat.ofNat UnpackedFloat.ofInt UnpackedFloat.normalize
  rw [greater]
  simp only [Int.toNat_natCast, round_eq canonical .positive positive rounds]
  rfl

/-- The powers of ten in the table are exact. -/
theorem exactPowers : ∀ n : Fin Float.exactlyRepresentablePowersOfTen.size,
    Float.exactlyRepresentablePowersOfTen[n.val] = Float.ofModel (.ofNat (10 ^ n.val)) := by
  decide +kernel

/-- A power of ten in the table is a number of the format. -/
theorem exists_power {n : ℕ} (small : n < Float.exactlyRepresentablePowersOfTen.size) :
    ∃ mantissa exponent, ∃ canonical : Canonical mantissa exponent,
      (mantissa : ℚ) * 2 ^ exponent = 10 ^ n ∧
      Float.exactlyRepresentablePowersOfTen[n] = canonical.toFloat .positive := by
  have few : n ≤ 22 := Nat.lt_succ_iff.1 small
  have fits : 5 ^ n < 2 ^ 53 := (Nat.pow_le_pow_right (by norm_num) few).trans_lt (by norm_num)
  obtain ⟨mantissa, exponent, canonical, -, value⟩ :=
    exists_canonical_of_bits (Nat.pow_pos (by norm_num)) fits few
  have power : (mantissa : ℚ) * 2 ^ exponent = ((10 ^ n : ℕ) : ℚ) := by
    rw [value]
    push_cast
    rw [← mul_pow]
    norm_num
  refine ⟨mantissa, exponent, canonical, ?_, ?_⟩
  · rw [power]
    push_cast
    rfl
  · exact (exactPowers ⟨n, small⟩).trans (ofNat_eq canonical (Nat.pow_pos (by norm_num)) power)

/-- A whole number of 53 bits is a number of the format. -/
theorem exists_digits {n : ℕ} (positive : 0 < n) (fits : n < 2 ^ 53) :
    ∃ mantissa exponent, ∃ canonical : Canonical mantissa exponent, 2 ^ 52 ≤ mantissa ∧
      (mantissa : ℚ) * 2 ^ exponent = n ∧ n.toUInt64.toFloat = canonical.toFloat .positive := by
  obtain ⟨mantissa, exponent, canonical, full, value⟩ :=
    exists_canonical_of_bits positive fits (Nat.zero_le 22)
  rw [pow_zero, mul_one] at value
  refine ⟨mantissa, exponent, canonical, full, value, ?_⟩
  have word : n.toUInt64.toNat = n := Nat.mod_eq_of_lt (fits.trans (by norm_num))
  change Float.ofModel (.ofNat n.toUInt64.toNat) = _
  rw [word]
  exact ofNat_eq canonical positive value

/-- A product with a factor of 53 bits has enough bits. -/
theorem mul_enough {m n : ℕ} {e f : ℤ} (full : 2 ^ 52 ≤ m) (positive : 0 < n) :
    e + f ≤ Format.binary64.targetExponent (totalExponent (m * n) (e + f)) := by
  have product : 2 ^ 52 ≤ m * n := full.trans (Nat.le_mul_of_pos_right m positive)
  have bits : 52 ≤ (m * n).log2 := (Nat.le_log2 (by omega)).2 product
  rw [Rounding.targetExponent_eq]
  omega

/-- A product of two numbers of the format. -/
theorem Canonical.mul_toFloat (canonical : Canonical mantissa exponent) {m n : ℕ} {e f : ℤ}
    (left : Canonical m e) (right : Canonical n f) (full : 2 ^ 52 ≤ m)
    (rounds : RoundsTo ((m * 2 ^ e) * (n * 2 ^ f)) mantissa exponent) :
    left.toFloat .positive * right.toFloat .positive = canonical.toFloat .positive := by
  change Float.ofModel (.pack (UnpackedFloat.mul Format.binary64
    (left.toFloat .positive).toModel.unpack (right.toFloat .positive).toModel.unpack)) = _
  rw [left.unpack_toFloat, right.unpack_toFloat, mul_eq canonical left.positive right.positive
    rounds (mul_enough full right.positive)]
  rfl

/-- A quotient of two numbers of the format. -/
theorem Canonical.div_toFloat (canonical : Canonical mantissa exponent) {m n : ℕ} {e f : ℤ}
    (left : Canonical m e) (right : Canonical n f)
    (rounds : RoundsTo ((m * 2 ^ e) / (n * 2 ^ f)) mantissa exponent) :
    left.toFloat .positive / right.toFloat .positive = canonical.toFloat .positive := by
  change Float.ofModel (.pack (UnpackedFloat.div Format.binary64
    (left.toFloat .positive).toModel.unpack (right.toFloat .positive).toModel.unpack)) = _
  rw [left.unpack_toFloat, right.unpack_toFloat,
    div_eq canonical left.positive right.positive rounds]
  rfl

/-- The places of a decimal and their direction as one exponent. -/
theorem signedPlaces (small : Bool) (places : ℕ) :
    (if small then Int.negOfNat places else Int.ofNat places) =
      if small then -(places : ℤ) else places := by
  cases small
  · rfl
  · exact Int.negOfNat_eq

/-- A decimal is read as the number whose interval it lies in, whether it is calculated from
exact numbers or from its digits. -/
theorem Canonical.toFloat_of_scientific (canonical : Canonical mantissa exponent) {digits : ℕ}
    {small : Bool} {places : ℕ}
    (rounds :
      RoundsTo (digits * 10 ^ (if small then -(places : ℤ) else places)) mantissa exponent) :
    Float.ofScientific digits small places = canonical.toFloat .positive := by
  have positive : 0 < digits := by
    apply Nat.pos_of_ne_zero
    rintro rfl
    have least := (rounds.range canonical).1
    rw [Nat.cast_zero, zero_mul] at least
    exact absurd least (not_le.2 (zpow_pos two_pos _))
  unfold Float.ofScientific
  split
  case isTrue exact =>
    obtain ⟨fits, few⟩ := exact
    obtain ⟨m, e, left, full, leftValue, digitsFloat⟩ := exists_digits positive fits
    have inTable : places < Float.exactlyRepresentablePowersOfTen.size := Nat.lt_succ_iff.2 few
    obtain ⟨n, f, right, rightValue, powerFloat⟩ := exists_power inTable
    simp only [digitsFloat, powerFloat]
    cases small with
    | true =>
      refine canonical.div_toFloat left right ?_
      rw [leftValue, rightValue]
      simpa [div_eq_mul_inv] using rounds
    | false =>
      refine canonical.mul_toFloat left right full ?_
      rw [leftValue, rightValue]
      simpa using rounds
  case isFalse =>
    simp only [signedPlaces]
    unfold Float.Model.ofScientific
    rw [ofScientific_eq canonical rounds]
    rfl

end

end InputDeck.Rounding

namespace InputDeck

open Float.Model Rounding

/-- The quantity that a decimal stands for. -/
def Decimal.value (d : Decimal) : ℚ := d.digits * 10 ^ d.exponent

/-- An exponent is its size in its direction. -/
theorem Decimal.exponent_eq (d : Decimal) :
    (if decide (d.exponent < 0) then -(d.exponent.natAbs : ℤ) else d.exponent.natAbs) =
      d.exponent := by
  simp only [decide_eq_true_eq]
  split <;> omega

/-- A decimal is read as the number whose interval it lies in. -/
theorem Decimal.toFloat_eq {mantissa : ℕ} {exponent : ℤ} (canonical : Canonical mantissa exponent)
    {d : Decimal} (rounds : RoundsTo d.value mantissa exponent) :
    d.toFloat = canonical.toFloat .positive := by
  apply canonical.toFloat_of_scientific
  rw [d.exponent_eq]
  exact rounds

end InputDeck
