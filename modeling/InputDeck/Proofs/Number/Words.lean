import Mathlib.Algebra.Order.Ring.Abs
import Mathlib.Algebra.Order.Ring.Int
import Mathlib.Tactic.Linarith
import InputDeck.Number.Word

/-!
# Words and their powers

The integers in the range of words are the values of words. A power is calculated by squaring, and
every square and product on the way has to be a word. That loses nothing: each of them divides the
power or is no larger, and the one magnitude that is a word only below zero is no square. So the
power of a word is found exactly if it is a word.
-/

namespace InputDeck

/-- The integer is in the range of words. -/
def IsWord (n : Int) : Prop := -2 ^ 63 ≤ n ∧ n < 2 ^ 63

/-- The value of a word is in the range of words. -/
theorem isWord_toInt (w : Int64) : IsWord w.toInt := ⟨w.le_toInt, w.toInt_lt⟩

/-- The integers in the range of words are the values of words. -/
theorem isWord_iff (n : Int) : IsWord n ↔ ∃ w : Int64, w.toInt = n := by
  constructor
  · rintro ⟨least, greatest⟩
    exact ⟨Int64.ofInt n, Int64.toInt_ofInt_of_le least greatest⟩
  · rintro ⟨w, rfl⟩
    exact isWord_toInt w

/-- An integer out of the range of words is no word. -/
theorem wordOfInt?_eq_none_iff (n : Int) : wordOfInt? n = none ↔ ¬IsWord n := by
  rw [Option.eq_none_iff_forall_ne_some, isWord_iff, not_exists]
  exact forall_congr' fun w => not_congr (wordOfInt?_eq_some_iff n w)

instance (n : Int) : Decidable (IsWord n) := inferInstanceAs (Decidable (_ ∧ _))

/-! ## Factors of a word -/

/-- A factor of a word is a word if the other factor is positive. -/
theorem IsWord.of_mul {factor other : Int} (positive : 0 < other)
    (word : IsWord (factor * other)) : IsWord factor := by
  obtain ⟨least, greatest⟩ := word
  constructor
  · by_contra below
    nlinarith
  · by_contra above
    nlinarith

/-- A square that is no larger than a factor of a word is a word. -/
theorem IsWord.square {base factor other : Int} (nonzero : factor ≠ 0)
    (bounded : base * base ≤ other) (word : IsWord (factor * other)) : IsWord (base * base) := by
  have square : 0 ≤ base * base := mul_self_nonneg base
  have small : base * base ≤ 2 ^ 63 := by
    obtain ⟨least, greatest⟩ := word
    rcases lt_or_gt_of_ne nonzero with negative | positive
    · nlinarith
    · nlinarith
  -- 2 ^ 63 lies between the squares of two integers that follow each other.
  have notSquare : base * base ≠ 2 ^ 63 := by
    intro same
    have above : -3037000500 < base := by nlinarith
    have below : base < 3037000500 := by nlinarith
    nlinarith
  exact ⟨by linarith, lt_of_le_of_ne small notSquare⟩

/-- A high power is a word only of zero, of one and of the opposite of one. -/
theorem IsWord.abs_le_one {base : Int} {exponent : Nat} (high : 64 ≤ exponent)
    (word : IsWord (base ^ exponent)) : |base| ≤ 1 := by
  by_contra large
  have two : 2 ≤ |base| := by omega
  have power : (2 : Int) ^ 64 ≤ |base ^ exponent| :=
    calc (2 : Int) ^ 64 ≤ |base| ^ 64 := pow_le_pow_left₀ (by omega) two 64
      _ ≤ |base| ^ exponent := pow_le_pow_right₀ (by omega) high
      _ = |base ^ exponent| := (abs_pow base exponent).symm
  have bounded : |base ^ exponent| ≤ 2 ^ 63 := abs_le.2 ⟨word.1, word.2.le⟩
  omega

/-! ## Powers -/

/-- The factor that an exponent leaves over when it is halved. -/
def oddFactor (base : Int) (exponent : Nat) : Int := if exponent % 2 = 1 then base else 1

/-- What is left over of a base that is not zero is not zero. -/
theorem oddFactor_ne_zero {base : Int} (nonzero : base ≠ 0) (exponent : Nat) :
    oddFactor base exponent ≠ 0 := by
  unfold oddFactor
  split
  · exact nonzero
  · exact one_ne_zero

/-- A power is the power of the square, for half the exponent, and what is left over. -/
theorem pow_eq_oddFactor_mul (base : Int) (exponent : Nat) :
    base ^ exponent = oddFactor base exponent * (base * base) ^ (exponent / 2) := by
  rw [← pow_two, ← pow_mul, oddFactor]
  split
  · rename_i odd
    rw [← pow_succ']
    congr 1
    omega
  · rw [one_mul]
    congr 1
    omega

/-- The first power is a product. -/
theorem wordPower?_one_eq_some_iff (accumulated base result : Int64) :
    wordPower? accumulated base 1 = some result ↔
      result.toInt = accumulated.toInt * base.toInt := by
  rw [wordPower?]
  simp [wordOfInt?_eq_some_iff]

/-- A higher power multiplies what is left over to the result so far and goes on with the square. -/
theorem wordPower?_eq_some_iff_of_two_le (accumulated base result : Int64) {exponent : Nat}
    (more : 2 ≤ exponent) :
    wordPower? accumulated base exponent = some result ↔
      ∃ next square : Int64,
        next.toInt = accumulated.toInt * oddFactor base.toInt exponent ∧
        square.toInt = base.toInt * base.toInt ∧
        wordPower? next square (exponent / 2) = some result := by
  rw [wordPower?, if_neg (by omega)]
  have several : exponent ≠ 1 := by omega
  by_cases odd : exponent % 2 = 1
  · simp [odd, several, oddFactor, Option.bind_eq_some_iff, wordOfInt?_eq_some_iff]
  · simp [odd, several, oddFactor, Option.bind_eq_some_iff, wordOfInt?_eq_some_iff,
      Int64.toInt_inj]

/-- If a power is a word, so are the result so far and the square that one step goes on with. -/
theorem isWord_of_step {accumulated base : Int64} {exponent : Nat} (more : 2 ≤ exponent)
    (nonzero : base.toInt ≠ 0 → accumulated.toInt ≠ 0)
    (word : IsWord
      (accumulated.toInt * oddFactor base.toInt exponent *
        (base.toInt * base.toInt) ^ (exponent / 2))) :
    IsWord (accumulated.toInt * oddFactor base.toInt exponent) ∧
      IsWord (base.toInt * base.toInt) := by
  by_cases zero : base.toInt = 0
  · rw [zero, oddFactor]
    refine ⟨?_, by decide⟩
    split
    · rw [mul_zero]
      decide
    · rw [mul_one]
      exact isWord_toInt accumulated
  · have square : 0 < base.toInt * base.toInt := mul_self_pos.2 zero
    have nextNonzero := mul_ne_zero (nonzero zero) (oddFactor_ne_zero zero exponent)
    have bounded : base.toInt * base.toInt ≤ (base.toInt * base.toInt) ^ (exponent / 2) :=
      le_self_pow₀ square (by omega)
    exact ⟨word.of_mul (pow_pos square _), word.square nextNonzero bounded⟩

/-- The power of a word is found exactly if it is a word. The result so far is not zero, unless the
base is. -/
theorem wordPower?_eq_some_iff {accumulated base : Int64}
    (nonzero : base.toInt ≠ 0 → accumulated.toInt ≠ 0) (exponent : Nat) (result : Int64) :
    wordPower? accumulated base exponent = some result ↔
      result.toInt = accumulated.toInt * base.toInt ^ exponent := by
  induction exponent using Nat.strong_induction_on generalizing accumulated base with
  | _ exponent inductionHypothesis =>
    obtain rfl | rfl | more : exponent = 0 ∨ exponent = 1 ∨ 2 ≤ exponent := by omega
    · rw [wordPower?, if_pos rfl, pow_zero, mul_one, Option.some.injEq, Int64.toInt_inj, eq_comm]
    · rw [wordPower?_one_eq_some_iff, pow_one]
    rw [wordPower?_eq_some_iff_of_two_le _ _ _ more, pow_eq_oddFactor_mul, ← mul_assoc]
    have goesOn : ∀ next square : Int64,
        next.toInt = accumulated.toInt * oddFactor base.toInt exponent →
        square.toInt = base.toInt * base.toInt →
        (wordPower? next square (exponent / 2) = some result ↔
          result.toInt = next.toInt * square.toInt ^ (exponent / 2)) := by
      intro next square nextValue squareValue
      apply inductionHypothesis _ (by omega)
      intro squareNonzero
      have baseNonzero : base.toInt ≠ 0 := by
        rintro zero
        simp [squareValue, zero] at squareNonzero
      rw [nextValue]
      exact mul_ne_zero (nonzero baseNonzero) (oddFactor_ne_zero baseNonzero exponent)
    constructor
    · rintro ⟨next, square, nextValue, squareValue, found⟩
      rw [(goesOn next square nextValue squareValue).1 found, nextValue, squareValue]
    · intro value
      have word := isWord_toInt result
      rw [value] at word
      obtain ⟨nextWord, squareWord⟩ := isWord_of_step more nonzero word
      obtain ⟨next, nextValue⟩ := (isWord_iff _).1 nextWord
      obtain ⟨square, squareValue⟩ := (isWord_iff _).1 squareWord
      refine ⟨next, square, nextValue, squareValue, ?_⟩
      rw [goesOn next square nextValue squareValue, nextValue, squareValue, value]

end InputDeck
