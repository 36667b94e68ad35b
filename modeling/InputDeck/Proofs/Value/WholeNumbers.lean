import InputDeck.Proofs.Number.Words
import InputDeck.Value.Arithmetic

/-!
# Whole numbers among the values

A sum, a difference, a product and an opposite are whole numbers exactly if their operands are and
the exact result is a word. The result is that word: no other integer passes for it. A power has to
have an exponent of 32 bits besides.
-/

namespace InputDeck.Value

variable (left right : Value) (result : Int64)

/-- A calculation gives a whole number only as the exact one. -/
theorem calculate_eq_int_iff (exact : Int64 → Int64 → Option Int64)
    (rounded : Float → Float → Float) :
    calculate exact rounded left right = int result ↔
      ∃ m n, left = int m ∧ right = int n ∧ exact m n = some result := by
  constructor
  · intro calculated
    unfold calculate at calculated
    split at calculated
    · rename_i m n
      split at calculated
      · rename_i found
        cases calculated
        exact ⟨m, n, rfl, rfl, found⟩
      · cases calculated
    · cases calculated
  · rintro ⟨m, n, rfl, rfl, found⟩
    simp [calculate, found]

/-- A sum is a whole number exactly as the sum of whole numbers. -/
theorem add_eq_int_iff :
    left.add right = int result ↔
      ∃ m n, left = int m ∧ right = int n ∧ result.toInt = m.toInt + n.toInt := by
  simp only [add, calculate_eq_int_iff, wordOfInt?_eq_some_iff]

/-- A difference is a whole number exactly as the difference of whole numbers. -/
theorem sub_eq_int_iff :
    left.sub right = int result ↔
      ∃ m n, left = int m ∧ right = int n ∧ result.toInt = m.toInt - n.toInt := by
  simp only [sub, calculate_eq_int_iff, wordOfInt?_eq_some_iff]

/-- A product is a whole number exactly as the product of whole numbers. -/
theorem mul_eq_int_iff :
    left.mul right = int result ↔
      ∃ m n, left = int m ∧ right = int n ∧ result.toInt = m.toInt * n.toInt := by
  simp only [mul, calculate_eq_int_iff, wordOfInt?_eq_some_iff]

/-- A power is a whole number exactly as the power of whole numbers, for an exponent that is an
unsigned word of 32 bits. -/
theorem pow_eq_int_iff :
    left.pow right = int result ↔
      ∃ m n, left = int m ∧ right = int n ∧ (0 ≤ n.toInt ∧ n.toInt < 2 ^ 32) ∧
        result.toInt = m.toInt ^ n.toInt.toNat := by
  have power : ∀ m n : Int64,
      (if 0 ≤ n.toInt ∧ n.toInt.natAbs < UInt32.size then wordPower? 1 m n.toInt.natAbs
        else none) = some result ↔
      (0 ≤ n.toInt ∧ n.toInt < 2 ^ 32) ∧ result.toInt = m.toInt ^ n.toInt.toNat := by
    intro m n
    have size : UInt32.size = 2 ^ 32 := rfl
    split
    · rename_i narrow
      have sameExponent : n.toInt.natAbs = n.toInt.toNat := by omega
      rw [sameExponent, wordPower?_eq_some_iff (fun _ => by decide), and_iff_right (by omega)]
      simp
    · rename_i wide
      simp only [reduceCtorEq, false_iff]
      rintro ⟨narrow, -⟩
      omega
  simp only [pow, calculate_eq_int_iff, power]

/-- An opposite is a whole number exactly as the opposite of a whole number. -/
theorem neg_eq_int_iff : left.neg = int result ↔ ∃ n, left = int n ∧ result.toInt = -n.toInt := by
  simp only [← wordOfInt?_eq_some_iff]
  constructor
  · intro negated
    unfold neg at negated
    split at negated
    · rename_i n
      split at negated
      · rename_i found
        cases negated
        exact ⟨n, rfl, found⟩
      · cases negated
    · cases negated
  · rintro ⟨n, rfl, found⟩
    simp [neg, found]

end InputDeck.Value
