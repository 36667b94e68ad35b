import InputDeck.Number.Decimal

/-!
# Whole numbers of 64 bits

Whole numbers are kept as signed words of 64 bits and calculated as mathematical integers: a
result is a word exactly when it lies in the range of words. So a word is never the wrapped
image of a larger number.
-/

namespace InputDeck

/-- The word with this value, if the value is in the range of words. -/
def wordOfInt? (n : Int) : Option Int64 :=
  if Int64.minValue.toInt ≤ n ∧ n ≤ Int64.maxValue.toInt then some (Int64.ofInt n) else none

/-- A number becomes a word exactly when it is the value of that word. -/
theorem wordOfInt?_eq_some_iff (n : Int) (w : Int64) : wordOfInt? n = some w ↔ w.toInt = n := by
  unfold wordOfInt?
  constructor
  · intro narrowed
    split at narrowed
    · rename_i inRange
      cases narrowed
      exact Int64.toInt_ofInt_of_le inRange.1 (Int.lt_add_one_iff.2 inRange.2)
    · simp at narrowed
  · rintro rfl
    rw [if_pos ⟨w.le_toInt, Int.lt_add_one_iff.1 w.toInt_lt⟩, Int64.ofInt_toInt]

/-- The power of a word, if every square and product on the way is a word. The base is squared
only while exponent remains, so no step exceeds the result in size. -/
def wordPower? (accumulated base : Int64) (exponent : Nat) : Option Int64 :=
  if exponent = 0 then some accumulated
  else do
    let accumulated ←
      if exponent % 2 = 1 then wordOfInt? (accumulated.toInt * base.toInt) else some accumulated
    if exponent = 1 then some accumulated
    else
      let square ← wordOfInt? (base.toInt * base.toInt)
      wordPower? accumulated square (exponent / 2)
termination_by exponent

/-- The word a whole text names: an optional sign and digits. -/
def readWord? (t : Text) : Option Int64 :=
  let (negative, unsigned) := Numeral.scanSign t
  let (digits, rest) := spanDigits unsigned
  if digits = [] ∨ rest ≠ [] then none
  else wordOfInt? (if negative then -(digitsValue digits : Int) else digitsValue digits)

/-- The digits of a natural number. -/
def renderNat (n : Nat) : Text := Nat.toDigits 10 n

/-- The digits of an integer, behind a minus sign if it is negative. -/
def renderInt (n : Int) : Text :=
  if n < 0 then '-' :: renderNat n.natAbs else renderNat n.natAbs

end InputDeck
