import InputDeck.Proofs.Number.Integer
import InputDeck.Proofs.Number.Range
import InputDeck.Template.Slot

/-!
# Literals

A literal stands for a whole number, for a real number or for itself. It never stands for NaN, and
it stands for an infinity exactly if it is a numeral of a quantity that is too large for the format.
The same holds of the parts of an interval, which have to be numbers.
-/

namespace InputDeck

open Numeral

/-- A text that is read as a word writes the decimal with its digits. -/
theorem writtenDecimal?_of_readWord? {t : Text} {n : Int64} (read : readWord? t = some n) :
    ∃ d, writtenDecimal? t = some d ∧ d.value = n.toInt.natAbs := by
  obtain ⟨isSign, nonempty, allDigits, value⟩ := (readWord?_eq_some_iff _ _).1 read
  rename_i sign digits
  have scanned : scan digits = (⟨digits, none, none⟩, []) := by
    have written := @scan_written digits none none allDigits (by simp) (by simp)
    simpa [writtenFraction, writtenExponent] using written
  refine ⟨⟨digitsValue digits, 0⟩, ?_, ?_⟩
  · simp [writtenDecimal?, scanSign_append_digits isSign allDigits, scanned, hasDigits, toDecimal,
      nonempty]
  · have size : n.toInt.natAbs = digitsValue digits := by
      rw [value]
      split <;> omega
    rw [Decimal.value, size, zpow_zero, mul_one]

namespace Value

/-- The value is no real number that is NaN. -/
def NotNaN (v : Value) : Prop := ∀ x, v = .real x → x.isNaN = false

/-- The literal is a numeral of a quantity that is too large for the format. -/
def TooLarge (literal : Text) : Prop :=
  looksNumeric (Text.trim literal) = true ∧
    ∃ d, writtenDecimal? (Text.trim literal) = some d ∧ Rounding.tooLarge ≤ d.value

/-- What a literal stands for. -/
inductive Reading (literal : Text) : Value → Prop
  | int {n : Int64} (word : readWord? (Text.trim literal) = some n) : Reading literal (.int n)
  | real {x : Float} (looks : looksNumeric (Text.trim literal) = true)
      (number : readReal? (Text.trim literal) = some x) : Reading literal (.real x)
  | text (noNumber : looksNumeric (Text.trim literal) = true →
      readReal? (Text.trim literal) = none) : Reading literal (.text literal)

/-- A literal stands for one of these. -/
theorem reading_ofLiteral (literal : Text) : Reading literal (ofLiteral literal) := by
  unfold ofLiteral
  simp only
  split
  · rename_i looks
    split
    · rename_i word
      exact .int word
    · split
      · rename_i number
        exact .real looks number
      · rename_i noNumber
        exact .text fun _ => noNumber
  · rename_i other
    exact .text fun looks => absurd looks other

/-- A numeral of a word is not too large. -/
theorem not_tooLarge_of_word {literal : Text} {n : Int64}
    (word : readWord? (Text.trim literal) = some n) : ¬TooLarge literal := by
  rintro ⟨-, d, written, large⟩
  obtain ⟨own, ownWritten, value⟩ := writtenDecimal?_of_readWord? word
  rw [written] at ownWritten
  cases ownWritten
  rw [value] at large
  exact absurd (natAbs_lt_tooLarge n) (not_lt.2 large)

/-- A real number is NaN or not finite as a value exactly if it is so as a number. -/
theorem status_real {x : Float} {large : Prop}
    (status : x.isNaN = false ∧ (x.isFinite = false ↔ large)) :
    (real x).NotNaN ∧ ((real x).isNonFinite = true ↔ large) := by
  refine ⟨?_, by simpa [isNonFinite] using status.2⟩
  intro y same
  cases same
  exact status.1

/-- A whole number is neither NaN nor an infinity. -/
theorem status_int (n : Int64) : (int n).NotNaN ∧ (int n).isNonFinite = false :=
  ⟨by simp [NotNaN], rfl⟩

/-- A text is neither NaN nor an infinity. -/
theorem status_text (t : Text) : (text t).NotNaN ∧ (text t).isNonFinite = false :=
  ⟨by simp [NotNaN], rfl⟩

/-- A value that is neither an infinity nor NaN is not NaN. -/
theorem notNaN_of_finite {v : Value} (finite : v.isNonFinite = false) : v.NotNaN := by
  rintro x rfl
  have isFinite : x.isFinite = true := by simpa [isNonFinite] using finite
  exact (status_of_isFinite isFinite).1

/-- A numeral of a real number is too large exactly if the number is not finite. -/
theorem status_of_number {literal : Text} {x : Float}
    (looks : looksNumeric (Text.trim literal) = true)
    (number : readReal? (Text.trim literal) = some x) :
    x.isNaN = false ∧ (x.isFinite = false ↔ TooLarge literal) := by
  obtain ⟨d, written, noNaN, finite⟩ := status_readReal? number
  refine ⟨noNaN, ?_⟩
  rw [← Bool.not_eq_true, finite, not_lt]
  constructor
  · intro large
    exact ⟨looks, d, written, large⟩
  · rintro ⟨-, d', written', large⟩
    rw [written] at written'
    cases written'
    exact large

/-- A literal does not stand for NaN, and it stands for an infinity exactly if it is too large. -/
theorem status_ofLiteral (literal : Text) :
    (ofLiteral literal).NotNaN ∧ ((ofLiteral literal).isNonFinite = true ↔ TooLarge literal) := by
  have reading := reading_ofLiteral literal
  generalize ofLiteral literal = v at reading
  cases reading with
  | @int n word =>
    obtain ⟨notNaN, isFinite⟩ := status_int n
    exact ⟨notNaN, iff_of_false (Bool.eq_false_iff.1 isFinite) (not_tooLarge_of_word word)⟩
  | real looks number => exact status_real (status_of_number looks number)
  | text noNumber =>
    obtain ⟨notNaN, isFinite⟩ := status_text literal
    refine ⟨notNaN, iff_of_false (Bool.eq_false_iff.1 isFinite) ?_⟩
    rintro ⟨looks, d, written, -⟩
    have unread := noNumber looks
    rw [readReal?_eq, written] at unread
    cases unread

end Value

/-- A part of an interval does not name NaN, and it names an infinity exactly if it is too large. -/
theorem Slot.status_rangePart? {part : Text} {x : Float} (read : rangePart? part = .ok x) :
    x.isNaN = false ∧ (x.isFinite = false ↔ Value.TooLarge part) := by
  have reading := Value.reading_ofLiteral part
  unfold rangePart? at read
  generalize isValue : Value.ofLiteral part = v at reading read
  cases reading with
  | @int n word =>
    cases read
    obtain ⟨noNaN, finite⟩ := status_ofInt n.toInt
    refine ⟨noNaN, iff_of_false ?_ (Value.not_tooLarge_of_word word)⟩
    simpa using finite.2 (natAbs_lt_tooLarge n)
  | real looks number =>
    cases read
    exact Value.status_of_number looks number
  | text noNumber =>
    simp only [Value.toNumeric?, isValue] at read
    cases read

end InputDeck
