import InputDeck.Proofs.Formula.FiniteValues
import InputDeck.Proofs.Formula.Tokens
import InputDeck.Proofs.Value.WholeNumbers

/-!
# Powers in formulas

A power is written with a caret, with two stars or as a call, and is calculated in one way. Of whole
numbers, with an exponent that is not negative, it is the exact power if this is a word and the
exponent an unsigned word of 32 bits. An exponent beyond that leaves a real number, although the
powers of zero, of one and of the opposite of one are words for every exponent.
-/

namespace InputDeck.Formula

/-- Two stars are read as a caret. -/
theorem tokenize_stars (rest : Text) : tokenize ('*' :: '*' :: rest) = tokenize ('^' :: rest) := by
  rw [tokenize_cons '*' ('*' :: rest), tokenize_cons '^' rest]
  rfl

/-- The operation and the function calculate the same power of the values of their operands. -/
theorem eval_power {bindings : Bindings} {left right : Expr} {base exponent : Value}
    (leftValue : left.eval bindings = .ok base) (rightValue : right.eval bindings = .ok exponent) :
    (Expr.binary .pow left right).eval bindings = finite (base.pow exponent) ∧
      (Expr.call "pow".toList [left, right]).eval bindings = finite (base.pow exponent) := by
  have called : applyFunction "pow".toList [base, exponent] = .ok (base.pow exponent) := rfl
  constructor
  · simp only [Expr.eval, leftValue, rightValue, apply]
  · simp only [Expr.eval, evalArguments, leftValue, rightValue, called]

/-- A power is a whole number or a real one. -/
theorem pow_eq_int_or_real (base exponent : Value) :
    (∃ n, base.pow exponent = .int n) ∨ ∃ x, base.pow exponent = .real x := by
  have notText : (base.pow exponent).NotText := Value.notText_calculate _ _ _ _
  cases power : base.pow exponent with
  | int n => exact .inl ⟨n, rfl⟩
  | real x => exact .inr ⟨x, rfl⟩
  | text t => exact absurd power (notText t)

/-- The power of whole numbers, for an exponent that is not negative, is a whole number exactly if
the exponent is an unsigned word of 32 bits and the exact power is a word. It is the exact power
then, and a real number otherwise. So a power that is a word stays whole, but the powers of zero, of
one and of the opposite of one become real numbers for exponents from 2 ^ 32 on. A caret, two stars
and the function of two arguments all calculate this power. -/
theorem whole_powers_stay_whole (a b : Int64) (nonnegative : 0 ≤ b.toInt) :
    (∀ r, (Value.int a).pow (.int b) = .int r ↔
      b.toInt < 2 ^ 32 ∧ r.toInt = a.toInt ^ b.toInt.toNat) ∧
    (IsWord (a.toInt ^ b.toInt.toNat) →
      (∃ r, (Value.int a).pow (.int b) = .int r ∧ r.toInt = a.toInt ^ b.toInt.toNat) ∨
      (2 ^ 32 ≤ b.toInt ∧ |a.toInt| ≤ 1 ∧ ∃ x, (Value.int a).pow (.int b) = .real x)) ∧
    (¬IsWord (a.toInt ^ b.toInt.toNat) → ∃ x, (Value.int a).pow (.int b) = .real x) ∧
    (∀ (bindings : Bindings) (left right : Expr),
      left.eval bindings = .ok (.int a) → right.eval bindings = .ok (.int b) →
      (Expr.binary .pow left right).eval bindings = finite ((Value.int a).pow (.int b)) ∧
      (Expr.call "pow".toList [left, right]).eval bindings =
        finite ((Value.int a).pow (.int b))) ∧
    ∀ rest, tokenize ('*' :: '*' :: rest) = tokenize ('^' :: rest) := by
  have whole : ∀ r, (Value.int a).pow (.int b) = .int r ↔
      b.toInt < 2 ^ 32 ∧ r.toInt = a.toInt ^ b.toInt.toNat := by
    intro r
    rw [Value.pow_eq_int_iff]
    simp [nonnegative]
  refine ⟨whole, ?_, ?_, fun _ _ _ leftValue rightValue => eval_power leftValue rightValue,
    tokenize_stars⟩
  · intro word
    obtain ⟨r, value⟩ := (isWord_iff _).1 word
    rcases lt_or_ge b.toInt (2 ^ 32) with narrow | wide
    · exact .inl ⟨r, (whole r).2 ⟨narrow, value⟩, value⟩
    · refine .inr ⟨wide, word.abs_le_one (by omega), ?_⟩
      rcases pow_eq_int_or_real (.int a) (.int b) with ⟨n, isInt⟩ | isReal
      · exact absurd ((whole n).1 isInt).1 (by omega)
      · exact isReal
  · intro noWord
    rcases pow_eq_int_or_real (.int a) (.int b) with ⟨n, isInt⟩ | isReal
    · exact absurd ((isWord_iff _).2 ⟨n, ((whole n).1 isInt).2⟩) noWord
    · exact isReal

/-- The least word is a power. -/
theorem least_word_is_a_power :
    (0 : Int) ≤ (63 : Int64).toInt ∧
      (Value.int (-2)).pow (.int 63) = .int Int64.minValue :=
  ⟨by decide, ((whole_powers_stay_whole (-2) 63 (by decide)).1 _).2 (by decide)⟩

/-- The power of one is one for every exponent, but it is no whole number for the least exponent of
more than 32 bits. -/
theorem power_of_one_for_wide_exponent :
    IsWord ((1 : Int64).toInt ^ (4294967296 : Int64).toInt.toNat) ∧
      ∀ r, (Value.int 1).pow (.int 4294967296) ≠ .int r := by
  constructor
  · rw [show (1 : Int64).toInt = 1 from rfl, one_pow]
    decide
  · intro r isInt
    obtain ⟨_, exponent, -, sameExponent, ⟨-, narrow⟩, -⟩ := (Value.pow_eq_int_iff _ _ _).1 isInt
    cases sameExponent
    exact absurd narrow (by decide)

end InputDeck.Formula
