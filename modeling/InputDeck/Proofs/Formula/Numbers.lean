import InputDeck.Proofs.Formula.Exchange
import InputDeck.Proofs.Formula.Tokens
import InputDeck.Proofs.Number.Notation

/-!
# Numbers in parentheses

A written number is one token, or a minus and one token, and before a closing parenthesis it is a
sum of its own. Any two numbers can therefore be exchanged inside parentheses.
-/

namespace InputDeck.Formula

open Numeral

/-- The tree of a number, perhaps of a negative one. -/
inductive IsNumber : Expr → Prop
  | literal (v : Value) : IsNumber (.literal v)
  | negative (v : Value) : IsNumber (.neg (.literal v))

/-- Two trees of numbers. -/
def Numbers (e e' : Expr) : Prop := IsNumber e ∧ IsNumber e'

/-- A number has no names. -/
theorem IsNumber.names_eq {e : Expr} (number : IsNumber e) : e.names = [] := by
  cases number with
  | literal v => rfl
  | negative v => rfl

/-- No number is a call. -/
theorem not_numbers_call (function : Text) (arguments : List Expr) (e : Expr) :
    ¬Numbers (.call function arguments) e := by
  rintro ⟨number, -⟩
  cases number

/-- The token of a numeral is a number. -/
theorem numberToken_eq (numeral : Numeral) :
    (∃ n, numberToken numeral = .whole n) ∨ ∃ x, numberToken numeral = .real x := by
  unfold numberToken
  split
  · exact .inl ⟨_, rfl⟩
  · exact .inr ⟨_, rfl⟩

/-- The token of a numeral with a point or an exponent is the real number that it reads as. -/
theorem numberToken_of_not_whole {numeral : Numeral} {x : Float}
    (notWhole : numeral.isWhole = false) (reads : numeral.toDecimal.toFloat = x) :
    numberToken numeral = .real x := by
  simp [numberToken, notWhole, reads]

/-- A digit separates no tokens. -/
theorem not_isSeparator_of_isDigit {c : Char} (digit : Text.isDigit c = true) :
    isSeparator c = false := by
  apply Bool.eq_false_iff.2
  intro separates
  simp only [isSeparator, Bool.or_eq_true, beq_iff_eq] at separates
  rcases separates with ((rfl | rfl) | rfl) | rfl
  all_goals exact absurd digit (by decide)

/-- A written numeral is one token. -/
theorem tokenize_of_isWritten {t whole : Text} {fraction : Option Text}
    {exponent : Option (Bool × Text)} (isWritten : IsWritten t whole fraction exponent) :
    tokenize t = .ok [numberToken ⟨whole, fraction, exponent.map exponentValue⟩] := by
  have scanned := isWritten.scan_eq
  obtain ⟨c, rest, rfl, digit⟩ := isWritten.begins
  have begins : beginsNumeral c rest = true := by simp [beginsNumeral, digit]
  rw [tokenize_cons, not_isSeparator_of_isDigit digit]
  simp [scanToken, begins, scanned, tokenize, Except.map]

/-- A minus sign before a text is a token of its own. -/
theorem tokenize_minus (t : Text) : tokenize ('-' :: t) = (tokenize t).map (.minus :: ·) := by
  rw [tokenize_cons]
  rfl

/-- Before a closing parenthesis a signed operand is a sum. -/
theorem reads_sum_of_signed {tokens after : List Token} {e : Expr}
    (reads : Reads .signed tokens e (.closeParen :: after)) :
    Reads .sum tokens e (.closeParen :: after) :=
  .sum (.product reads (.productStop rfl)) (.sumStop rfl)

/-- Before a closing parenthesis an operand is a signed operand. -/
theorem reads_signed_of_operand {token : Token} {tokens after : List Token} {e : Expr}
    (notMinus : token ≠ .minus) (notPlus : token ≠ .plus)
    (reads : Reads .operand (token :: tokens) e (.closeParen :: after)) :
    Reads .signed (token :: tokens) e (.closeParen :: after) := by
  refine .unsigned ⟨?_, ?_⟩ (.unraised reads (by simp))
  · simpa using notMinus
  · simpa using notPlus

/-- A text whose tokens are a sum before a closing parenthesis, and the tree of this sum. -/
def IsSum (t : Text) (e : Expr) : Prop := ∃ tokens, tokenize t = .ok tokens ∧ Encloses tokens e

/-- A token that is an operand is a sum, and so is one behind a minus sign. -/
theorem isSum_of_operand {t : Text} {token : Token} {v : Value} (one : tokenize t = .ok [token])
    (notMinus : token ≠ .minus) (notPlus : token ≠ .plus)
    (reads : ∀ after,
      Reads .operand (token :: .closeParen :: after) (.literal v) (.closeParen :: after)) :
    IsSum t (.literal v) ∧ IsSum ('-' :: t) (.neg (.literal v)) := by
  constructor
  · refine ⟨[token], one, ?_⟩
    intro after
    exact reads_sum_of_signed (reads_signed_of_operand notMinus notPlus (reads after))
  · refine ⟨[.minus, token], ?_, ?_⟩
    · rw [tokenize_minus, one]
      rfl
    · intro after
      exact reads_sum_of_signed (.minus (reads_signed_of_operand notMinus notPlus (reads after)))

/-- A written numeral is a sum, and so is one behind a minus sign. -/
theorem isSum_of_isWritten {t whole : Text} {fraction : Option Text}
    {exponent : Option (Bool × Text)} (isWritten : IsWritten t whole fraction exponent) :
    ∃ v, IsSum t (.literal v) ∧ IsSum ('-' :: t) (.neg (.literal v)) := by
  have one := tokenize_of_isWritten isWritten
  rcases numberToken_eq ⟨whole, fraction, exponent.map exponentValue⟩ with ⟨n, same⟩ | ⟨x, same⟩
  · rw [same] at one
    exact ⟨.int n, isSum_of_operand one Token.noConfusion Token.noConfusion fun _ => .whole n _⟩
  · rw [same] at one
    exact ⟨.real x, isSum_of_operand one Token.noConfusion Token.noConfusion fun _ => .real x _⟩

/-- A numeral with a sign is the sum of a number. -/
theorem isSum_of_isSigned {t : Text} (signed : IsSigned t) : ∃ e, IsSum t e ∧ IsNumber e := by
  cases signed with
  | unsigned isWritten =>
    obtain ⟨v, isSum, -⟩ := isSum_of_isWritten isWritten
    exact ⟨_, isSum, .literal v⟩
  | negative isWritten =>
    obtain ⟨v, -, isSum⟩ := isSum_of_isWritten isWritten
    exact ⟨_, isSum, .negative v⟩

/-- Zero is the sum of a number. -/
theorem isSum_zero : IsSum ['0'] (.literal (.int 0)) := by
  have isWritten : IsWritten ['0'] ['0'] none none :=
    ⟨rfl, List.cons_ne_nil _ _, by simp [Digits, Text.isDigit], by simp, by simp⟩
  obtain ⟨isSum, -⟩ := isSum_of_operand (tokenize_of_isWritten isWritten) Token.noConfusion
    Token.noConfusion fun _ => .whole 0 _
  exact isSum

end InputDeck.Formula
