import InputDeck.Proofs.Outcome
import InputDeck.Formula.Lexer

/-!
# Tokens on both sides of a break

A break is a character that no token before it can take in: it continues neither names nor
numerals, is no sign of an exponent and no second star. Scanning never looks behind a break, so the
tokens before it and those from it on can be read apart.
-/

namespace InputDeck

namespace Formula

/-- The character ends every token before it. -/
structure IsBreak (d : Char) : Prop where
  notName : continuesName d = false
  notPoint : d ≠ '.'
  notPlus : d ≠ '+'
  notMinus : d ≠ '-'
  notStar : d ≠ '*'

theorem isBreak_openParen : IsBreak '(' := by constructor <;> decide

theorem isBreak_closeParen : IsBreak ')' := by constructor <;> decide

namespace IsBreak

variable {d : Char} (isBreak : IsBreak d)

include isBreak

/-- A break is no digit. -/
theorem notDigit : Text.isDigit d = false := by
  have notName := isBreak.notName
  unfold continuesName at notName
  exact (Bool.or_eq_false_iff.1 notName).2

/-- A break is no letter. -/
theorem notBeginsName : beginsName d = false := by
  have notName := isBreak.notName
  unfold continuesName at notName
  exact (Bool.or_eq_false_iff.1 notName).1

/-- A break is no exponent letter. -/
theorem notExponent : ¬(d = 'e' ∨ d = 'E') := by
  have notLetter := isBreak.notBeginsName
  rintro (rfl | rfl)
  · exact absurd notLetter (by decide)
  · exact absurd notLetter (by decide)

end IsBreak

end Formula

/-- A span ends before a character outside of the class. -/
theorem Text.spanWhile_append {inClass : Char → Bool} {d : Char} (outside : inClass d = false)
    (a b : Text) :
    spanWhile inClass (a ++ d :: b) =
      ((spanWhile inClass a).1, (spanWhile inClass a).2 ++ d :: b) := by
  induction a with
  | nil => simp [spanWhile, outside]
  | cons c rest inductionHypothesis =>
    obtain ⟨taken, dropped⟩ := Prod.mk.inj inductionHypothesis
    by_cases inside : inClass c = true
    · simp [spanWhile, inside, taken, dropped]
    · simp [spanWhile, inside]

namespace Numeral

open Formula

variable {d : Char} (isBreak : IsBreak d) (b : Text)

include isBreak

/-- Digits end before a break. -/
theorem spanDigits_append (a : Text) :
    spanDigits (a ++ d :: b) = ((spanDigits a).1, (spanDigits a).2 ++ d :: b) :=
  Text.spanWhile_append isBreak.notDigit a b

/-- A sign is no break. -/
theorem scanSign_append (a : Text) :
    scanSign (a ++ d :: b) = ((scanSign a).1, (scanSign a).2 ++ d :: b) := by
  cases a with
  | nil =>
    simp only [List.nil_append]
    unfold scanSign
    split
    · rename_i same
      cases same
      exact absurd rfl isBreak.notMinus
    · rename_i same
      cases same
      exact absurd rfl isBreak.notPlus
    · rfl
  | cons c rest =>
    simp only [List.cons_append]
    unfold scanSign
    split
    · rename_i same
      cases same
      rfl
    · rename_i same
      cases same
      rfl
    · rename_i notMinus notPlus
      split
      · rename_i same
        cases same
        exact absurd rfl (notMinus _)
      · rename_i same
        cases same
        exact absurd rfl (notPlus _)
      · rfl

/-- An exponent ends before a break. -/
theorem scanExponent_append (a : Text) :
    scanExponent (a ++ d :: b) =
      (scanExponent a).map fun (exponent, rest) => (exponent, rest ++ d :: b) := by
  cases a with
  | nil => simp [scanExponent, isBreak.notExponent]
  | cons c rest =>
    simp only [List.cons_append, scanExponent, scanSign_append isBreak,
      spanDigits_append isBreak]
    by_cases letter : c = 'e' ∨ c = 'E'
    · by_cases empty : (spanDigits (scanSign rest).2).1 = []
      · simp [letter, empty]
      · simp [letter, empty]
    · simp [letter]

/-- A fraction ends before a break. -/
theorem scanFraction_append (a : Text) :
    scanFraction (a ++ d :: b) = ((scanFraction a).1, (scanFraction a).2 ++ d :: b) := by
  cases a with
  | nil =>
    simp only [List.nil_append]
    unfold scanFraction
    split
    · rename_i same
      cases same
      exact absurd rfl isBreak.notPoint
    · rfl
  | cons c rest =>
    simp only [List.cons_append]
    by_cases point : c = '.'
    · subst point
      simp [scanFraction, spanDigits_append isBreak]
    · simp [scanFraction, point]

/-- A numeral ends before a break. -/
theorem scan_append (a : Text) :
    scan (a ++ d :: b) = ((scan a).1, (scan a).2 ++ d :: b) := by
  simp only [scan, spanDigits_append isBreak, scanFraction_append isBreak,
    scanExponent_append isBreak]
  cases scanExponent (scanFraction (spanDigits a).2).2 <;> rfl

end Numeral

namespace Formula

/-- The first token and those of the rest; separators are passed over. -/
theorem tokenize_cons (c : Char) (rest : Text) :
    tokenize (c :: rest) =
      if isSeparator c then tokenize rest
      else
        match scanToken c rest with
        | .error fault => .error fault
        | .ok (token, remaining) => (tokenize remaining).map (token :: ·) := by
  rw [tokenize]
  split
  · rfl
  · split
    · rename_i scanned
      simp only [scanned]
    · rename_i scanned
      simp only [scanned]

variable {d : Char} (isBreak : IsBreak d) (b : Text)

include isBreak

/-- Whether a numeral begins is settled before a break. -/
theorem beginsNumeral_append (c : Char) (a : Text) :
    beginsNumeral c (a ++ d :: b) = beginsNumeral c a := by
  cases a with
  | nil => simp [beginsNumeral, isBreak.notDigit]
  | cons first rest => rfl

/-- A star is doubled before a break or not at all. -/
theorem scanStar_append (a : Text) :
    (match a ++ d :: b with
      | '*' :: rest => .ok (Token.caret, rest)
      | rest => .ok (Token.star, rest) : Except Fault (Token × Text)) =
      (match a with
        | '*' :: rest => .ok (Token.caret, rest)
        | rest => .ok (Token.star, rest) : Except Fault (Token × Text)).map
          fun (token, rest) => (token, rest ++ d :: b) := by
  cases a with
  | nil =>
    simp only [List.nil_append]
    split
    · rename_i same
      cases same
      exact absurd rfl isBreak.notStar
    · rfl
  | cons c rest =>
    by_cases star : c = '*'
    · subst star
      rfl
    · simp [star, Except.map]

/-- A token ends before a break. -/
theorem scanToken_append (c : Char) (a : Text) :
    scanToken c (a ++ d :: b) =
      (scanToken c a).map fun (token, rest) => (token, rest ++ d :: b) := by
  unfold scanToken
  rw [beginsNumeral_append isBreak]
  by_cases numeral : beginsNumeral c a = true
  · have scanned := Numeral.scan_append isBreak b (c :: a)
    rw [List.cons_append] at scanned
    simp [numeral, scanned, Except.map]
  · by_cases letter : beginsName c = true
    · simp [numeral, letter, Text.spanWhile_append isBreak.notName, Except.map]
    · simp only [numeral, letter, Bool.false_eq_true, ite_false]
      split
      case h_3 => exact scanStar_append isBreak b a
      all_goals rfl

/-- The tokens before a break and those from it on. -/
theorem tokenize_append (a : Text) :
    tokenize (a ++ d :: b) =
      match tokenize a with
      | .error fault => .error fault
      | .ok tokens => (tokenize (d :: b)).map (tokens ++ ·) := by
  fun_induction tokenize a with
  | case1 =>
    rw [List.nil_append]
    cases tokenize (d :: b) <;> rfl
  | case2 c rest separates inductionHypothesis =>
    rw [List.cons_append, tokenize_cons, if_pos separates, inductionHypothesis]
  | case3 c rest visible fault scanned =>
    rw [List.cons_append, tokenize_cons, if_neg visible, scanToken_append isBreak, scanned]
    rfl
  | case4 c rest visible token remaining scanned _ inductionHypothesis =>
    rw [List.cons_append, tokenize_cons, if_neg visible, scanToken_append isBreak, scanned]
    simp only [Except.map, inductionHypothesis]
    cases tokenize remaining with
    | error fault => rfl
    | ok tokens => cases tokenize (d :: b) <;> rfl

/-- A text with a break has tokens exactly when both sides have. -/
theorem tokenize_append_eq_ok_iff (a : Text) (tokens : List Token) :
    tokenize (a ++ d :: b) = .ok tokens ↔
      ∃ first later, tokenize a = .ok first ∧ tokenize (d :: b) = .ok later ∧
        tokens = first ++ later := by
  rw [tokenize_append isBreak]
  cases tokenize a with
  | error fault => simp
  | ok first =>
    simp only [map_eq_ok_iff, Except.ok.injEq, exists_and_left, exists_eq_left']
    constructor
    · rintro ⟨later, read, rfl⟩
      exact ⟨later, read, rfl⟩
    · rintro ⟨later, read, rfl⟩
      exact ⟨later, read, rfl⟩

omit isBreak

/-- A parenthesis is a token of its own. -/
theorem tokenize_openParen : tokenize ('(' :: b) = (tokenize b).map (.openParen :: ·) := by
  rw [tokenize_cons]
  rfl

/-- A closing parenthesis is a token of its own. -/
theorem tokenize_closeParen : tokenize (')' :: b) = (tokenize b).map (.closeParen :: ·) := by
  rw [tokenize_cons]
  rfl

/-- A text with a parenthesis has the tokens before it, inside it and behind it. -/
theorem tokenize_parenthesis_eq_ok_iff {content : Text} {inside : List Token}
    (read : tokenize content = .ok inside) (before after : Text) (tokens : List Token) :
    tokenize (before ++ '(' :: (content ++ ')' :: after)) = .ok tokens ↔
      ∃ first later, tokenize before = .ok first ∧ tokenize after = .ok later ∧
        tokens = first ++ .openParen :: (inside ++ .closeParen :: later) := by
  rw [tokenize_append_eq_ok_iff isBreak_openParen, tokenize_openParen,
    tokenize_append isBreak_closeParen, read, tokenize_closeParen]
  cases tokenize after with
  | error fault => simp
  | ok later => simp

end Formula

end InputDeck
