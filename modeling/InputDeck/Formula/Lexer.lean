import InputDeck.Formula.Fault

/-!
# From text to tokens

Tokens are read from the left and each is as long as it can be. A numeral begins with a digit,
or with a point before a digit; it is a whole number if it is digits alone and fits a word, else
a real number. Two stars are one caret. Spaces, tabulators and line ends separate tokens. Every
token takes at least one character, so reading ends.
-/

namespace InputDeck

/-- What is left after a row of digits is no longer than the text. -/
theorem length_spanDigits_le (t : Text) : (spanDigits t).2.length ≤ t.length :=
   Text.length_spanWhile_le Text.isDigit t

namespace Numeral

/-- A sign takes at most one character. -/
theorem length_scanSign_le (t : Text) : (scanSign t).2.length ≤ t.length := by
  unfold scanSign
  split <;> simp

/-- What is left after an exponent is no longer than the text. -/
theorem length_scanExponent_le {t rest : Text} {exponent : Int}
    (scanned : scanExponent t = some (exponent, rest)) : rest.length ≤ t.length := by
  unfold scanExponent at scanned
  split at scanned
  · simp at scanned
  · rename_i c tail
    split at scanned
    · simp only at scanned
      split at scanned
      · simp at scanned
      · simp only [Option.some.injEq, Prod.mk.injEq] at scanned
        obtain ⟨-, rfl⟩ := scanned
        have digits := length_spanDigits_le (scanSign tail).2
        have sign := length_scanSign_le tail
        simp only [List.length_cons]
        omega
    · simp at scanned

/-- What is left after a fraction is no longer than the text. -/
theorem length_scanFraction_le (t : Text) : (scanFraction t).2.length ≤ t.length := by
  unfold scanFraction
  split
  · rename_i tail
    have digits := length_spanDigits_le tail
    simp only [List.length_cons]
    omega
  · simp

/-- What is left after a numeral is what is left after its fraction, or less. -/
theorem length_scan_le_fraction (t : Text) :
    (scan t).2.length ≤ (scanFraction (spanDigits t).2).2.length := by
  simp only [scan]
  split
  · rename_i exponent rest scanned
    exact length_scanExponent_le scanned
  · simp

/-- A numeral that begins with a digit takes at least one character. -/
theorem length_scan_lt_of_digit {c : Char} {rest : Text} (digit : Text.isDigit c) :
    (scan (c :: rest)).2.length ≤ rest.length := by
  have whole : (spanDigits (c :: rest)).2.length ≤ rest.length := by
    simp only [spanDigits, Text.spanWhile, List.dropWhile_cons, digit, ite_true]
    exact (List.dropWhile_sublist _).length_le
  exact Nat.le_trans (length_scan_le_fraction _) (Nat.le_trans (length_scanFraction_le _) whole)

/-- A numeral that begins with a point takes at least one character. -/
theorem length_scan_lt_of_point (rest : Text) : (scan ('.' :: rest)).2.length ≤ rest.length := by
  refine Nat.le_trans (length_scan_le_fraction _) ?_
  have notDigit : spanDigits ('.' :: rest) = ([], '.' :: rest) := rfl
  rw [notDigit]
  exact length_spanDigits_le rest

end Numeral

namespace Formula

/-- The characters that separate tokens. -/
def isSeparator (c : Char) : Bool := c == ' ' || c == '\t' || c == '\r' || c == '\n'

/-- The characters a name begins with. -/
def beginsName (c : Char) : Bool := Text.isLetter c || c == '_'

/-- The characters a name goes on with. -/
def continuesName (c : Char) : Bool := beginsName c || Text.isDigit c

/-- Whether a numeral begins here. -/
def beginsNumeral (c : Char) (rest : Text) : Bool :=
  Text.isDigit c || (c == '.' && rest.head?.any Text.isDigit)

/-- The token of a numeral. -/
def numberToken (numeral : Numeral) : Token :=
  match if numeral.isWhole then wordOfInt? (digitsValue numeral.whole) else none with
  | some n => .whole n
  | none => .real numeral.toDecimal.toFloat

/-- The token that a character begins, and the rest of the text. -/
def scanToken (c : Char) (rest : Text) : Except Fault (Token × Text) :=
  if beginsNumeral c rest then
    let (numeral, rest) := Numeral.scan (c :: rest)
    .ok (numberToken numeral, rest)
  else if beginsName c then
    let (name, rest) := Text.spanWhile continuesName rest
    .ok (.name (c :: name), rest)
  else
    match c with
    | '+' => .ok (.plus, rest)
    | '-' => .ok (.minus, rest)
    | '*' =>
      match rest with
      | '*' :: rest => .ok (.caret, rest)
      | rest => .ok (.star, rest)
    | '/' => .ok (.slash, rest)
    | '^' => .ok (.caret, rest)
    | ',' => .ok (.comma, rest)
    | '(' => .ok (.openParen, rest)
    | ')' => .ok (.closeParen, rest)
    | c => .error (.unexpectedCharacter c)

/-- A token takes at least one character. -/
theorem length_scanToken_le {c : Char} {rest remaining : Text} {token : Token}
    (scanned : scanToken c rest = .ok (token, remaining)) : remaining.length ≤ rest.length := by
  unfold scanToken at scanned
  split at scanned
  · rename_i numeral
    simp only [Except.ok.injEq, Prod.mk.injEq] at scanned
    obtain ⟨-, rfl⟩ := scanned
    simp only [beginsNumeral, Bool.or_eq_true, Bool.and_eq_true, beq_iff_eq] at numeral
    rcases numeral with digit | ⟨rfl, -⟩
    · exact Numeral.length_scan_lt_of_digit digit
    · exact Numeral.length_scan_lt_of_point rest
  · split at scanned
    · simp only [Except.ok.injEq, Prod.mk.injEq] at scanned
      obtain ⟨-, rfl⟩ := scanned
      exact Text.length_spanWhile_le continuesName rest
    · split at scanned
      case h_3 =>
        split at scanned <;> cases scanned <;> simp
      all_goals cases scanned
      all_goals simp

/-- The tokens of a formula. -/
def tokenize : Text → Except Fault (List Token)
  | [] => .ok []
  | c :: rest =>
    if isSeparator c then tokenize rest
    else
      match scanned : scanToken c rest with
      | .error fault => .error fault
      | .ok (token, remaining) =>
        have _shorter := length_scanToken_le scanned
        (tokenize remaining).map (token :: ·)
termination_by t => t.length
decreasing_by
  · simp
  · simp only [List.length_cons]
    omega

end Formula

end InputDeck
