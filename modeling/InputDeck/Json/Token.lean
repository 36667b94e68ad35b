import InputDeck.Text.Basic

/-!
# Tokens of JSON

JSON text is a row of tokens with blanks between them. A string is taken apart into characters
and the halves of surrogate pairs that its escapes may name; two halves in order are a character,
and a string with a half that has no partner is a token like any other but stands for no text.
Numbers are checked for their form and their value is not kept.
-/

namespace InputDeck.Json

/-- A token. -/
inductive Token where
  | openArray
  | closeArray
  | openObject
  | closeObject
  | comma
  | colon
  /-- A string, with the text that it stands for if it stands for one. -/
  | text (content : Option Text)
  | number
  /-- One of the words `null`, `true` and `false`. -/
  | word
deriving DecidableEq

/-- A character of a string, or half of one that lies beyond the first 65536. -/
inductive StringUnit where
  | char (c : Char)
  /-- The upper ten bits of such a character, less 64. -/
  | high (bits : Nat)
  /-- The lower ten bits. -/
  | low (bits : Nat)
deriving DecidableEq

/-- The blanks between tokens. -/
def isBlank (c : Char) : Bool := c == ' ' || c == '\t' || c == '\n' || c == '\r'

/-- What an escape of four hexadecimal digits names. -/
def hexUnit? (a b c d : Char) : Option StringUnit := do
  let a ← Text.hexDigit? a
  let b ← Text.hexDigit? b
  let c ← Text.hexDigit? c
  let d ← Text.hexDigit? d
  let code := ((a * 16 + b) * 16 + c) * 16 + d
  if 0xD800 ≤ code ∧ code < 0xDC00 then some (.high (code - 0xD800))
  else if 0xDC00 ≤ code ∧ code < 0xE000 then some (.low (code - 0xDC00))
  else some (.char (Char.ofNat code))

/-- The character that an escape of one letter names. -/
def escaped? (c : Char) : Option Char :=
  match c with
  | '"' => some '"'
  | '\\' => some '\\'
  | '/' => some '/'
  | 'b' => some '\x08'
  | 'f' => some '\x0c'
  | 'n' => some '\n'
  | 'r' => some '\r'
  | 't' => some '\t'
  | _ => none

/-- The units of a string up to its closing quote, and the text behind it. A character below the
space has to be escaped. -/
def stringUnits? : Text → Option (List StringUnit × Text)
  | [] => none
  | '"' :: rest => some ([], rest)
  | '\\' :: 'u' :: a :: b :: c :: d :: rest =>
    match hexUnit? a b c d, stringUnits? rest with
    | some first, some (units, rest) => some (first :: units, rest)
    | _, _ => none
  | '\\' :: c :: rest =>
    match escaped? c, stringUnits? rest with
    | some c, some (units, rest) => some (.char c :: units, rest)
    | _, _ => none
  | c :: rest =>
    if c < ' ' then none
    else (stringUnits? rest).map fun (units, rest) => (.char c :: units, rest)

/-- The closing quote takes a character. -/
theorem length_stringUnits?_lt {t rest : Text} {units : List StringUnit}
    (taken : stringUnits? t = some (units, rest)) : rest.length < t.length := by
  fun_induction stringUnits? t generalizing units rest with
  | case1 => cases taken
  | case2 => cases taken; simp
  | case3 a b c d others first units' rest' remaining found inductionHypothesis =>
    cases taken
    have shorter := inductionHypothesis remaining
    simp only [List.length_cons]
    omega
  | case4 => cases taken
  | case5 c others _ c' units' rest' remaining found inductionHypothesis =>
    cases taken
    have shorter := inductionHypothesis remaining
    simp only [List.length_cons]
    omega
  | case6 => cases taken
  | case7 => cases taken
  | case8 c others _ _ _ _ inductionHypothesis =>
    obtain ⟨⟨units', rest'⟩, remaining, same⟩ := Option.map_eq_some_iff.1 taken
    cases same
    have shorter := inductionHypothesis remaining
    simp only [List.length_cons]
    omega

/-- The text that the units of a string stand for, if every half has its partner. -/
def joinUnits? : List StringUnit → Option Text
  | [] => some []
  | .char c :: rest => (joinUnits? rest).map (c :: ·)
  | .high upper :: .low lower :: rest =>
    (joinUnits? rest).map (Char.ofNat (0x10000 + upper * 1024 + lower) :: ·)
  | .high _ :: _ => none
  | .low _ :: _ => none

/-- The text behind one digit and all that follow it. -/
def afterDigits? : Text → Option Text
  | [] => none
  | c :: rest => if Text.isDigit c then some (rest.dropWhile Text.isDigit) else none

/-- The text behind the whole part of a number, which begins with zero only if it is zero. -/
def afterWhole? : Text → Option Text
  | '0' :: rest => some rest
  | t => afterDigits? t

/-- The text behind the fraction of a number, which may be missing. -/
def afterFraction? : Text → Option Text
  | '.' :: rest => afterDigits? rest
  | t => some t

/-- The text behind the exponent of a number, which may be missing. -/
def afterExponent? : Text → Option Text
  | [] => some []
  | c :: rest =>
    if c = 'e' ∨ c = 'E' then
      match rest with
      | '+' :: digits => afterDigits? digits
      | '-' :: digits => afterDigits? digits
      | digits => afterDigits? digits
    else some (c :: rest)

/-- The text behind a number without a sign. -/
def afterNumber? (t : Text) : Option Text :=
  ((afterWhole? t).bind afterFraction?).bind afterExponent?

/-- Digits take at least one character. -/
theorem length_afterDigits?_lt {t rest : Text} (taken : afterDigits? t = some rest) :
    rest.length < t.length := by
  unfold afterDigits? at taken
  split at taken
  · cases taken
  · rename_i c others
    split at taken
    · cases taken
      have shorter := (List.dropWhile_sublist Text.isDigit (l := others)).length_le
      simp only [List.length_cons]
      omega
    · cases taken

/-- The whole part takes at least one character. -/
theorem length_afterWhole?_lt {t rest : Text} (taken : afterWhole? t = some rest) :
    rest.length < t.length := by
  unfold afterWhole? at taken
  split at taken
  · cases taken
    simp
  · exact length_afterDigits?_lt taken

/-- A fraction does not make the text longer. -/
theorem length_afterFraction?_le {t rest : Text} (taken : afterFraction? t = some rest) :
    rest.length ≤ t.length := by
  unfold afterFraction? at taken
  split at taken
  · have shorter := length_afterDigits?_lt taken
    simp only [List.length_cons]
    omega
  · cases taken
    exact Nat.le_refl _

/-- An exponent does not make the text longer. -/
theorem length_afterExponent?_le {t rest : Text} (taken : afterExponent? t = some rest) :
    rest.length ≤ t.length := by
  unfold afterExponent? at taken
  split at taken
  · cases taken
    exact Nat.le_refl _
  · split at taken
    · split at taken <;>
      · have shorter := length_afterDigits?_lt taken
        simp only [List.length_cons]
        omega
    · cases taken
      exact Nat.le_refl _

/-- A number takes at least one character. -/
theorem length_afterNumber?_lt {t rest : Text} (taken : afterNumber? t = some rest) :
    rest.length < t.length := by
  unfold afterNumber? at taken
  obtain ⟨second, before, exponent⟩ := Option.bind_eq_some_iff.1 taken
  obtain ⟨first, whole, fraction⟩ := Option.bind_eq_some_iff.1 before
  have first := length_afterWhole?_lt whole
  have second := length_afterFraction?_le fraction
  have third := length_afterExponent?_le exponent
  omega

/-- The token that begins with a character, and the text behind it. -/
def token? (c : Char) (t : Text) : Option (Token × Text) :=
  match c, t with
  | '[', rest => some (.openArray, rest)
  | ']', rest => some (.closeArray, rest)
  | '\x7b', rest => some (.openObject, rest)
  | '\x7d', rest => some (.closeObject, rest)
  | ',', rest => some (.comma, rest)
  | ':', rest => some (.colon, rest)
  | '"', rest =>
    (stringUnits? rest).map fun (units, rest) => (.text (joinUnits? units), rest)
  | 'n', 'u' :: 'l' :: 'l' :: rest => some (.word, rest)
  | 't', 'r' :: 'u' :: 'e' :: rest => some (.word, rest)
  | 'f', 'a' :: 'l' :: 's' :: 'e' :: rest => some (.word, rest)
  | '-', rest => (afterNumber? rest).map (Token.number, ·)
  | c, rest => (afterNumber? (c :: rest)).map (Token.number, ·)

/-- What follows a token is no longer than what follows its first character. -/
theorem length_token?_le {c : Char} {t rest : Text} {found : Token}
    (taken : token? c t = some (found, rest)) : rest.length ≤ t.length := by
  unfold token? at taken
  split at taken
  case h_7 =>
    obtain ⟨⟨units, rest'⟩, remaining, same⟩ := Option.map_eq_some_iff.1 taken
    cases same
    exact Nat.le_of_lt (length_stringUnits?_lt remaining)
  case h_11 =>
    obtain ⟨rest', remaining, same⟩ := Option.map_eq_some_iff.1 taken
    cases same
    exact Nat.le_of_lt (length_afterNumber?_lt remaining)
  case h_12 =>
    obtain ⟨rest', remaining, same⟩ := Option.map_eq_some_iff.1 taken
    cases same
    have shorter := length_afterNumber?_lt remaining
    simp only [List.length_cons] at shorter
    omega
  all_goals
    cases taken
    grind

/-- The tokens of a text. -/
def tokens? : Text → Option (List Token)
  | [] => some []
  | c :: t =>
    if isBlank c then tokens? t
    else
      match taken : token? c t with
      | none => none
      | some (found, rest) =>
        have _shorter := length_token?_le taken
        (tokens? rest).map (found :: ·)
termination_by t => t.length

end InputDeck.Json
