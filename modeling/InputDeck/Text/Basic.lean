/-!
# Text

Deck, formula and report text is a list of characters, so that every scan is recursion on the
text itself and a position is the text that remains. Callers see positions in two units: an
offset counts UTF-8 bytes and a column counts characters. Byte length is a sum over the
characters, hence additive, and a sum of lengths of leading pieces always falls between two
characters.

White space is the Unicode property of that name, 25 characters in all.
-/

namespace InputDeck

/-- Text is a list of characters. -/
abbrev Text := List Char

namespace Text

/-- The number of bytes the text takes in UTF-8. -/
def byteLength : Text → Nat
  | [] => 0
  | c :: rest => c.utf8Size + byteLength rest

/-- Byte length is additive. -/
theorem byteLength_append (first second : Text) :
    byteLength (first ++ second) = byteLength first + byteLength second := by
  induction first with
  | nil => simp [byteLength]
  | cons c rest inductionHypothesis =>
    simp only [List.cons_append, byteLength, inductionHypothesis, Nat.add_assoc]

/-- The characters with the Unicode property of white space. -/
def isBlank (c : Char) : Bool :=
  let code := c.toNat
  (9 ≤ code && code ≤ 13) || code == 0x20 || code == 0x85 || code == 0xA0 || code == 0x1680
    || (0x2000 ≤ code && code ≤ 0x200A) || code == 0x2028 || code == 0x2029 || code == 0x202F
    || code == 0x205F || code == 0x3000

/-- The text without its longest end of characters in the class. -/
def dropEndWhile (inClass : Char → Bool) : Text → Text
  | [] => []
  | c :: rest =>
    match dropEndWhile inClass rest with
    | [] => if inClass c then [] else [c]
    | kept => c :: kept

/-- The text without leading white space. -/
def trimStart (t : Text) : Text := t.dropWhile isBlank

/-- The text without white space at either end. -/
def trim (t : Text) : Text := dropEndWhile isBlank (trimStart t)

/-- The longest beginning of characters in the class, and the rest. -/
def spanWhile (inClass : Char → Bool) (t : Text) : Text × Text :=
  (t.takeWhile inClass, t.dropWhile inClass)

/-- What is left after a span is no longer than the text. -/
theorem length_spanWhile_le (inClass : Char → Bool) (t : Text) :
    (spanWhile inClass t).2.length ≤ t.length :=
  (List.dropWhile_sublist inClass).length_le

/-- The characters 0 to 9, and no other decimal digit. -/
def isDigit (c : Char) : Bool := '0' ≤ c && c ≤ '9'

/-- The letters A to Z and a to z. -/
def isLetter (c : Char) : Bool := ('A' ≤ c && c ≤ 'Z') || ('a' ≤ c && c ≤ 'z')

/-- The value of a hexadecimal digit, whose letters may be small or capital. -/
def hexDigit? (c : Char) : Option Nat :=
  if isDigit c then some (c.toNat - '0'.toNat)
  else if 'a' ≤ c ∧ c ≤ 'f' then some (c.toNat - 'a'.toNat + 10)
  else if 'A' ≤ c ∧ c ≤ 'F' then some (c.toNat - 'A'.toNat + 10)
  else none

/-- The small letter of a capital A to Z; every other character is its own. -/
def lowerAscii (c : Char) : Char := if 'A' ≤ c ∧ c ≤ 'Z' then Char.ofNat (c.toNat + 32) else c

/-- Equality up to the case of the letters A to Z. -/
def sameIgnoringCase (s t : Text) : Bool := s.map lowerAscii == t.map lowerAscii

/-- Text joined with a separator between neighbours. -/
def join (separator : Text) : List Text → Text
  | [] => []
  | [only] => only
  | first :: second :: rest => first ++ separator ++ join separator (second :: rest)

end Text

end InputDeck
