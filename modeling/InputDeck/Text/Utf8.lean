import InputDeck.Text.Basic

/-!
# Bytes and text

A file is a list of bytes, read as UTF-8 one byte at a time. Between bytes the reader is either
between two characters or inside one, and then it knows how many bytes are owed and which values
the next one may take. A byte that cannot follow ends the unfinished character as one fault and
is read again as a beginning, so a fault stands for the longest beginning of a character that
was there. Strict reading refuses a text with a fault; lenient reading puts the replacement
character in its place.
-/

namespace InputDeck.Text

/-- Where the reader stands between two bytes. -/
inductive ByteState where
  /-- Between two characters. -/
  | boundary
  /-- Inside a character: `owed` bytes are to come, the next of them between `low` and `high`,
  and `value` holds the bits so far. -/
  | inside (owed : Nat) (low high : UInt8) (value : Nat)

/-- What a byte between two characters begins: a character on its own, a longer one, or, with
`none` in the list, nothing at all. -/
def beginCharacter (byte : UInt8) : List (Option Char) × ByteState :=
  if byte ≤ 0x7F then ([some (Char.ofNat byte.toNat)], .boundary)
  else if 0xC2 ≤ byte && byte ≤ 0xDF then ([], .inside 1 0x80 0xBF (byte.toNat % 32))
  else if byte == 0xE0 then ([], .inside 2 0xA0 0xBF 0)
  else if byte == 0xED then ([], .inside 2 0x80 0x9F 13)
  else if 0xE1 ≤ byte && byte ≤ 0xEF then ([], .inside 2 0x80 0xBF (byte.toNat % 16))
  else if byte == 0xF0 then ([], .inside 3 0x90 0xBF 0)
  else if 0xF1 ≤ byte && byte ≤ 0xF3 then ([], .inside 3 0x80 0xBF (byte.toNat % 8))
  else if byte == 0xF4 then ([], .inside 3 0x80 0x8F 4)
  else ([none], .boundary)

/-- Reads bytes from a state; each `none` is a fault. -/
def readBytes : ByteState → List UInt8 → List (Option Char)
  | .boundary, [] => []
  | .inside .., [] => [none]
  | .boundary, byte :: rest =>
    let (found, state) := beginCharacter byte
    found ++ readBytes state rest
  | .inside owed low high value, byte :: rest =>
    if low ≤ byte && byte ≤ high then
      let value := value * 64 + byte.toNat % 64
      if owed ≤ 1 then some (Char.ofNat value) :: readBytes .boundary rest
      else readBytes (.inside (owed - 1) 0x80 0xBF value) rest
    else
      let (found, state) := beginCharacter byte
      none :: (found ++ readBytes state rest)

/-- The text that the bytes are, if they are UTF-8 throughout. -/
def ofBytes? (bytes : List UInt8) : Option Text := (readBytes .boundary bytes).mapM id

/-- The text of the bytes, with the replacement character for each fault. -/
def ofBytesLenient (bytes : List UInt8) : Text :=
  (readBytes .boundary bytes).map fun c => c.getD '\uFFFD'

/-- The bytes of a text. -/
def toBytes (t : Text) : List UInt8 := t.flatMap String.utf8EncodeChar

end InputDeck.Text
