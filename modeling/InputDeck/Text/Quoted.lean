import InputDeck.Text.Basic
import InputDeck.Text.Printable

/-!
# Quoted text

Text is quoted between double quotes in messages and in written pipelines. A backslash and a
letter stand for the tabulator, the line feed, the carriage return and the null character; a
backslash stands before a quote and before a backslash; and a character that cannot be shown, or
would be drawn together with the one before it, is written as its code point. Single quotes are
left alone.
-/

namespace InputDeck.Text

/-- The code point in braces, in the fewest hexadecimal digits. -/
def escapedCode (c : Char) : Text :=
  ['\\', 'u', '\x7b'] ++ Nat.toDigits 16 c.toNat ++ ['\x7d']

/-- How a character is written between double quotes. -/
def quotedChar (c : Char) : Text :=
  if c = '\x00' then ['\\', '0']
  else if c = '\t' then ['\\', 't']
  else if c = '\r' then ['\\', 'r']
  else if c = '\n' then ['\\', 'n']
  else if c = '"' then ['\\', '"']
  else if c = '\\' then ['\\', '\\']
  else if extendsGrapheme c then escapedCode c
  else if isPrintable c then [c]
  else escapedCode c

/-- The text between double quotes. -/
def quoted (t : Text) : Text := '"' :: (t.flatMap quotedChar ++ ['"'])

end InputDeck.Text
