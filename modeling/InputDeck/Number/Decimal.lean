import InputDeck.Text.Basic

/-!
# Decimal numbers as written

A decimal is a natural number and a power of ten. A numeral is the text of one: digits, a point
with further digits, and an exponent, of which only some digits are required. `Numeral.scan`
takes the longest numeral a text begins with; an exponent letter without digits after it is not
part of it. Reading a whole text as a number is scanning it with nothing left over.
-/

namespace InputDeck

/-- The number `digits * 10 ^ exponent`. -/
structure Decimal where
  digits : Nat
  exponent : Int
deriving DecidableEq

namespace Decimal

/-- The binary number nearest to the decimal, an even mantissa deciding between two. -/
def toFloat (d : Decimal) : Float :=
  Float.ofScientific d.digits (decide (d.exponent < 0)) d.exponent.natAbs

end Decimal

/-- The value of a row of digits. -/
def digitsValue (digits : Text) : Nat := Nat.ofDigitChars 10 digits 0

/-- The digits a text begins with, and the rest. -/
def spanDigits : Text → Text × Text := Text.spanWhile Text.isDigit

/-- The text of a decimal number, taken apart. -/
structure Numeral where
  whole : Text
  /-- The digits after the point, if there is a point. -/
  fraction : Option Text
  /-- The exponent, if there is one. -/
  exponent : Option Int

namespace Numeral

/-- An optional sign, as the factor it stands for. -/
def scanSign : Text → Bool × Text
  | '-' :: rest => (true, rest)
  | '+' :: rest => (false, rest)
  | rest => (false, rest)

/-- The exponent at the beginning of a text: a letter, an optional sign and digits. -/
def scanExponent : Text → Option (Int × Text)
  | [] => none
  | c :: rest =>
    if c = 'e' ∨ c = 'E' then
      let (negative, unsigned) := scanSign rest
      let (digits, rest) := spanDigits unsigned
      if digits = [] then none
      else some (if negative then -(digitsValue digits : Int) else digitsValue digits, rest)
    else none

/-- The point and the digits after it, at the beginning of a text. -/
def scanFraction : Text → Option Text × Text
  | '.' :: rest => let (digits, rest) := spanDigits rest; (some digits, rest)
  | rest => (none, rest)

/-- The longest numeral a text begins with, and the rest. -/
def scan (t : Text) : Numeral × Text :=
  let (whole, t) := spanDigits t
  let (fraction, t) := scanFraction t
  match scanExponent t with
  | some (exponent, t) => (⟨whole, fraction, some exponent⟩, t)
  | none => (⟨whole, fraction, none⟩, t)

/-- A numeral names a number only if it has a digit before its exponent. -/
def hasDigits (n : Numeral) : Bool := !(n.whole.isEmpty && (n.fraction.getD []).isEmpty)

/-- Digits alone, without a point and without an exponent. -/
def isWhole (n : Numeral) : Bool := n.fraction.isNone && n.exponent.isNone

/-- The number a numeral names. -/
def toDecimal (n : Numeral) : Decimal :=
  let fraction := n.fraction.getD []
  ⟨digitsValue (n.whole ++ fraction), n.exponent.getD 0 - fraction.length⟩

end Numeral

/-- The number a whole text names: an optional sign and a numeral. -/
def readReal? (t : Text) : Option Float :=
  let (negative, unsigned) := Numeral.scanSign t
  let (numeral, rest) := Numeral.scan unsigned
  if rest = [] ∧ numeral.hasDigits then
    let magnitude := numeral.toDecimal.toFloat
    some (if negative then -magnitude else magnitude)
  else none

end InputDeck
