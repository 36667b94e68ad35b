import InputDeck.Number.Shortest
import InputDeck.Number.Word

/-!
# Notations for binary numbers

A number is written with the fewest digits that name it, in one of three notations: plain, with
a point only if there are digits after it; pointed, with at least one digit after the point; and
scientific, with one digit before the point and an exponent. A sign is written for every negative
number, zero included. NaN has no sign and no digits, and an infinity has no digits.
-/

namespace InputDeck

namespace Decimal

/-- The digits before and the digits after the decimal point. -/
def split (d : Decimal) : Text × Text :=
  let digits := renderNat d.digits
  if 0 ≤ d.exponent then (digits ++ List.replicate d.exponent.natAbs '0', [])
  else
    let places := d.exponent.natAbs
    if digits.length ≤ places then (['0'], List.replicate (places - digits.length) '0' ++ digits)
    else (digits.take (digits.length - places), digits.drop (digits.length - places))

/-- Digits, with a point only if some follow it. -/
def plain (d : Decimal) : Text :=
  let (whole, fraction) := d.split
  if fraction = [] then whole else whole ++ '.' :: fraction

/-- Digits on both sides of a point. -/
def pointed (d : Decimal) : Text :=
  let (whole, fraction) := d.split
  whole ++ '.' :: (if fraction = [] then ['0'] else fraction)

/-- One digit before the point, the others after it, and an exponent. -/
def scientific (d : Decimal) : Text :=
  let digits := renderNat d.digits
  let exponent := d.exponent + digits.length - 1
  let fraction := digits.drop 1
  digits.take 1 ++ (if fraction = [] then [] else '.' :: fraction) ++ 'e' :: renderInt exponent

end Decimal

/-- Whether the sign bit is set. -/
def isNegative (x : Float) : Bool := x.toBits >>> 63 == 1

/-- A number in the given notation. -/
def renderReal (layout : Decimal → Text) (x : Float) : Text :=
  if x.isNaN then ['N', 'a', 'N']
  else
    let magnitude := if x.isInf then ['i', 'n', 'f'] else layout (Decimal.shortest x)
    if isNegative x then '-' :: magnitude else magnitude

/-- Plain notation, as messages about ranges have it. -/
def renderPlain : Float → Text := renderReal Decimal.plain

/-- Whether a number is an integer. Neither NaN nor an infinity is one. -/
def isIntegral (x : Float) : Bool := x.isFinite && (Binary.ofFloat x).isIntegral

/-- How a deck writes a real number. An integral one keeps a point below 10^15 and an exponent
from there on, so that whoever reads the deck still takes it for a real number. -/
def renderDeckReal (x : Float) : Text :=
  if !isIntegral x then renderReal Decimal.plain x
  else if x.abs < 1e15 then renderReal Decimal.pointed x
  else renderReal Decimal.scientific x

/-- How a message about a formula writes a real number: with a point, and with an exponent below
10^-4 and from 10^16 on. -/
def renderTokenReal (x : Float) : Text :=
  if (x != 0 && x.abs < 1e-4) || x.abs ≥ 1e16 then renderReal Decimal.scientific x
  else renderReal Decimal.pointed x

end InputDeck
