import InputDeck.Number.Notation

/-!
# Values

A value is bound to a variable of a deck, calculated by a formula or taken from a report. It is
a whole number, a real number or text. The distinction between whole and real numbers is that of
the text a number was read from, so `8` goes back into a deck as `8` and `8.5` as `8.5`.

Text that looks like a number can stand in for one. It looks like a number if, white space at
its ends aside, it consists of digits, signs, points and the exponent letters `e` and `E`, and
has a digit; so words such as `nan` and `inf` are text.
-/

namespace InputDeck

/-- A whole number, a real number or text. -/
inductive Value where
  | int (n : Int64)
  | real (x : Float)
  | text (t : Text)
deriving DecidableEq

namespace Value

/-- The value of what nothing else is known of. -/
instance : Inhabited Value := ⟨.int 0⟩

/-- How a deck, a label or a message writes the value. -/
def render : Value → Text
  | int n => renderInt n.toInt
  | real x => renderDeckReal x
  | text t => t

/-- Digits, signs, points and exponent letters, with a digit among them. -/
def looksNumeric (t : Text) : Bool :=
  t.any Text.isDigit
    && t.all fun c => Text.isDigit c || c == '+' || c == '-' || c == '.' || c == 'e' || c == 'E'

/-- The value that deck text stands for: a whole number if it reads as one, else a real number
if it reads as one, else the text as it is, white space included. -/
def ofLiteral (t : Text) : Value :=
  let trimmed := Text.trim t
  if looksNumeric trimmed then
    match readWord? trimmed with
    | some n => int n
    | none =>
      match readReal? trimmed with
      | some x => real x
      | none => text t
  else text t

/-- The number that the value is or, if it is text, looks like. -/
def toNumeric? : Value → Option Value
  | text t =>
    match ofLiteral t with
    | text _ => none
    | number => some number
  | number => some number

/-- The value as a real number. A whole number of more than 53 bits goes to the nearest one. -/
def toReal? : Value → Option Float
  | int n => some (Float.ofInt n.toInt)
  | real x => some x
  | text t =>
    match ofLiteral t with
    | int n => some (Float.ofInt n.toInt)
    | real x => some x
    | text _ => none

/-- Whether the value can stand in for a number. -/
def isNumeric (v : Value) : Bool := v.toReal?.isSome

/-- Whether the value is NaN or an infinity. -/
def isNonFinite : Value → Bool
  | real x => !x.isFinite
  | _ => false

/-- The name of the kind of value. -/
def kindName : Value → String
  | int _ => "integer"
  | real _ => "real"
  | text _ => "string"

/-- Values of one kind with equal content. Real numbers are compared as numbers, so NaN differs
from itself and the two zeros are equal. -/
def same : Value → Value → Bool
  | int m, int n => m == n
  | real x, real y => x == y
  | text s, text t => s == t
  | _, _ => false

end Value

end InputDeck
