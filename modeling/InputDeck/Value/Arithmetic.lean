import InputDeck.Value.Basic

/-!
# Arithmetic on values

Sums, differences, products, powers and opposites of whole numbers are whole numbers as long as
they are words of 64 bits, and real numbers otherwise; a wrapped word never arises. Quotients
are always real numbers. As an operand, text that looks like no number counts as zero, and text
that looks like one makes the result a real number.
-/

namespace InputDeck.Value

/-- The real number an operand counts as. -/
def operand (v : Value) : Float := v.toReal?.getD 0

/-- A calculation that is exact on two whole numbers where it has a word for result, and is done
on real numbers otherwise. -/
def calculate (exact : Int64 → Int64 → Option Int64) (rounded : Float → Float → Float)
    (left right : Value) : Value :=
  match left, right with
  | int m, int n =>
    match exact m n with
    | some result => int result
    | none => real (rounded left.operand right.operand)
  | _, _ => real (rounded left.operand right.operand)

/-- The sum. -/
def add : Value → Value → Value :=
  calculate (fun m n => wordOfInt? (m.toInt + n.toInt)) (· + ·)

/-- The difference. -/
def sub : Value → Value → Value :=
  calculate (fun m n => wordOfInt? (m.toInt - n.toInt)) (· - ·)

/-- The product. -/
def mul : Value → Value → Value :=
  calculate (fun m n => wordOfInt? (m.toInt * n.toInt)) (· * ·)

/-- The quotient as a real number; there is none by zero of either sign. -/
def div? (left right : Value) : Option Value :=
  if right.operand == 0 then none else some (real (left.operand / right.operand))

/-- The power. A whole number stays one for a whole exponent that is an unsigned word of 32 bits
if the result is a word. -/
def pow : Value → Value → Value :=
  calculate
    (fun m n =>
      if 0 ≤ n.toInt ∧ n.toInt.natAbs < UInt32.size then wordPower? 1 m n.toInt.natAbs else none)
    Float.pow

/-- The opposite. The least word has no opposite among the words. -/
def neg : Value → Value
  | int n =>
    match wordOfInt? (-n.toInt) with
    | some result => int result
    | none => real (-(Float.ofInt n.toInt))
  | v => real (-v.operand)

end InputDeck.Value
