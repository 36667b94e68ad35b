import InputDeck.Value.Arithmetic
import InputDeck.Formula.Fault
import InputDeck.Formula.Parser

/-!
# The value of a formula

Names are looked up in bindings, which may be layered. Text that looks like a number stands in
for it; other text is no operand. Every part of a formula has to have a finite value, so an
infinity or NaN is reported where it arises first. Arguments are evaluated before the function is
looked at, from the left.
-/

namespace InputDeck

/-- The value that each name stands for, if it stands for one. -/
abbrev Bindings := Text → Option Value

namespace Bindings

/-- No name stands for anything. -/
def none : Bindings := fun _ => Option.none

/-- The bindings in a list of pairs; the first pair of a name counts. -/
def ofList (pairs : List (Text × Value)) : Bindings := fun name => pairs.lookup name

/-- The first layer, and the second for names the first does not bind. -/
def layered (first second : Bindings) : Bindings := fun name => (first name).or (second name)

end Bindings

namespace Formula

/-- A value, unless it is an infinity or NaN. -/
def finite (v : Value) : Except EvalError Value :=
  if v.isNonFinite then .error (.arithmetic (.nonFiniteResult v)) else .ok v

/-- The number that a name stands for. -/
def lookUp (bindings : Bindings) (name : Text) : Except EvalError Value :=
  match bindings name with
  | none => .error (.unbound name)
  | some bound =>
    match bound.toNumeric? with
    | none => .error (.nonNumeric name bound.render)
    | some v => .ok v

/-- The result of an operation. -/
def apply (operator : Operator) (left right : Value) : Except EvalError Value :=
  match operator with
  | .add => .ok (left.add right)
  | .sub => .ok (left.sub right)
  | .mul => .ok (left.mul right)
  | .div =>
    match left.div? right with
    | none => .error (.arithmetic .divisionByZero)
    | some quotient => .ok quotient
  | .pow => .ok (left.pow right)

/-- The absolute value, a whole number if the operand is one and it fits a word. -/
def absolute : Value → Value
  | .int n =>
    match wordOfInt? n.toInt.natAbs with
    | some result => .int result
    | none => .real (Float.ofInt n.toInt).abs
  | v => .real v.operand.abs

/-- The functions on real numbers. -/
def realFunctions : List (String × (Float → Float)) :=
  [("sqrt", Float.sqrt), ("exp", Float.exp), ("ln", Float.log), ("log", Float.log),
   ("log10", Float.log10), ("sin", Float.sin), ("cos", Float.cos), ("tan", Float.tan)]

/-- The result of a function of one argument. -/
def callUnary (function : Text) (argument : Value) : Except EvalError Value :=
  if function = "abs".toList then .ok (absolute argument)
  else
    match realFunctions.find? (·.1.toList == function) with
    | some (_, f) => .ok (.real (f argument.operand))
    | none => .error (.malformed (.unknownFunction function))

/-- The result of a function of two arguments. The lesser and the greater one are found by
comparison as real numbers, the first argument winning when they are equal. -/
def callBinary (function : Text) (first second : Value) : Except EvalError Value :=
  if function = "min".toList then
    .ok (if first.operand ≤ second.operand then first else second)
  else if function = "max".toList then
    .ok (if first.operand ≥ second.operand then first else second)
  else if function = "pow".toList then .ok (first.pow second)
  else .error (.malformed (.unknownFunction function))

/-- The result of a function. -/
def applyFunction (function : Text) (arguments : List Value) : Except EvalError Value :=
  match arity? function with
  | none => .error (.malformed (.unknownFunction function))
  | some expected =>
    match expected, arguments with
    | 1, [argument] => callUnary function argument
    | 2, [first, second] => callBinary function first second
    | expected, arguments => .error (.malformed (.wrongArity function expected arguments.length))

mutual

/-- The value of a formula tree. -/
def Expr.eval (bindings : Bindings) : Expr → Except EvalError Value
  | .literal v => finite v
  | .reference name =>
    match lookUp bindings name with
    | .error cause => .error cause
    | .ok v => finite v
  | .neg operand =>
    match operand.eval bindings with
    | .error cause => .error cause
    | .ok v => finite v.neg
  | .binary operator left right =>
    match left.eval bindings with
    | .error cause => .error cause
    | .ok leftValue =>
      match right.eval bindings with
      | .error cause => .error cause
      | .ok rightValue =>
        match apply operator leftValue rightValue with
        | .error cause => .error cause
        | .ok v => finite v
  | .call function arguments =>
    match evalArguments bindings arguments with
    | .error cause => .error cause
    | .ok values =>
      match applyFunction function values with
      | .error cause => .error cause
      | .ok v => finite v

/-- The values of a row of arguments. -/
def evalArguments (bindings : Bindings) : List Expr → Except EvalError (List Value)
  | [] => .ok []
  | first :: rest =>
    match first.eval bindings with
    | .error cause => .error cause
    | .ok v =>
      match evalArguments bindings rest with
      | .error cause => .error cause
      | .ok values => .ok (v :: values)

end

/-- The value of a formula. -/
def evaluate (t : Text) (bindings : Bindings) : Except EvalError Value :=
  match parse t with
  | .error fault => .error (.malformed fault)
  | .ok e => e.eval bindings

end Formula

end InputDeck
