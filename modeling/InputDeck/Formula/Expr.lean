import InputDeck.Value.Basic

/-!
# Formula trees

A formula is a tree of literals, names, opposites, operations and calls. The names a formula
refers to are listed once each, in the order in which they first appear. A function has a fixed
number of arguments.
-/

namespace InputDeck.Formula

/-- The operations on two operands. -/
inductive Operator where
  | add
  | sub
  | mul
  | div
  | pow
deriving DecidableEq

/-- The tree of a formula. -/
inductive Expr where
  | literal (v : Value)
  | reference (name : Text)
  | neg (operand : Expr)
  | binary (operator : Operator) (left right : Expr)
  | call (function : Text) (arguments : List Expr)

mutual

/-- Decides whether two trees are the same. -/
def Expr.decEq : (e other : Expr) → Decidable (e = other)
  | .literal v, .literal w => decidable_of_iff (v = w) (by simp)
  | .reference name, .reference name' => decidable_of_iff (name = name') (by simp)
  | .neg operand, .neg operand' =>
    have := operand.decEq operand'
    decidable_of_iff (operand = operand') (by simp)
  | .binary operator left right, .binary operator' left' right' =>
    have := left.decEq left'
    have := right.decEq right'
    decidable_of_iff (operator = operator' ∧ left = left' ∧ right = right') (by simp)
  | .call function arguments, .call function' arguments' =>
    have := decEqArguments arguments arguments'
    decidable_of_iff (function = function' ∧ arguments = arguments') (by simp)
  | .literal _, .reference _ | .literal _, .neg _ | .literal _, .binary .. | .literal _, .call ..
  | .reference _, .literal _ | .reference _, .neg _ | .reference _, .binary ..
  | .reference _, .call .. | .neg _, .literal _ | .neg _, .reference _ | .neg _, .binary ..
  | .neg _, .call .. | .binary .., .literal _ | .binary .., .reference _ | .binary .., .neg _
  | .binary .., .call .. | .call .., .literal _ | .call .., .reference _ | .call .., .neg _
  | .call .., .binary .. => isFalse nofun

/-- Decides whether two rows of arguments are the same. -/
def decEqArguments : (arguments other : List Expr) → Decidable (arguments = other)
  | [], [] => isTrue rfl
  | first :: rest, first' :: rest' =>
    have := first.decEq first'
    have := decEqArguments rest rest'
    decidable_of_iff (first = first' ∧ rest = rest') (by simp)
  | [], _ :: _ | _ :: _, [] => isFalse nofun

end

instance : DecidableEq Expr := Expr.decEq

mutual

/-- The names in a formula, as often as they appear. -/
def Expr.names : Expr → List Text
  | .literal _ => []
  | .reference name => [name]
  | .neg operand => operand.names
  | .binary _ left right => left.names ++ right.names
  | .call _ arguments => argumentNames arguments

/-- The names in a row of arguments, as often as they appear. -/
def argumentNames : List Expr → List Text
  | [] => []
  | first :: rest => first.names ++ argumentNames rest

end

/-- The names in a formula, once each, in order of first appearance. -/
def Expr.references (e : Expr) : List Text := e.names.eraseDups

/-- The functions of one argument. -/
def unaryFunctions : List String :=
  ["abs", "sqrt", "exp", "ln", "log", "log10", "sin", "cos", "tan"]

/-- The functions of two arguments. -/
def binaryFunctions : List String := ["min", "max", "pow"]

/-- The number of arguments a function takes, if there is such a function. -/
def arity? (function : Text) : Option Nat :=
  if unaryFunctions.any (·.toList == function) then some 1
  else if binaryFunctions.any (·.toList == function) then some 2
  else none

end InputDeck.Formula
