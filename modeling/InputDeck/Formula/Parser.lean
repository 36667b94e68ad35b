import InputDeck.Formula.Expr
import InputDeck.Formula.Lexer

/-!
# From tokens to trees

A sum is a row of products joined by plus and minus, a product a row of signed operands joined by
times and divided by; both group to the left. A sign stands before a signed operand, or there is
a power: an operand on its own, or raised to a signed operand. So a power binds tighter than the
sign before it and looser than the sign in its exponent, and powers group to the right. An
operand is a number, a name, a call of a known function with its number of arguments, or a sum in
parentheses.

Each phrase takes at least one token. What is left after it carries the proof that it is shorter,
and so reading ends without a bound set in advance.
-/

namespace InputDeck.Formula

/-- What is left of a row of tokens after a phrase. -/
structure Rest (tokens : List Token) where
  list : List Token
  shorter : list.length < tokens.length

/-- A phrase at the beginning of a row of tokens, and what is left after it. -/
abbrev Reading (α : Type) (tokens : List Token) := Except Fault (α × Rest tokens)

/-- What is left after a later phrase is left after both. -/
def Rest.within {tokens later : List Token} (rest : Rest later)
    (bounded : later.length ≤ tokens.length) : Rest tokens :=
  ⟨rest.list, Nat.lt_of_lt_of_le rest.shorter bounded⟩

/-- The operator of a sum that a token stands for. -/
def sumOperator? : Token → Option Operator
  | .plus => some .add
  | .minus => some .sub
  | _ => none

/-- The operator of a product that a token stands for. -/
def productOperator? : Token → Option Operator
  | .star => some .mul
  | .slash => some .div
  | _ => none

/-- The call of a function, if there is such a function of as many arguments. -/
def checkedCall (function : Text) (arguments : List Expr) : Except Fault Expr :=
  match arity? function with
  | none => .error (.unknownFunction function)
  | some expected =>
    if expected = arguments.length then .ok (.call function arguments)
    else .error (.wrongArity function expected arguments.length)

mutual

/-- A sum. -/
def sum (tokens : List Token) : Reading Expr tokens :=
  match product tokens with
  | .error fault => .error fault
  | .ok (first, rest) =>
    have := rest.shorter
    sumTail first rest
termination_by 10 * tokens.length + 6

/-- The operators and products that follow a sum. -/
def sumTail {tokens : List Token} (left : Expr) (rest : Rest tokens) : Reading Expr tokens :=
  match remaining : rest.list with
  | [] => .ok (left, rest)
  | token :: after =>
    match sumOperator? token with
    | none => .ok (left, rest)
    | some operator =>
      have consumed : after.length < rest.list.length := by simp [remaining]
      have := rest.shorter
      match product after with
      | .error fault => .error fault
      | .ok (right, later) =>
        have := later.shorter
        sumTail (.binary operator left right) ⟨later.list, by omega⟩
termination_by 10 * rest.list.length + 7

/-- A product. -/
def product (tokens : List Token) : Reading Expr tokens :=
  match signed tokens with
  | .error fault => .error fault
  | .ok (first, rest) =>
    have := rest.shorter
    productTail first rest
termination_by 10 * tokens.length + 4

/-- The operators and signed operands that follow a product. -/
def productTail {tokens : List Token} (left : Expr) (rest : Rest tokens) : Reading Expr tokens :=
  match remaining : rest.list with
  | [] => .ok (left, rest)
  | token :: after =>
    match productOperator? token with
    | none => .ok (left, rest)
    | some operator =>
      have consumed : after.length < rest.list.length := by simp [remaining]
      have := rest.shorter
      match signed after with
      | .error fault => .error fault
      | .ok (right, later) =>
        have := later.shorter
        productTail (.binary operator left right) ⟨later.list, by omega⟩
termination_by 10 * rest.list.length + 5

/-- A power, or a sign and a signed operand. -/
def signed (tokens : List Token) : Reading Expr tokens :=
  match tokens with
  | .minus :: after =>
    match signed after with
    | .error fault => .error fault
    | .ok (operand, rest) => .ok (.neg operand, rest.within (by simp))
  | .plus :: after =>
    match signed after with
    | .error fault => .error fault
    | .ok (operand, rest) => .ok (operand, rest.within (by simp))
  | tokens => power tokens
termination_by 10 * tokens.length + 3

/-- An operand, raised to a signed operand if a caret follows. -/
def power (tokens : List Token) : Reading Expr tokens :=
  match operand tokens with
  | .error fault => .error fault
  | .ok (base, rest) =>
    have := rest.shorter
    match remaining : rest.list with
    | .caret :: after =>
      have consumed : after.length < rest.list.length := by simp [remaining]
      match signed after with
      | .error fault => .error fault
      | .ok (exponent, later) => .ok (.binary .pow base exponent, later.within (by omega))
    | _ => .ok (base, rest)
termination_by 10 * tokens.length + 2

/-- A number, a name, a call or a sum in parentheses. -/
def operand (tokens : List Token) : Reading Expr tokens :=
  match tokens with
  | [] => .error .unexpectedEnd
  | .whole n :: after => .ok (.literal (.int n), ⟨after, by simp⟩)
  | .real x :: after => .ok (.literal (.real x), ⟨after, by simp⟩)
  | .name function :: .openParen :: after =>
    match arguments function after with
    | .error fault => .error fault
    | .ok (arguments, rest) =>
      match checkedCall function arguments with
      | .error fault => .error fault
      | .ok call => .ok (call, rest.within (by simp; omega))
  | .name name :: after => .ok (.reference name, ⟨after, by simp⟩)
  | .openParen :: after =>
    match sum after with
    | .error fault => .error fault
    | .ok (inner, rest) =>
      have := rest.shorter
      match remaining : rest.list with
      | .closeParen :: later =>
        .ok (inner, ⟨later, by simp [remaining] at this; simp; omega⟩)
      | _ => .error .unclosedParen
  | token :: _ => .error (.unexpectedToken token)
termination_by 10 * tokens.length + 1

/-- The arguments of a call, with the parenthesis that closes them. -/
def arguments (function : Text) (tokens : List Token) : Reading (List Expr) tokens :=
  match tokens with
  | .closeParen :: after => .ok ([], ⟨after, by simp⟩)
  | tokens =>
    match sum tokens with
    | .error fault => .error fault
    | .ok (first, rest) =>
      have := rest.shorter
      argumentsTail function [first] rest
termination_by 10 * tokens.length + 8

/-- The commas and arguments that follow, with the parenthesis that closes them; the arguments
before are given in reverse. -/
def argumentsTail {tokens : List Token} (function : Text) (reversed : List Expr)
    (rest : Rest tokens) : Reading (List Expr) tokens :=
  match remaining : rest.list with
  | .comma :: after =>
    have consumed : after.length < rest.list.length := by simp [remaining]
    have := rest.shorter
    match sum after with
    | .error fault => .error fault
    | .ok (next, later) =>
      have := later.shorter
      argumentsTail function (next :: reversed) ⟨later.list, by omega⟩
  | .closeParen :: after =>
    have consumed : after.length < rest.list.length := by simp [remaining]
    have := rest.shorter
    .ok (reversed.reverse, ⟨after, by omega⟩)
  | _ => .error (.unclosedArguments function)
termination_by 10 * rest.list.length + 9

end

-- Not derived beside the types: with finitely many whole numbers it would be decided, for each
-- match above, that a token is none of them, by trying them all.
deriving instance DecidableEq for Token, Fault, EvalError

/-- The tree of a row of tokens, all of which it takes. -/
def ofTokens? (tokens : List Token) : Except Fault Expr :=
  match sum tokens with
  | .error fault => .error fault
  | .ok (e, rest) =>
    match rest.list with
    | [] => .ok e
    | token :: _ => .error (.trailingToken token)

/-- The tree of a formula. -/
def parse (t : Text) : Except Fault Expr :=
  match tokenize t with
  | .error fault => .error fault
  | .ok tokens => ofTokens? tokens

end InputDeck.Formula
