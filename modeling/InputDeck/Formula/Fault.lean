import InputDeck.Text.Quoted
import InputDeck.Value.Basic

/-!
# Tokens and faults of formulas

A formula is a row of tokens: numbers, names, operators and the punctuation of calls. A fault
says why a formula could not be read, an evaluation error why it has no value. Both are causes;
their wording is in one function each.
-/

namespace InputDeck.Formula

/-- The smallest parts of a formula. -/
inductive Token where
  | whole (n : Int64)
  | real (x : Float)
  | name (t : Text)
  | plus
  | minus
  | star
  | slash
  | caret
  | comma
  | openParen
  | closeParen

/-- How a message shows a token. -/
def Token.describe : Token → String
  | whole n => "Int(" ++ String.ofList (renderInt n.toInt) ++ ")"
  | real x => "Float(" ++ String.ofList (renderTokenReal x) ++ ")"
  | name t => "Ident(" ++ String.ofList (Text.quoted t) ++ ")"
  | plus => "Plus"
  | minus => "Minus"
  | star => "Star"
  | slash => "Slash"
  | caret => "Caret"
  | comma => "Comma"
  | openParen => "LParen"
  | closeParen => "RParen"

/-- Why a formula cannot be read. -/
inductive Fault where
  | unexpectedCharacter (c : Char)
  /-- The formula ends where an operand should begin. -/
  | unexpectedEnd
  /-- An operand cannot begin with this token. -/
  | unexpectedToken (token : Token)
  /-- The formula should have ended before this token. -/
  | trailingToken (token : Token)
  /-- A parenthesis is not closed. -/
  | unclosedParen
  /-- The arguments of this function are not closed. -/
  | unclosedArguments (function : Text)
  | unknownFunction (function : Text)
  | wrongArity (function : Text) (expected given : Nat)

/-- What a fault reads like. -/
def Fault.message : Fault → String
  | unexpectedCharacter c => "unexpected character '" ++ c.toString ++ "'"
  | unexpectedEnd => "unexpected end of formula"
  | unexpectedToken token => "unexpected token " ++ token.describe
  | trailingToken token => "unexpected trailing " ++ token.describe
  | unclosedParen => "expected ')'"
  | unclosedArguments function =>
    "expected ')' after arguments to " ++ String.ofList function
  | unknownFunction function => "unknown function '" ++ String.ofList function ++ "'"
  | wrongArity function expected given =>
    String.ofList function ++ "() takes " ++ String.ofList (renderNat expected)
      ++ " argument(s), got " ++ String.ofList (renderNat given)

/-- Why a calculation has no finite result. -/
inductive ArithmeticError where
  | divisionByZero
  /-- A part of the formula has this value, an infinity or NaN. -/
  | nonFiniteResult (v : Value)
  /-- A variable stands for this value, an infinity or NaN. -/
  | nonFiniteBinding (name : Text) (v : Value)
deriving DecidableEq

/-- What an arithmetic error reads like. -/
def ArithmeticError.message : ArithmeticError → String
  | divisionByZero => "division by zero"
  | nonFiniteResult v => "non-finite result " ++ String.ofList v.render
  | nonFiniteBinding name v =>
    "'" ++ String.ofList name ++ "' is bound to non-finite value " ++ String.ofList v.render

/-- Why a formula has no value. -/
inductive EvalError where
  | malformed (fault : Fault)
  | unbound (name : Text)
  | arithmetic (cause : ArithmeticError)
  /-- A name stands for text that looks like no number. -/
  | nonNumeric (name content : Text)

/-- What an evaluation error reads like. -/
def EvalError.message : EvalError → String
  | malformed fault => "syntax error: " ++ fault.message
  | unbound name => "unbound reference '" ++ String.ofList name ++ "'"
  | arithmetic cause => "arithmetic error: " ++ cause.message
  | nonNumeric name content =>
    "'" ++ String.ofList name ++ "' is bound to non-numeric value "
      ++ String.ofList (Text.quoted content)

end InputDeck.Formula
