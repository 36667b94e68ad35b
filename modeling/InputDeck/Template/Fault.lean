import InputDeck.Formula.Parser
import InputDeck.Template.Domain

/-!
# What can be wrong with a deck

A marker can be malformed, a variable declared in two ways that do not go together, a variable
left without a value, and a formula wrong in itself. Each error carries what its message has to
name.
-/

namespace InputDeck

/-- Why an interval cannot be read. -/
inductive RangeFault where
  /-- Neither two nor three parts stand between the brackets. -/
  | wrongCount (content : Text)
  | notNumber (part : Text)
  | reversed (low high : Float)
  | presetOutside (preset low high : Float)
deriving DecidableEq

/-- What a fault of an interval reads like. -/
def RangeFault.message : RangeFault → String
  | wrongCount content =>
    "expected [min,max] or [min,max,default], got [" ++ String.ofList content ++ "]"
  | notNumber part => "'" ++ String.ofList part ++ "' is not a number"
  | reversed low high =>
    "min " ++ String.ofList (renderPlain low) ++ " is greater than max "
      ++ String.ofList (renderPlain high)
  | presetOutside preset low high =>
    "default " ++ String.ofList (renderPlain preset) ++ " lies outside ["
      ++ String.ofList (renderPlain low) ++ ", " ++ String.ofList (renderPlain high) ++ "]"

/-- Why a marker is malformed. -/
inductive MarkerFault where
  /-- The line ends before this closing delimiter. -/
  | unterminated (close : Char)
  | nestedFormula
  | emptyFormula
  | emptyName
  | emptyDomain (name : Text)
  /-- A marker begins inside the declaration of this variable. -/
  | nestedMarker (name : Text)
  | badRange (name : Text) (fault : RangeFault)
  /-- A set has a blank element. -/
  | badSet (name : Text)
deriving DecidableEq

/-- What a fault of a marker reads like. -/
def MarkerFault.message : MarkerFault → String
  | unterminated close => "unterminated marker: missing '" ++ close.toString ++ "'"
  | nestedFormula => "formula nested inside another formula"
  | emptyFormula => "empty formula"
  | emptyName => "empty variable name"
  | emptyDomain name => "empty domain after '~' for '" ++ String.ofList name ++ "'"
  | nestedMarker name =>
    "marker nested inside the declaration of '" ++ String.ofList name ++ "'"
  | badRange name fault => "bad range for '" ++ String.ofList name ++ "': " ++ fault.message
  | badSet name => "bad set for '" ++ String.ofList name ++ "': empty element"

/-- Why a deck cannot be read or compiled. -/
inductive TemplateError where
  | malformedMarker (line column : Nat) (fault : MarkerFault)
  /-- On this line a variable is declared in another way than before. -/
  | inconsistentDomain (name : Text) (first later : DomainKind) (line : Nat)
  | unresolved (name : Text)
  | formula (expression : Text) (line : Nat) (cause : Formula.EvalError)
deriving DecidableEq

/-- What an error of a deck reads like. -/
def TemplateError.message : TemplateError → String
  | malformedMarker line column fault =>
    "line " ++ String.ofList (renderNat line) ++ ", column " ++ String.ofList (renderNat column)
      ++ ": malformed marker: " ++ fault.message
  | inconsistentDomain name first later line =>
    "line " ++ String.ofList (renderNat line) ++ ": variable '" ++ String.ofList name
      ++ "' redeclared as " ++ later.name ++ ", first declared as " ++ first.name
  | unresolved name => "unresolved variable '" ++ String.ofList name ++ "'"
  | formula expression line cause =>
    "line " ++ String.ofList (renderNat line) ++ ": formula '" ++ String.ofList expression
      ++ "': " ++ cause.message

end InputDeck
