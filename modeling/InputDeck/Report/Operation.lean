import InputDeck.Number.Word
import InputDeck.Pattern.Basic

/-!
# Operations of a pipeline

A pipeline narrows the reports of a run down to one value. It begins with a search for lines,
takes one of them, cuts, replaces and selects text, and may end with a number. Indices count from
zero; a negative one can be written and fails when the pipeline runs.
-/

namespace InputDeck

/-- A stage of a pipeline. -/
inductive Operation where
  /-- The lines with the pattern in the files with such names. -/
  | grep (pattern files : Text)
  /-- One line. -/
  | get (index : Int64)
  /-- One field between delimiters. -/
  | cut (delimiter : Text) (index : Int64)
  /-- Every occurrence of the old text written as the new. -/
  | replace (old new : Text)
  /-- The text between the first start and the next end. -/
  | substring (start stop : Text)
  /-- The number that the text is. -/
  | asNumeric
deriving DecidableEq

/-- The kinds of operation. -/
inductive Operator where
  | grep
  | get
  | cut
  | replace
  | substring
  | asNumeric
deriving DecidableEq

/-- How an operator is written. -/
def Operator.name : Operator → String
  | grep => "grep"
  | get => "get"
  | cut => "cut"
  | replace => "replace"
  | substring => "substring"
  | asNumeric => "asNumeric"

namespace Operation

/-- The operator of an operation. -/
def operator : Operation → Operator
  | grep .. => .grep
  | get _ => .get
  | cut .. => .cut
  | replace .. => .replace
  | substring .. => .substring
  | asNumeric => .asNumeric

/-- The arguments of an operation as they are written. -/
def renderArguments : Operation → Text
  | grep pattern files => Text.quoted pattern ++ [',', ' '] ++ Text.quoted files
  | get index => renderInt index.toInt
  | cut delimiter index => Text.quoted delimiter ++ [',', ' '] ++ renderInt index.toInt
  | replace old new => Text.quoted old ++ [',', ' '] ++ Text.quoted new
  | substring start stop => Text.quoted start ++ [',', ' '] ++ Text.quoted stop
  | asNumeric => []

/-- An operation as it is written. -/
def render (operation : Operation) : Text :=
  operation.operator.name.toList ++ '(' :: (operation.renderArguments ++ [')'])

end Operation

/-- The token between the stages of a pipeline where none is given. -/
def defaultChain : Text := ['|']

/-- A pipeline as it is written. -/
def renderPipeline (pipeline : List Operation) : Text :=
  Text.join [' ', '|', ' '] (pipeline.map Operation.render)

end InputDeck
