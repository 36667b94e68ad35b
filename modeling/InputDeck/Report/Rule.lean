import InputDeck.Report.Operation

/-!
# Rules

A rule names an output and the pipeline that produces it. A pipeline is admitted if it begins with
its only search, the files of the search are a sound glob, and no delimiter and no text to replace
is empty; a rule carries the proof that its pipeline is. The check reports the first stage at
fault.
-/

namespace InputDeck

/-- What is wrong with a pipeline or its text. -/
inductive PipelineFault where
  | emptyPipeline
  | notSearchFirst (found : Operator)
  | searchNotFirst
  | badFileGlob (fault : GlobFault)
  | emptyDelimiter
  | emptyOldText
  | emptyChain
  /-- An opening parenthesis should stand where this character does, or where the text ends. -/
  | parenExpected (found : Option Char)
  | chainExpected (chain : Text)
  | operatorExpected
  | separatorExpected (found : Char)
  | unterminatedArguments
  | badInteger
  | unexpectedInArgument (found : Char)
  | missingArgument
  | unterminatedString
  | unknownOperator (name : Text)
  | wrongArity (name : Text) (expected given : Nat)
  /-- The argument of this description is no text. -/
  | textExpected (name : Text) (description : String)
  | indexExpected (name : Text)
deriving DecidableEq

/-- What a fault of a pipeline reads like. -/
def PipelineFault.message : PipelineFault → String
  | emptyPipeline => "empty pipeline"
  | notSearchFirst found => "pipeline must start with grep, not " ++ found.name
  | searchNotFirst => "grep may only be the first stage"
  | badFileGlob fault => "file glob: " ++ fault.message
  | emptyDelimiter => "cut delimiter is empty"
  | emptyOldText => "replace pattern is empty"
  | emptyChain => "empty chain token"
  | parenExpected (some found) => "expected '(', found '" ++ found.toString ++ "'"
  | parenExpected none => "expected '(', found end of pipeline"
  | chainExpected chain => "expected '" ++ String.ofList chain ++ "' between stages"
  | operatorExpected => "expected an operator name"
  | separatorExpected found => "expected ',' or ')', found '" ++ found.toString ++ "'"
  | unterminatedArguments => "unterminated argument list"
  | badInteger => "bad integer argument"
  | unexpectedInArgument found => "unexpected '" ++ found.toString ++ "' in argument"
  | missingArgument => "missing argument"
  | unterminatedString => "unterminated string"
  | unknownOperator name => "unknown operator '" ++ String.ofList name ++ "'"
  | wrongArity name expected given =>
    String.ofList name ++ "() takes " ++ String.ofList (renderNat expected)
      ++ " argument(s), got " ++ String.ofList (renderNat given)
  | textExpected name description =>
    String.ofList name ++ "(): " ++ description ++ " must be a string"
  | indexExpected name => String.ofList name ++ "(): index must be an integer"

/-- A fault and the byte of the pipeline's text where it lies; the position is zero for a
pipeline without a text. -/
structure PipelineError where
  position : Nat
  fault : PipelineFault
deriving DecidableEq

/-- What an error of a pipeline reads like. -/
def PipelineError.message (error : PipelineError) : String :=
  "at offset " ++ String.ofList (renderNat error.position) ++ ": " ++ error.fault.message

/-- The fault of a stage, which may be the first. -/
def Operation.fault? (first : Bool) : Operation → Option PipelineFault
  | grep _ files => if first then (Glob.fault? files).map .badFileGlob else some .searchNotFirst
  | cut delimiter _ => if delimiter = [] then some .emptyDelimiter else none
  | replace old _ => if old = [] then some .emptyOldText else none
  | get _ => none
  | substring .. => none
  | asNumeric => none

/-- The first fault among the stages behind the first one, and the number of its stage. -/
def laterFault? : Nat → List Operation → Option (Nat × PipelineFault)
  | _, [] => none
  | stage, operation :: rest =>
    match operation.fault? false with
    | some fault => some (stage, fault)
    | none => laterFault? (stage + 1) rest

/-- The first fault of a pipeline, and the number of its stage. -/
def pipelineFault? : List Operation → Option (Nat × PipelineFault)
  | [] => some (0, .emptyPipeline)
  | first :: rest =>
    if first.operator ≠ .grep then some (0, .notSearchFirst first.operator)
    else
      match first.fault? true with
      | some fault => some (0, fault)
      | none => laterFault? 1 rest

/-- An output and a pipeline that is admitted. -/
structure Rule where
  output : Text
  pipeline : List Operation
  admitted : pipelineFault? pipeline = none
deriving DecidableEq

/-- The rule of a pipeline whose stages begin at the given bytes of its text. -/
def Rule.admit (output : Text) (pipeline : List Operation) (starts : List Nat) :
    Except PipelineError Rule :=
  match checked : pipelineFault? pipeline with
  | none => .ok ⟨output, pipeline, checked⟩
  | some (stage, fault) => .error ⟨starts[stage]?.getD 0, fault⟩

/-- The rule of a row of operations. -/
def Rule.ofOperations? (output : Text) (pipeline : List Operation) : Except PipelineError Rule :=
  Rule.admit output pipeline []

/-- The pipeline of a rule as it is written. -/
def Rule.render (rule : Rule) : Text := renderPipeline rule.pipeline

end InputDeck
