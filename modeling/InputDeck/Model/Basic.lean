import InputDeck.Model.Description
import InputDeck.Report.Extract
import InputDeck.Template.Basic

/-!
# Models of simulation codes

A model is what is known of a simulation code: the style of its decks and the rules for its
reports. It is made from a description. An output whose pipeline cannot be read is skipped, and
the rest of the model stands; the skipped outputs are told with what is wrong with each.
-/

namespace InputDeck

/-- What is known of a simulation code. -/
structure Model where
  id : Text
  style : MarkerStyle
  rules : List Rule

/-- An output that was skipped. -/
structure SkippedOutput where
  output : Text
  error : PipelineError
deriving DecidableEq

/-- What a skipped output reads like. -/
def SkippedOutput.message (skipped : SkippedOutput) : String :=
  "output '" ++ String.ofList skipped.output ++ "': " ++ skipped.error.message

/-- Why there is no model. -/
inductive ModelError where
  /-- The file is missing or its bytes are no text. -/
  | unreadable
  /-- The text is no description. -/
  | malformed
  | badStyle (error : StyleError)
deriving DecidableEq

/-- What an error of a model reads like, where that is settled here. -/
def ModelError.message? : ModelError → Option String
  | unreadable => none
  | malformed => none
  | badStyle error => some ("invalid marker syntax: " ++ error.message)

namespace Model

/-- A model without rules. -/
def empty (id : Text) (style : MarkerStyle) : Model := ⟨id, style, []⟩

/-- The rules of the outputs, and the outputs that are skipped, both in the order of the outputs. -/
def readRules (chain : Text) : List (Text × Text) → List Rule × List SkippedOutput
  | [] => ([], [])
  | (output, pipeline) :: rest =>
    let (rules, skipped) := readRules chain rest
    match Rule.ofText? output pipeline chain with
    | .ok rule => (rule :: rules, skipped)
    | .error error => (rules, ⟨output, error⟩ :: skipped)

/-- The model of a description, and the outputs that are skipped. -/
def ofDescription? (description : Description) :
    Except StyleError (Model × List SkippedOutput) :=
  match MarkerStyle.ofFields? description.variableMark description.formulaMark
      description.delimiters description.commentMark with
  | .error error => .error error
  | .ok style =>
    let (rules, skipped) := readRules description.chain description.outputs.pairs
    .ok (⟨description.id, style, rules⟩, skipped)

/-- Reads a model, and the outputs that are skipped. -/
def ofText? (decoder : Decoder) (t : Text) : Except ModelError (Model × List SkippedOutput) :=
  match decoder.decode? t with
  | none => .error .malformed
  | some description => (ofDescription? description).mapError .badStyle

/-- Reads a model from what stands in the place of its file. -/
def ofEntry? (decoder : Decoder) :
    Option Entry → Except ModelError (Model × List SkippedOutput)
  | some (.file content) =>
    match Text.ofBytes? content with
    | none => .error .unreadable
    | some t => ofText? decoder t
  | _ => .error .unreadable

/-- The first rule of an output. -/
def rule? (model : Model) (output : Text) : Option Rule :=
  model.rules.find? (·.output == output)

/-- The model with one more rule, the last. -/
def addRule (model : Model) (rule : Rule) : Model := { model with rules := model.rules ++ [rule] }

/-- Reads a deck in the style of the model. -/
def template? (model : Model) (t : Text) : Except TemplateError Template :=
  Template.ofText? model.style t

/-- Runs every rule of the model. -/
def extract (engine : Engine) (model : Model) (workdir : Workdir) : Outputs :=
  extractAll engine workdir model.rules

end Model

end InputDeck
