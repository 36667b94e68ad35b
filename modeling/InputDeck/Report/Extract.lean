import InputDeck.Entries
import InputDeck.Report.RuleParser
import InputDeck.Report.Stage

/-!
# Extraction

A rule runs its stages one after another, beginning with no lines, and its value is the text or
the number that the last one leaves. The rules of a batch run independently, and a rule that
fails leaves its output without a value. Outputs stand in the order in which their names first
appear; where several rules share a name the last one counts.
-/

namespace InputDeck

/-- Runs the stages of a pipeline. -/
def runPipeline (engine : Engine) (workdir : Workdir) (input : Stage) :
    List Operation → Except StageFailure Stage
  | [] => .ok input
  | operation :: rest =>
    match operation.run engine workdir input with
    | .error failure => .error failure
    | .ok output => runPipeline engine workdir output rest

/-- The value that the last stage leaves. -/
def Stage.result : Stage → Except StageFailure Value
  | text t => .ok (.text t)
  | number x => .ok (.real x)
  | lines _ => .error (.shapeMismatch .result .text .lines)

/-- The value of a rule. -/
def Rule.extract (engine : Engine) (workdir : Workdir) (rule : Rule) : Except StageFailure Value :=
  match runPipeline engine workdir (.lines []) rule.pipeline with
  | .error failure => .error failure
  | .ok stage => stage.result

/-- What the rules of a batch find; an output without a value is one whose rule failed. -/
abbrev Outputs := Entries Text (Option Value)

/-- Runs every rule. -/
def extractAll (engine : Engine) (workdir : Workdir) (rules : List Rule) : Outputs :=
  Entries.ofList (rules.map fun rule => (rule.output, (rule.extract engine workdir).toOption))

end InputDeck
