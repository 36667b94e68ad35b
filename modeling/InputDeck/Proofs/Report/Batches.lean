import InputDeck.Pattern.ExpressionParser
import InputDeck.Report.Extract
import InputDeck.Proofs.Entries

/-!
# Rules in a batch

A batch answers for each output once, in the order in which the outputs first appear among the
rules, and its answer is that of the last rule of the output. So the value of a rule stands if no
rule behind it has the same output. Where one does, its answer stands in the place of the value, and
if it fails the output is left without a value though an earlier rule has found one.
-/

namespace InputDeck

/-- The last rule of an output. -/
def lastRule? (rules : List Rule) (output : Text) : Option Rule :=
  rules.reverse.find? fun rule => decide (rule.output = output)

/-- A rule is the last one of its output if no rule behind it has the same. -/
theorem lastRule?_append {before after : List Rule} {rule : Rule}
    (last : ∀ later ∈ after, later.output ≠ rule.output) :
    lastRule? (before ++ rule :: after) rule.output = some rule := by
  refine List.find?_eq_some_iff_append.2 ⟨by simp, after.reverse, before.reverse, by simp, ?_⟩
  intro later member
  simpa using last later (List.mem_reverse.1 member)

/-- Where a rule of an output is among others, one of them is the last. -/
theorem exists_lastRule? {rules : List Rule} {rule : Rule} (member : rule ∈ rules) :
    ∃ last, lastRule? rules rule.output = some last := by
  rw [← Option.isSome_iff_exists, lastRule?, List.find?_isSome]
  exact ⟨rule, List.mem_reverse.2 member, by simp⟩

/-- A batch answers for an output what the last rule of the output answers. -/
theorem find?_extractAll (engine : Engine) (workdir : Workdir) (rules : List Rule) (output : Text) :
    (extractAll engine workdir rules).find? output =
      (lastRule? rules output).map fun rule => (rule.extract engine workdir).toOption := by
  rw [extractAll, Entries.find?_ofList, ← List.map_reverse,
    Entries.lookup_map Rule.output fun rule => (rule.extract engine workdir).toOption]
  rfl

/-- A batch answers once for each output, in order of first appearance. -/
theorem keys_extractAll (engine : Engine) (workdir : Workdir) (rules : List Rule) :
    (extractAll engine workdir rules).keys = (rules.map Rule.output).eraseDups := by
  rw [extractAll, Entries.keys_ofList, List.map_map]
  rfl

/-- The outputs of a batch stand in order of first appearance. The answer of a rule stands under its
output if no rule behind it has the same output, and the value of any rule stands there exactly if
the last rule of its output has the same value. -/
theorem batch_keeps_last_answer (engine : Engine) (workdir : Workdir) (rules : List Rule) :
    (extractAll engine workdir rules).keys = (rules.map Rule.output).eraseDups ∧
      (∀ before rule after, rules = before ++ rule :: after →
        (∀ later ∈ after, later.output ≠ rule.output) →
          (extractAll engine workdir rules).find? rule.output =
            some (rule.extract engine workdir).toOption) ∧
      ∀ rule ∈ rules, ∀ v, rule.extract engine workdir = .ok v →
        ((extractAll engine workdir rules).find? rule.output = some (some v) ↔
          ∃ last, lastRule? rules rule.output = some last ∧ last.extract engine workdir = .ok v) := by
  refine ⟨keys_extractAll engine workdir rules, ?_, ?_⟩
  · rintro before rule after rfl last
    rw [find?_extractAll, lastRule?_append last]
    rfl
  · intro rule member v _
    obtain ⟨last, found⟩ := exists_lastRule? member
    rw [find?_extractAll, found]
    cases answer : last.extract engine workdir <;> simp [answer, Except.toOption]

/-- A rule that takes a line with an error estimate. -/
def estimateRule (index : Int64) : Rule where
  output := "keff".toList
  pipeline := [.grep "+/-".toList "*".toList, .get index]
  admitted := by
    have sound : Glob.fault? "*".toList = none := by decide +kernel
    simp only [pipelineFault?, Operation.fault?, sound]
    rfl

/-- A report with one estimate. -/
def estimateReport : Directory where
  pairs := [(Text.toBytes "a.out".toList, .file (Text.toBytes "KEFF 0.99612 +/- 0.00100".toList))]
  distinct := by simp

/-- The search of the rule finds the line of the report. -/
theorem search_estimateReport :
    search Expression.engine (.present estimateReport) "+/-".toList "*".toList =
      .ok ["KEFF 0.99612 +/- 0.00100".toList] := by
  have tokens : Glob.tokens "*".toList = [.star] := by decide +kernel
  have covered : Glob.covers "*".toList "a.out".toList = true := by
    rw [Glob.covers, tokens]
    simp [Glob.matchFrom, Glob.takeChar?]
  have sound : Glob.fault? "*".toList = none := by decide +kernel
  have reports : estimateReport.textFiles =
      [("a.out".toList, Text.toBytes "KEFF 0.99612 +/- 0.00100".toList)] := by decide +kernel
  simp only [search, Pattern.ofText?, sound, searchFiles, reports, List.filter, Pattern.isMatch,
    covered]
  refine congrArg Except.ok ?_
  decide +kernel

/-- The first rule takes the line that was found. -/
theorem extract_estimateRule_zero :
    (estimateRule 0).extract Expression.engine (.present estimateReport) =
      .ok (.text "KEFF 0.99612 +/- 0.00100".toList) := by
  simp only [Rule.extract, estimateRule, runPipeline, Operation.run, search_estimateReport]
  rfl

/-- There is no second line. -/
theorem extract_estimateRule_one :
    (estimateRule 1).extract Expression.engine (.present estimateReport) =
      .error (.indexOutOfRange .get 1 1) := by
  simp only [Rule.extract, estimateRule, runPipeline, Operation.run, search_estimateReport]
  rfl

/-- A rule that fails takes the value from an earlier rule of the same output. -/
theorem failed_rule_hides_value :
    (estimateRule 0).extract Expression.engine (.present estimateReport) =
        .ok (.text "KEFF 0.99612 +/- 0.00100".toList) ∧
      (extractAll Expression.engine (.present estimateReport)
        [estimateRule 0, estimateRule 1]).find? "keff".toList = some none := by
  refine ⟨extract_estimateRule_zero, ?_⟩
  rw [extractAll, List.map_cons, List.map_cons, List.map_nil, extract_estimateRule_zero,
    extract_estimateRule_one]
  rfl

end InputDeck
