import InputDeck.Report.Extract
import InputDeck.Proofs.Report.ChainTokens
import InputDeck.Proofs.Report.Failures

/-!
# Admitted pipelines

Both ways to make a rule check the same pipelines. What they admit searches in its first stage and
in no other, by a sound glob, and has no empty text to cut at or to replace. The glob of a rule is
looked at a second time when the rule runs, and this second look never finds anything: a rule may
fail for what it reads, but not for a pattern.
-/

namespace InputDeck

/-- An operation that may stand behind a search. -/
def Operation.MayFollow : Operation → Prop
  | grep .. => False
  | cut delimiter _ => delimiter ≠ []
  | replace old _ => old ≠ []
  | get _ => True
  | substring .. => True
  | asNumeric => True

/-- A pipeline that begins with its only search, by a sound glob, and has no empty text to cut at or
to replace. -/
inductive SearchesOnce : List Operation → Prop
  | intro {pattern files : Text} {later : List Operation} (sound : Glob.fault? files = none)
      (follow : ∀ operation ∈ later, operation.MayFollow) :
      SearchesOnce (.grep pattern files :: later)

namespace Operation

/-- Behind a search an operation is without fault if it may follow one. -/
theorem fault?_false_eq_none_iff (operation : Operation) :
    operation.fault? false = none ↔ operation.MayFollow := by
  cases operation <;> simp [fault?, MayFollow]

/-- Only the glob of a search is a pattern at fault. -/
theorem FailsWith.of_badPattern {operation : Operation} {input : Stage} {error : PatternError}
    (fails : operation.FailsWith input (.badPattern error)) :
    ∃ pattern files, operation = .grep pattern files ∧ Glob.fault? files ≠ none := by
  cases fails with
  | badGlob faulty => exact ⟨_, _, rfl, by simp [faulty]⟩

end Operation

/-- A run that fails has a stage that does, on what the stages before it left. -/
theorem exists_failing_stage {engine : Engine} {workdir : Workdir} {input : Stage}
    {pipeline : List Operation} {failure : StageFailure}
    (failed : runPipeline engine workdir input pipeline = .error failure) :
    ∃ operation ∈ pipeline, ∃ before : Stage, operation.FailsWith before failure := by
  induction pipeline generalizing input with
  | nil => cases failed
  | cons operation rest inductionHypothesis =>
    rw [runPipeline] at failed
    split at failed
    · rename_i found ran
      cases failed
      exact ⟨operation, List.mem_cons_self, input, Operation.failsWith_of_run ran⟩
    · obtain ⟨later, member, fails⟩ := inductionHypothesis failed
      exact ⟨later, List.mem_cons_of_mem operation member, fails⟩

namespace SearchesOnce

variable {pipeline : List Operation}

/-- Every search of the pipeline is by a sound glob. -/
theorem sound_of_mem (once : SearchesOnce pipeline) {pattern files : Text}
    (member : .grep pattern files ∈ pipeline) : Glob.fault? files = none := by
  obtain ⟨sound, follow⟩ := once
  rcases List.mem_cons.1 member with first | later
  · cases first
    exact sound
  · exact absurd (follow _ later) id

/-- A run of the pipeline never fails for a pattern. -/
theorem runPipeline_ne_badPattern (once : SearchesOnce pipeline) (engine : Engine)
    (workdir : Workdir) (input : Stage) (error : PatternError) :
    runPipeline engine workdir input pipeline ≠ .error (.badPattern error) := by
  intro failed
  obtain ⟨operation, member, before, fails⟩ := exists_failing_stage failed
  obtain ⟨pattern, files, rfl, faulty⟩ := fails.of_badPattern
  exact faulty (once.sound_of_mem member)

end SearchesOnce

namespace Rule

/-- The pipelines without fault are those that search once. -/
theorem pipelineFault?_eq_none_iff (pipeline : List Operation) :
    pipelineFault? pipeline = none ↔ SearchesOnce pipeline := by
  constructor
  · intro faultless
    cases pipeline with
    | nil => cases faultless
    | cons first later =>
      obtain ⟨⟨search, sound⟩, each⟩ := (pipelineFault?_cons_eq_none_iff first later).1 faultless
      cases first with
      | grep pattern files =>
        exact .intro (Option.map_eq_none_iff.1 sound) fun operation member =>
          operation.fault?_false_eq_none_iff.1 (each operation member)
      | _ => cases search
  · rintro ⟨sound, follow⟩
    exact (pipelineFault?_cons_eq_none_iff _ _).2
      ⟨⟨rfl, Option.map_eq_none_iff.2 sound⟩, fun operation member =>
        operation.fault?_false_eq_none_iff.2 (follow operation member)⟩

/-- A rule searches once. -/
theorem searchesOnce (rule : Rule) : SearchesOnce rule.pipeline :=
  (pipelineFault?_eq_none_iff rule.pipeline).1 rule.admitted

/-- A rule never fails for a pattern. -/
theorem extract_ne_badPattern (rule : Rule) (engine : Engine) (workdir : Workdir)
    (error : PatternError) : rule.extract engine workdir ≠ .error (.badPattern error) := by
  unfold extract
  intro failed
  split at failed
  · rename_i failure ran
    cases failed
    exact rule.searchesOnce.runPipeline_ne_badPattern engine workdir (.lines []) error ran
  · rename_i output _
    cases output <;> cases failed

end Rule

end InputDeck
