import InputDeck.Proofs.Outcome
import InputDeck.Proofs.Report.Admission

/-!
# Shapes of a pipeline

What an operation leaves has a shape that depends on the shape before it alone, so the shape at the
end of a pipeline can be told before it runs. A run that gets to an operation which does not take
the shape before it fails there, and a run may fail earlier for what it finds in the reports, but
never for a shape where all operations take theirs.

A rule searches only at its beginning. So it has a value only if it takes a line of what was found,
edits it, and makes a number of it at the end or leaves it as text.
-/

namespace InputDeck

/-! ## Shapes told beforehand -/

section Step

variable {engine : Engine} {workdir : Workdir} {operation : Operation} {input : Stage}

end Step

/-! ## Shapes of a run -/

namespace Rule

/-- A rule searches in its first stage, by a sound glob, and in no other. -/
theorem exists_search (rule : Rule) :
    ∃ pattern files later, rule.pipeline = .grep pattern files :: later ∧
      Glob.fault? files = none ∧ ∀ operation ∈ later, operation.operator ≠ .grep := by
  have once := rule.searchesOnce
  cases same : rule.pipeline with
  | nil =>
    rw [same] at once
    cases once
  | cons first later =>
    rw [same] at once
    obtain ⟨sound, follow⟩ := once
    refine ⟨_, _, later, rfl, sound, fun operation member isSearch => ?_⟩
    cases operation with
    | grep => exact follow _ member
    | _ => cases isSearch

/-- The value of a rule is what the last stage leaves. -/
theorem extract_eq (rule : Rule) (engine : Engine) (workdir : Workdir) :
    rule.extract engine workdir =
      (runPipeline engine workdir (.lines []) rule.pipeline).bind Stage.result := by
  unfold extract
  cases runPipeline engine workdir (.lines []) rule.pipeline <;> rfl

end Rule

end InputDeck
