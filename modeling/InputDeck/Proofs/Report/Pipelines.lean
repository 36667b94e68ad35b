import InputDeck.Proofs.Report.Stages

/-!
# Ways of writing a pipeline

A pipeline is written as its stages, with the chain token between neighbours and with white space
around any of them. A text is read as the stages that are written so, and as a rule if those stages
make an admitted pipeline.

White space behind a stage is passed over before the token is looked for. What is read is written
so for any token, but only a token that does not begin with white space itself is found wherever it
is written.
-/

namespace InputDeck

/-- The ways of writing stages with a chain token between them. -/
inductive WritesPipeline (chain : Text) : List Operation → Text → Prop
  | last {only : Operation} {before written behind : Text} (blankBefore : Text.Blank before)
      (writes : WritesStage only written) (blankBehind : Text.Blank behind) :
      WritesPipeline chain [only] (before ++ (written ++ behind))
  | cons {first second : Operation} {rest : List Operation} {before written behind later : Text}
      (blankBefore : Text.Blank before) (writes : WritesStage first written)
      (blankBehind : Text.Blank behind) (others : WritesPipeline chain (second :: rest) later) :
      WritesPipeline chain (first :: second :: rest)
        (before ++ (written ++ (behind ++ (chain ++ later))))

/-- There are no stages to write for an empty pipeline. -/
theorem WritesPipeline.ne_nil {chain t : Text} {operations : List Operation}
    (writes : WritesPipeline chain operations t) : operations ≠ [] := by
  cases writes with
  | last => exact List.cons_ne_nil _ _
  | cons => exact List.cons_ne_nil _ _

namespace Rule

/-- A stage with white space in front of it is read up to where it is written. -/
theorem stage_between {operation : Operation} {before written : Text}
    (blank : Text.Blank before) (writes : WritesStage operation written) (rest : Text) :
    stage (Text.trimStart (before ++ (written ++ rest))) = .ok (operation, rest) := by
  rw [Text.trimStart_append blank, Text.trimStart_of_visible (visible_of_writesStage writes rest)]
  exact (stage_eq_ok_iff _ rest operation).2 ⟨written, rfl, writes⟩

/-- What is read as a stage behind white space is written there, with white space around it. -/
theorem exists_stage_between {t rest : Text} {operation : Operation}
    (read : stage (Text.trimStart t) = .ok (operation, rest)) :
    ∃ before written behind, Text.Blank before ∧ WritesStage operation written ∧
      Text.Blank behind ∧ t = before ++ (written ++ (behind ++ Text.trimStart rest)) := by
  obtain ⟨-, before, blankBefore, first⟩ := Text.exists_gap t
  obtain ⟨written, second, writes⟩ := (stage_eq_ok_iff _ rest operation).1 read
  obtain ⟨-, behind, blankBehind, third⟩ := Text.exists_gap rest
  exact ⟨before, written, behind, blankBefore, writes, blankBehind,
    by rw [← third, ← second, ← first]⟩

/-- A text ends behind its last stage. -/
theorem stages_last {t rest : Text} {operation : Operation} (chain : Text)
    (read : stage (Text.trimStart t) = .ok (operation, rest))
    (remaining : Text.trimStart rest = []) :
    stages chain t = .ok [(operation, Text.trimStart t)] := by
  rw [stages]
  split
  · rename_i fault failed
    rw [read] at failed
    cases failed
  · rename_i found behind again
    rw [read] at again
    cases again
    split
    · rfl
    · rename_i c others left
      rw [remaining] at left
      cases left

/-- Behind a stage that is not the last a text goes on with the chain token, or fails there. -/
theorem stages_more {t rest : Text} {operation : Operation} (chain : Text) {c : Char}
    {others : Text} (read : stage (Text.trimStart t) = .ok (operation, rest))
    (remaining : Text.trimStart rest = c :: others) :
    stages chain t =
      ((Text.after? chain (c :: others)).elim (.error ⟨c :: others, .chainExpected chain⟩)
        fun next => (stages chain next).map ((operation, Text.trimStart t) :: ·)) := by
  rw [stages]
  split
  · rename_i fault failed
    rw [read] at failed
    cases failed
  · rename_i found behind again
    rw [read] at again
    cases again
    split
    · rename_i ended
      rw [remaining] at ended
      cases ended
    · rename_i d more same
      rw [remaining] at same
      cases same
      split
      · rename_i missing
        simp only [missing, Option.elim_none]
      · rename_i next begins
        simp only [begins, Option.elim_some]
        cases stages chain next <;> rfl

/-- What is read as stages is written so, whatever the chain token. -/
theorem writesPipeline_of_stages {chain t : Text} {found : List (Operation × Text)}
    (read : stages chain t = .ok found) : WritesPipeline chain (found.map (·.1)) t := by
  fun_induction stages chain t generalizing found with
  | case1 | case3 | case4 => cases read
  | case2 t begins operation rest one =>
    rename_i remaining
    cases read
    obtain ⟨before, written, behind, blankBefore, writes, blankBehind, split⟩ :=
      exists_stage_between one
    rw [split, remaining, List.append_nil]
    exact .last blankBefore writes blankBehind
  | case5 t begins operation rest one c others remaining next chained _ more moreRead =>
    rename_i inductionHypothesis
    cases read
    obtain ⟨before, written, behind, blankBefore, writes, blankBehind, split⟩ :=
      exists_stage_between one
    have later := inductionHypothesis moreRead
    obtain ⟨second, further, same⟩ := List.exists_cons_of_ne_nil later.ne_nil
    rw [same] at later
    rw [split, remaining, (Text.after?_eq_some_iff _ _ _).1 chained, List.map_cons, same]
    exact .cons blankBefore writes blankBehind later

/-- A stage alone is read with any chain token. -/
theorem stages_alone {before written behind : Text} {operation : Operation} (chain : Text)
    (blankBefore : Text.Blank before) (writes : WritesStage operation written)
    (blankBehind : Text.Blank behind) :
    ∃ begins, stages chain (before ++ (written ++ behind)) = .ok [(operation, begins)] := by
  have read := stage_between blankBefore writes behind
  have remaining : Text.trimStart (behind ++ []) = [] := Text.trimStart_append blankBehind []
  rw [List.append_nil] at remaining
  exact ⟨_, stages_last chain read remaining⟩

/-- What stands behind a stage and a chain token that does not begin with white space is read on
its own. -/
theorem stages_behind {chain before written behind : Text} {operation : Operation}
    (visible : Text.Visible chain) (nonempty : chain ≠ []) (blankBefore : Text.Blank before)
    (writes : WritesStage operation written) (blankBehind : Text.Blank behind) (later : Text) :
    ∃ begins, stages chain (before ++ (written ++ (behind ++ (chain ++ later)))) =
      (stages chain later).map ((operation, begins) :: ·) := by
  obtain ⟨c, token, rfl⟩ := List.exists_cons_of_ne_nil nonempty
  have read := stage_between blankBefore writes (behind ++ (c :: token ++ later))
  have remaining : Text.trimStart (behind ++ (c :: token ++ later)) = c :: (token ++ later) := by
    rw [Text.trimStart_append blankBehind]
    apply Text.trimStart_of_visible
    intro d more begins
    cases begins
    exact visible c token rfl
  have chained : Text.after? (c :: token) (c :: (token ++ later)) = some later :=
    (Text.after?_eq_some_iff _ _ _).2 rfl
  have moved := stages_more (c :: token) read remaining
  rw [chained, Option.elim_some] at moved
  exact ⟨_, moved⟩

/-- Stages are read where they are written, if the chain token does not begin with white space. -/
theorem exists_stages_of_writesPipeline {chain t : Text} {operations : List Operation}
    (visible : Text.Visible chain) (nonempty : chain ≠ [])
    (writes : WritesPipeline chain operations t) :
    ∃ found, stages chain t = .ok found ∧ found.map (·.1) = operations := by
  induction writes with
  | @last only before written behind blankBefore one blankBehind =>
    obtain ⟨begins, read⟩ := stages_alone chain blankBefore one blankBehind
    exact ⟨_, read, rfl⟩
  | @cons first second rest before written behind later blankBefore one blankBehind _
      inductionHypothesis =>
    obtain ⟨found, laterRead, same⟩ := inductionHypothesis
    obtain ⟨begins, moved⟩ := stages_behind visible nonempty blankBefore one blankBehind later
    rw [laterRead] at moved
    exact ⟨_, moved, by rw [List.map_cons, same]⟩

/-- A rule is admitted with its own output and pipeline, and with no others. -/
theorem admit_eq_ok_iff (output : Text) (pipeline : List Operation) (starts : List Nat)
    (rule : Rule) :
    Rule.admit output pipeline starts = .ok rule ↔ rule.output = output ∧ rule.pipeline = pipeline := by
  unfold Rule.admit
  constructor
  · intro made
    split at made
    · cases made
      exact ⟨rfl, rfl⟩
    · cases made
  · rintro ⟨rfl, rfl⟩
    split
    · rfl
    · rename_i failed
      rw [rule.admitted] at failed
      cases failed

/-- A rule is read exactly where the stages of its pipeline are. -/
theorem ofText?_eq_ok_iff_stages {chain : Text} (notBlank : Text.trim chain ≠ []) (t : Text)
    (rule : Rule) :
    ofText? rule.output t chain = .ok rule ↔
      ∃ found, stages chain t = .ok found ∧ found.map (·.1) = rule.pipeline := by
  rw [ofText?, if_neg notBlank]
  constructor
  · intro read
    split at read
    · cases read
    · rename_i found taken
      exact ⟨found, taken, ((admit_eq_ok_iff _ _ _ _).1 read).2.symm⟩
  · rintro ⟨found, taken, same⟩
    rw [taken]
    exact (admit_eq_ok_iff _ _ _ _).2 ⟨rfl, same.symm⟩

/-- A rule is read exactly where its pipeline is written. -/
theorem ofText?_eq_ok_iff_writes {chain : Text} (visible : Text.Visible chain)
    (notBlank : Text.trim chain ≠ []) (t : Text) (rule : Rule) :
    ofText? rule.output t chain = .ok rule ↔ WritesPipeline chain rule.pipeline t := by
  have nonempty : chain ≠ [] := by
    rintro rfl
    exact notBlank rfl
  rw [ofText?_eq_ok_iff_stages notBlank]
  constructor
  · rintro ⟨found, taken, same⟩
    rw [← same]
    exact writesPipeline_of_stages taken
  · exact exists_stages_of_writesPipeline visible nonempty

/-- The text of a pipeline is accepted with these operations exactly if they are admitted and the
text writes them: stages with the chain token between them. -/
theorem accepts_written_pipelines {chain : Text} (visible : Text.Visible chain)
    (notBlank : Text.trim chain ≠ []) (output t : Text) (operations : List Operation) :
    (∃ admitted, ofText? output t chain = .ok ⟨output, operations, admitted⟩) ↔
      pipelineFault? operations = none ∧ WritesPipeline chain operations t := by
  constructor
  · rintro ⟨admitted, read⟩
    exact ⟨admitted, (ofText?_eq_ok_iff_writes visible notBlank t ⟨output, operations, admitted⟩).1
      read⟩
  · rintro ⟨admitted, writes⟩
    exact ⟨admitted, (ofText?_eq_ok_iff_writes visible notBlank t ⟨output, operations, admitted⟩).2
      writes⟩

/-- A chain token between quotes is text, and a name may have capitals and underscores. -/
theorem written_with_token_inside_quotes :
    Text.Visible ">>".toList ∧ Text.trim ">>".toList ≠ [] ∧
      WritesPipeline ">>".toList [.grep "a>>b".toList "*".toList, .get 0]
        "grep('a>>b', '*')>>GE_T( 0 )".toList := by
  have visible : Text.Visible ">>".toList := by
    intro c rest same
    cases same
    rfl
  refine ⟨visible, by decide, ?_⟩
  have accepted := Rule.accepts_written_pipelines visible (by decide) "k".toList
    "grep('a>>b', '*')>>GE_T( 0 )".toList [.grep "a>>b".toList "*".toList, .get 0]
  exact (accepted.1 ⟨by decide +kernel, by decide +kernel⟩).2

/-- The default token does not begin with white space. -/
theorem visible_defaultChain : Text.Visible defaultChain := by
  intro c rest same
  cases same
  rfl

end Rule

end InputDeck
