import Mathlib.Data.List.Forall2
import InputDeck.Proofs.Report.Pipelines

/-!
# Chain tokens

Stage texts that are accepted with the default chain token can be joined with another one. Any
token that is not blank is admitted, but the reader passes over white space before it looks for the
token: behind the first stage, a token that begins with white space is never found. Every other token
joins the texts to the pipeline that the default one joins them to.
-/

namespace InputDeck

namespace Rule

/-- The text of a pipeline is accepted with a chain token as that of these operations. -/
def Accepted (output t chain : Text) (operations : List Operation) : Prop :=
  ∃ admitted, ofText? output t chain = .ok ⟨output, operations, admitted⟩

/-- A text is accepted if the operations that are read from it are admitted. -/
theorem accepted_of_stages {output t chain : Text} {operations : List Operation}
    {found : List (Operation × Text)} (notBlank : Text.trim chain ≠ [])
    (admitted : pipelineFault? operations = none) (read : stages chain t = .ok found)
    (same : found.map (·.1) = operations) : Accepted output t chain operations :=
  ⟨admitted, (ofText?_eq_ok_iff_stages notBlank t ⟨output, operations, admitted⟩).2
    ⟨found, read, same⟩⟩

/-- Later stages are without fault if each of them is. -/
theorem laterFault?_eq_none_iff (stage : Nat) (operations : List Operation) :
    laterFault? stage operations = none ↔
      ∀ operation ∈ operations, operation.fault? false = none := by
  induction operations generalizing stage with
  | nil => simp [laterFault?]
  | cons operation rest inductionHypothesis =>
    rw [List.forall_mem_cons, ← inductionHypothesis (stage + 1), laterFault?]
    cases operation.fault? false with
    | none => simp
    | some fault => simp

/-- A pipeline is admitted if its first stage is a search without fault and each later one is
without fault behind it. -/
theorem pipelineFault?_cons_eq_none_iff (first : Operation) (rest : List Operation) :
    pipelineFault? (first :: rest) = none ↔
      (first.operator = .grep ∧ first.fault? true = none) ∧
        ∀ operation ∈ rest, operation.fault? false = none := by
  rw [pipelineFault?, ← laterFault?_eq_none_iff 1]
  by_cases search : first.operator = .grep
  · rw [if_neg (by simpa using search)]
    cases first.fault? true with
    | none => simp [search]
    | some fault => simp
  · rw [if_pos search]
    simp [search]

/-- A text that writes one stage does so with any token. -/
theorem writesPipeline_single {chain t : Text} {operation : Operation} (other : Text)
    (writes : WritesPipeline chain [operation] t) : WritesPipeline other [operation] t := by
  cases writes with
  | last blankBefore one blankBehind => exact .last blankBefore one blankBehind

/-- Texts that write one stage each write the row of those stages when they are joined. -/
theorem writesPipeline_join {chain : Text} {texts : List Text} {operations : List Operation}
    (each : List.Forall₂ (fun t operation => WritesPipeline chain [operation] t) texts operations)
    (nonempty : texts ≠ []) : WritesPipeline chain operations (Text.join chain texts) := by
  induction each with
  | nil => exact absurd rfl nonempty
  | @cons first operation texts operations writes others inductionHypothesis =>
    cases others with
    | nil => exact writes
    | cons second more =>
      have later := inductionHypothesis (List.cons_ne_nil _ _)
      cases writes with
      | @last _ before written behind blankBefore one blankBehind =>
        have joined := WritesPipeline.cons blankBefore one blankBehind later
        simpa [Text.join] using joined

/-- What stands behind a stage and the default token writes what is read behind that stage. -/
theorem writes_of_accepted_behind {first t : Text} {search operation : Operation}
    (begins : WritesPipeline defaultChain [search] first)
    (writes : WritesPipeline defaultChain [search, operation] (first ++ defaultChain ++ t)) :
    WritesPipeline defaultChain [operation] t := by
  cases begins with
  | @last _ before written behind blankBefore one blankBehind =>
    obtain ⟨found, read, same⟩ :=
      exists_stages_of_writesPipeline visible_defaultChain (by decide) writes
    obtain ⟨start, moved⟩ := stages_behind visible_defaultChain (by decide) blankBefore one
      blankBehind t
    simp only [List.append_assoc] at read
    rw [read] at moved
    cases later : stages defaultChain t with
    | error fault =>
      rw [later] at moved
      cases moved
    | ok more =>
      rw [later] at moved
      cases moved
      have written := writesPipeline_of_stages later
      rw [List.map_cons] at same
      rwa [(List.cons.inj same).2] at written

/-- A token that begins with white space is not found behind a stage. -/
theorem stages_behind_blank {chain t : Text} {operation : Operation}
    (hidden : ¬Text.Visible chain) (notBlank : Text.trim chain ≠ [])
    (writes : WritesPipeline chain [operation] t) (later : Text) :
    ∃ rest, stages chain (t ++ chain ++ later) = .error ⟨rest, .chainExpected chain⟩ := by
  cases writes with
  | @last _ before written behind blankBefore one blankBehind =>
    have read := stage_between blankBefore one (behind ++ (chain ++ later))
    have shown : Text.trimStart chain ≠ [] := by
      intro blank
      rw [Text.trim, blank] at notBlank
      exact notBlank rfl
    have passed : Text.trimStart (behind ++ (chain ++ later)) = Text.trimStart chain ++ later := by
      rw [Text.trimStart_append blankBehind, Text.trimStart, List.dropWhile_append]
      rw [if_neg (by simpa [Text.trimStart] using shown)]
      rfl
    obtain ⟨c, others, begins⟩ := List.exists_cons_of_ne_nil shown
    have visible := (Text.exists_gap chain).1 c others begins
    rw [begins, List.cons_append] at passed
    have missing : Text.after? chain (c :: (others ++ later)) = none := by
      rw [Option.eq_none_iff_forall_ne_some]
      intro rest found
      have same := (Text.after?_eq_some_iff _ _ _).1 found
      apply hidden
      intro d more split
      rw [split, List.cons_append] at same
      rw [← (List.cons.inj same).1]
      exact visible
    have failed := stages_more chain read passed
    rw [missing, Option.elim_none] at failed
    simp only [List.append_assoc]
    exact ⟨_, failed⟩

/-- The texts behind a search write one stage each, without fault, if they are accepted there. -/
theorem writes_of_follow {output first : Text} {search : Operation} {later : List Text}
    {operations : List Operation} (begins : WritesPipeline defaultChain [search] first)
    (follow : List.Forall₂
      (fun t operation =>
        Accepted output (first ++ defaultChain ++ t) defaultChain [search, operation])
      later operations) :
    List.Forall₂ (fun t operation => WritesPipeline defaultChain [operation] t) later operations ∧
      ∀ operation ∈ operations, operation.fault? false = none := by
  induction follow with
  | nil => exact ⟨.nil, by simp⟩
  | @cons t operation later operations accepted _ inductionHypothesis =>
    obtain ⟨each, faultless⟩ := inductionHypothesis
    obtain ⟨admitted, writes⟩ := (accepts_written_pipelines visible_defaultChain (by decide) output
      (first ++ defaultChain ++ t) [search, operation]).1 accepted
    obtain ⟨-, behind⟩ := (pipelineFault?_cons_eq_none_iff search [operation]).1 admitted
    exact ⟨.cons (writes_of_accepted_behind begins writes) each,
      List.forall_mem_cons.2 ⟨behind operation List.mem_cons_self, faultless⟩⟩

/-- Stage texts that are accepted with the default chain token are joined by it to a pipeline; by
another token they are joined to the same one if there is but one text or the token does not begin
with white space, and otherwise that token is missed behind the first text. -/
theorem joined_with_token {chain : Text} (notBlank : Text.trim chain ≠ []) {output first : Text}
    {search : Operation} {later : List Text} {operations : List Operation}
    (begins : Accepted output first defaultChain [search])
    (follow : List.Forall₂
      (fun t operation =>
        Accepted output (first ++ defaultChain ++ t) defaultChain [search, operation])
      later operations) :
    Accepted output (Text.join defaultChain (first :: later)) defaultChain
        (search :: operations) ∧
      (Accepted output (Text.join chain (first :: later)) chain (search :: operations) ↔
        later = [] ∨ Text.Visible chain) ∧
      (¬(later = [] ∨ Text.Visible chain) → ∃ position,
        ofText? output (Text.join chain (first :: later)) chain =
          .error ⟨position, .chainExpected chain⟩) := by
  obtain ⟨admittedFirst, writesFirst⟩ := (accepts_written_pipelines visible_defaultChain
    (by decide) output first [search]).1 begins
  obtain ⟨each, faultless⟩ := writes_of_follow writesFirst follow
  have admitted : pipelineFault? (search :: operations) = none :=
    (pipelineFault?_cons_eq_none_iff search operations).2
      ⟨((pipelineFault?_cons_eq_none_iff search []).1 admittedFirst).1, faultless⟩
  have joined (token : Text) (visible : Text.Visible token) (shown : Text.trim token ≠ []) :
      Accepted output (Text.join token (first :: later)) token (search :: operations) := by
    have every : List.Forall₂ (fun t operation => WritesPipeline token [operation] t)
        (first :: later) (search :: operations) :=
      .cons (writesPipeline_single token writesFirst)
        (each.imp fun _ _ => writesPipeline_single token)
    exact (accepts_written_pipelines visible shown output _ _).2
      ⟨admitted, writesPipeline_join every (List.cons_ne_nil first later)⟩
  have missed (lost : ¬(later = [] ∨ Text.Visible chain)) : ∃ position,
      ofText? output (Text.join chain (first :: later)) chain =
        .error ⟨position, .chainExpected chain⟩ := by
    obtain ⟨several, hidden⟩ := not_or.1 lost
    obtain ⟨second, more, rfl⟩ := List.exists_cons_of_ne_nil several
    obtain ⟨rest, failed⟩ := stages_behind_blank hidden notBlank
      (writesPipeline_single chain writesFirst) (Text.join chain (second :: more))
    refine ⟨positionOf (Text.join chain (first :: second :: more)) rest, ?_⟩
    rw [ofText?, if_neg notBlank, Text.join, failed]
  refine ⟨joined defaultChain visible_defaultChain (by decide), ⟨?_, ?_⟩, missed⟩
  · rintro ⟨_, accepted⟩
    by_cases found : later = [] ∨ Text.Visible chain
    · exact found
    · obtain ⟨position, failed⟩ := missed found
      rw [failed] at accepted
      cases accepted
  · rintro (rfl | visible)
    · cases follow
      cases writesFirst with
      | last blankBefore one blankBehind =>
        obtain ⟨start, read⟩ := stages_alone chain blankBefore one blankBehind
        exact accepted_of_stages notBlank admitted read rfl
    · exact joined chain visible notBlank

/-- A token with letters and a space behind it joins two texts. -/
theorem joined_with_word :
    Text.trim "then ".toList ≠ [] ∧
      Accepted "k".toList "grep('V', '*') then get(0)".toList "then ".toList
        [.grep "V".toList "*".toList, .get 0] := by
  have search : Accepted "k".toList "grep('V', '*') ".toList defaultChain
      [.grep "V".toList "*".toList] := ⟨by decide +kernel, by decide +kernel⟩
  have line : Accepted "k".toList ("grep('V', '*') ".toList ++ defaultChain ++ "get(0)".toList)
      defaultChain [.grep "V".toList "*".toList, .get 0] := ⟨by decide +kernel, by decide +kernel⟩
  have visible : Text.Visible "then ".toList := by
    intro c rest same
    cases same
    rfl
  have notBlank : Text.trim "then ".toList ≠ [] := by decide
  obtain ⟨-, accepted, -⟩ := joined_with_token notBlank search (.cons line .nil)
  exact ⟨notBlank, accepted.2 (.inr visible)⟩

/-- A token with a space in front is admitted and does not join texts that the default one joins. -/
theorem spaced_token_not_found :
    Text.trim " | ".toList ≠ [] ∧
      Accepted "k".toList "grep('V', '*')".toList defaultChain [.grep "V".toList "*".toList] ∧
      Accepted "k".toList ("grep('V', '*')".toList ++ defaultChain ++ "get(0)".toList) defaultChain
        [.grep "V".toList "*".toList, .get 0] ∧
      ofText? "k".toList (Text.join " | ".toList ["grep('V', '*')".toList, "get(0)".toList])
        " | ".toList = .error ⟨15, .chainExpected " | ".toList⟩ :=
  ⟨by decide, ⟨by decide +kernel, by decide +kernel⟩, ⟨by decide +kernel, by decide +kernel⟩,
    by decide +kernel⟩

end Rule

end InputDeck
