import InputDeck.Proofs.Outcome
import InputDeck.Proofs.Report.Admission
import InputDeck.Proofs.Report.Offsets

/-!
# Where a pipeline is at fault

The position of an error is a number of bytes that stand at the beginning of the text, so it lies
within the text and between two characters. A text that is not read as stages is at fault where the
reader stopped. A text that is read so and is not admitted is at fault where its first stage at
fault begins, and nowhere else does that stage begin: behind the stages before it, each with the
chain token, and behind white space, at the first character of its operator's name.
-/

namespace InputDeck

/-- What is wrong with a stage behind a search. -/
inductive Operation.FaultBehind : Operation → PipelineFault → Prop
  | search {pattern files : Text} : FaultBehind (.grep pattern files) .searchNotFirst
  | emptyDelimiter {index : Int64} : FaultBehind (.cut [] index) .emptyDelimiter
  | emptyOldText {new : Text} : FaultBehind (.replace [] new) .emptyOldText

/-- The fault of a stage behind a search is the one that is found there. -/
theorem Operation.fault?_false_eq_some_iff (operation : Operation) (fault : PipelineFault) :
    operation.fault? false = some fault ↔ operation.FaultBehind fault := by
  constructor
  · intro found
    cases operation with
    | grep pattern files =>
      cases found
      exact .search
    | cut delimiter index =>
      cases delimiter with
      | nil =>
        cases found
        exact .emptyDelimiter
      | cons => cases found
    | replace old new =>
      cases old with
      | nil =>
        cases found
        exact .emptyOldText
      | cons => cases found
    | get | substring | asNumeric => cases found
  · intro faulty
    cases faulty with
    | search | emptyDelimiter | emptyOldText => rfl

/-- The first fault of a pipeline, and the number of its stage. -/
inductive FirstFault : List Operation → Nat → PipelineFault → Prop
  | empty : FirstFault [] 0 .emptyPipeline
  | noSearch {first : Operation} {later : List Operation} (other : first.operator ≠ .grep) :
      FirstFault (first :: later) 0 (.notSearchFirst first.operator)
  | badGlob {pattern files : Text} {later : List Operation} {fault : GlobFault}
      (faulty : Glob.fault? files = some fault) :
      FirstFault (.grep pattern files :: later) 0 (.badFileGlob fault)
  | behind {pattern files : Text} {earlier later : List Operation} {operation : Operation}
      {fault : PipelineFault} (sound : Glob.fault? files = none)
      (follow : ∀ other ∈ earlier, other.MayFollow) (faulty : operation.FaultBehind fault) :
      FirstFault (.grep pattern files :: (earlier ++ operation :: later)) (earlier.length + 1) fault

/-- The ways of writing what stands in front of a stage: the stages before it with the chain token
behind each of them, and white space. -/
inductive WritesBefore (chain : Text) : List Operation → Text → Prop
  | nil {gap : Text} (blank : Text.Blank gap) : WritesBefore chain [] gap
  | cons {first : Operation} {rest : List Operation} {before written behind later : Text}
      (blankBefore : Text.Blank before) (writes : WritesStage first written)
      (blankBehind : Text.Blank behind) (others : WritesBefore chain rest later) :
      WritesBefore chain (first :: rest) (before ++ (written ++ (behind ++ (chain ++ later))))

/-- The stage of a number begins at an offset of a text: behind what is written before it the name
of its operator stands there, and goes on as the stage. -/
inductive StageBegins (chain : Text) (operations : List Operation) (stage : Nat) (t : Text)
    (offset : Nat) : Prop
  | intro {operation : Operation} {before name call : Text} (behind : Text)
      (member : operations[stage]? = some operation)
      (earlier : WritesBefore chain (operations.take stage) before)
      (place : offset = before.byteLength)
      (named : WritesName operation.operator.name.toList name)
      (writes : WritesStage operation (name ++ call))
      (split : t = before ++ (name ++ (call ++ behind)))

/-- A fault of a pipeline is that of one of its stages, unless there is none. -/
theorem FirstFault.lt_length {operations : List Operation} {stage : Nat} {fault : PipelineFault}
    (first : FirstFault operations stage fault) (nonempty : operations ≠ []) :
    stage < operations.length := by
  cases first with
  | empty => exact absurd rfl nonempty
  | noSearch | badGlob => exact Nat.zero_lt_succ _
  | behind =>
    simp only [List.length_cons, List.length_append]
    omega

/-- Where a stage begins so many bytes stand in front of it. -/
theorem StageBegins.exists_before {chain t : Text} {operations : List Operation}
    {stage offset : Nat} (begins : StageBegins chain operations stage t offset) :
    ∃ before behind, t = before ++ behind ∧ offset = before.byteLength := by
  obtain ⟨behind, -, -, place, -, -, split⟩ := begins
  exact ⟨_, _, split, place⟩

namespace Rule

/-- The first fault among later stages is that of the first of them that may not follow. -/
theorem laterFault?_eq_some_iff (number stage : Nat) (operations : List Operation)
    (fault : PipelineFault) :
    laterFault? number operations = some (stage, fault) ↔
      ∃ earlier operation later, operations = earlier ++ operation :: later ∧
        stage = number + earlier.length ∧ (∀ other ∈ earlier, other.MayFollow) ∧
        operation.FaultBehind fault := by
  constructor
  · intro found
    induction operations generalizing number with
    | nil => cases found
    | cons first rest inductionHypothesis =>
      rw [laterFault?] at found
      split at found
      · rename_i faulty
        cases found
        exact ⟨[], first, rest, rfl, rfl, by simp,
          (first.fault?_false_eq_some_iff _).1 faulty⟩
      · rename_i faultless
        obtain ⟨earlier, operation, later, rfl, rfl, follow, faulty⟩ :=
          inductionHypothesis (number + 1) found
        refine ⟨first :: earlier, operation, later, rfl, ?_, ?_, faulty⟩
        · rw [List.length_cons]
          omega
        · exact List.forall_mem_cons.2 ⟨first.fault?_false_eq_none_iff.1 faultless, follow⟩
  · rintro ⟨earlier, operation, later, rfl, rfl, follow, faulty⟩
    induction earlier generalizing number with
    | nil =>
      rw [List.nil_append, laterFault?, (operation.fault?_false_eq_some_iff _).2 faulty]
      rfl
    | cons first earlier inductionHypothesis =>
      obtain ⟨may, others⟩ := List.forall_mem_cons.1 follow
      rw [List.cons_append, laterFault?, first.fault?_false_eq_none_iff.2 may]
      simp only [inductionHypothesis (number + 1) others, List.length_cons]
      congr 2
      omega

/-- A pipeline that begins with a search is at fault for the glob of the search, or behind it. -/
theorem pipelineFault?_search (pattern files : Text) (later : List Operation) :
    pipelineFault? (.grep pattern files :: later) =
      (Glob.fault? files).elim (laterFault? 1 later) fun fault => some (0, .badFileGlob fault) := by
  rw [pipelineFault?, if_neg (by simp [Operation.operator]), Operation.fault?, if_pos rfl]
  cases Glob.fault? files <;> rfl

/-- The fault that is found in a pipeline is its first one. -/
theorem pipelineFault?_eq_some_iff (operations : List Operation) (stage : Nat)
    (fault : PipelineFault) :
    pipelineFault? operations = some (stage, fault) ↔ FirstFault operations stage fault := by
  constructor
  · intro found
    cases operations with
    | nil =>
      cases found
      exact .empty
    | cons first rest =>
      cases first with
      | grep pattern files =>
        rw [pipelineFault?_search] at found
        cases glob : Glob.fault? files with
        | some globFault =>
          rw [glob] at found
          cases found
          exact .badGlob glob
        | none =>
          rw [glob] at found
          obtain ⟨earlier, operation, later, rfl, rfl, follow, faulty⟩ :=
            (laterFault?_eq_some_iff 1 stage rest fault).1 found
          rw [Nat.add_comm]
          exact .behind glob follow faulty
      | _ =>
        cases found
        exact .noSearch Operator.noConfusion
  · intro faulty
    cases faulty with
    | empty => rfl
    | noSearch other => rw [pipelineFault?, if_pos other]
    | badGlob faulty => rw [pipelineFault?_search, faulty, Option.elim_some]
    | @behind pattern files earlier later operation fault sound follow faulty =>
      rw [pipelineFault?_search, sound, Option.elim_none, Nat.add_comm]
      exact (laterFault?_eq_some_iff 1 _ _ fault).2
        ⟨earlier, operation, later, rfl, rfl, follow, faulty⟩

/-- A pipeline is refused for its first fault, at the beginning of its stage. -/
theorem admit_eq_error_iff (output : Text) (operations : List Operation) (starts : List Nat)
    (error : PipelineError) :
    Rule.admit output operations starts = .error error ↔
      ∃ stage, FirstFault operations stage error.fault ∧
        error.position = starts[stage]?.getD 0 := by
  obtain ⟨position, fault⟩ := error
  unfold Rule.admit
  constructor
  · intro refused
    split at refused
    · cases refused
    · rename_i stage found checked
      cases refused
      exact ⟨stage, (pipelineFault?_eq_some_iff _ _ _).1 checked, rfl⟩
  · rintro ⟨stage, first, rfl⟩
    have found := (pipelineFault?_eq_some_iff _ _ _).2 first
    split
    · rename_i checked
      rw [found] at checked
      cases checked
    · rename_i other again checked
      rw [found] at checked
      cases checked
      rfl

/-- The first stage begins behind white space. -/
theorem stageBegins_first {chain t rest : Text} {first : Operation} (later : List Operation)
    (read : stage (Text.trimStart t) = .ok (first, rest)) :
    StageBegins chain (first :: later) 0 t (positionOf t (Text.trimStart t)) := by
  obtain ⟨-, gap, blankBefore, split⟩ := Text.exists_gap t
  obtain ⟨written, begins, writes⟩ := (stage_eq_ok_iff _ _ _).1 read
  have place : positionOf t (Text.trimStart t) = gap.byteLength := by
    have behind := positionOf_behind gap (List.suffix_refl (Text.trimStart t))
    rwa [← split, positionOf, positionOf, Nat.sub_self, Nat.add_zero] at behind
  cases writes with
  | @call name between inner named blank arguments =>
    refine .intro rest rfl (.nil blankBefore) place named (.call named blank arguments) ?_
    rw [split, begins, List.append_assoc]

/-- Behind a further stage and the chain token a stage begins as far ahead as they are long. -/
theorem stageBegins_later {chain rest : Text} {operations : List Operation} {stage offset : Nat}
    {first : Operation} {before written gap : Text} (blankBefore : Text.Blank before)
    (writes : WritesStage first written) (blankBehind : Text.Blank gap)
    (begins : StageBegins chain operations stage rest offset) :
    StageBegins chain (first :: operations) (stage + 1)
      (before ++ (written ++ (gap ++ (chain ++ rest))))
      ((before ++ (written ++ (gap ++ chain))).byteLength + offset) := by
  obtain ⟨behind, member, earlier, rfl, named, call, rfl⟩ := begins
  have longer := WritesBefore.cons blankBefore writes blankBehind earlier
  refine .intro behind member longer ?_ named call (by simp only [List.append_assoc])
  simp only [Text.byteLength_append, Nat.add_assoc]

/-- The stages that are read begin where the texts do that are kept with them. -/
theorem stageBegins_of_stages {chain t : Text} {found : List (Operation × Text)}
    (read : stages chain t = .ok found) {stage : Nat} {operation : Operation} {begins : Text}
    (kept : found[stage]? = some (operation, begins)) :
    begins <:+ t ∧ StageBegins chain (found.map (·.1)) stage t (positionOf t begins) := by
  fun_induction stages chain t generalizing found stage with
  | case1 | case3 | case4 => cases read
  | case2 t start first rest one =>
    cases read
    cases stage with
    | zero =>
      obtain ⟨rfl, rfl⟩ := Prod.mk.inj (Option.some.inj kept)
      exact ⟨suffix_trimStart (List.suffix_refl t), stageBegins_first [] one⟩
    | succ stage => cases kept
  | case5 t start first rest one c others remaining next chained _ more moreRead =>
    rename_i inductionHypothesis
    cases read
    cases stage with
    | zero =>
      obtain ⟨rfl, rfl⟩ := Prod.mk.inj (Option.some.inj kept)
      exact ⟨suffix_trimStart (List.suffix_refl t), stageBegins_first _ one⟩
    | succ stage =>
      obtain ⟨before, written, gap, blankBefore, writes, blankBehind, split⟩ :=
        exists_stage_between one
      rw [remaining, (Text.after?_eq_some_iff _ _ _).1 chained] at split
      obtain ⟨ends, place⟩ := inductionHypothesis moreRead kept
      have later := stageBegins_later blankBefore writes blankBehind place
      have joined : t = before ++ (written ++ (gap ++ chain)) ++ next := by simp [split]
      rw [← positionOf_behind _ ends, ← joined, ← split] at later
      exact ⟨ends.trans (joined ▸ List.suffix_append _ next), later⟩

/-- The first of the stages that are read begins behind the white space in front. -/
theorem exists_cons_of_stages {chain t : Text} {found : List (Operation × Text)}
    (read : stages chain t = .ok found) :
    ∃ first more, found = (first, Text.trimStart t) :: more := by
  fun_induction stages chain t with
  | case1 | case3 | case4 => cases read
  | case2 | case5 =>
    cases read
    exact ⟨_, _, rfl⟩

/-- Where stages are read behind another one, they are read on their own behind the chain token. -/
theorem stages_of_behind {chain before written gap later : Text} {first : Operation}
    {found : List (Operation × Text)} (notBlank : Text.trim chain ≠ [])
    (blankBefore : Text.Blank before) (writes : WritesStage first written)
    (blankBehind : Text.Blank gap)
    (read : stages chain (before ++ (written ++ (gap ++ (chain ++ later)))) = .ok found) :
    ∃ start more, found = (first, start) :: more ∧ stages chain later = .ok more := by
  -- A token that begins with white space is never found, so it has not been read here.
  by_cases visible : Text.Visible chain
  · have nonempty : chain ≠ [] := by
      rintro rfl
      exact notBlank rfl
    obtain ⟨start, moved⟩ := stages_behind visible nonempty blankBefore writes blankBehind later
    rw [moved] at read
    obtain ⟨more, behind, rfl⟩ := (map_eq_ok_iff _ _ _).1 read
    exact ⟨start, more, rfl, behind⟩
  · obtain ⟨rest, failed⟩ :=
      stages_behind_blank visible notBlank (.last blankBefore writes blankBehind) later
    simp only [List.append_assoc] at failed
    rw [failed] at read
    cases read

/-- A stage begins nowhere but where the text does that is kept with it. -/
theorem offset_of_stageBegins {chain t : Text} {found : List (Operation × Text)}
    (notBlank : Text.trim chain ≠ []) (read : stages chain t = .ok found) {stage offset : Nat}
    {operation : Operation} {begins : Text} (kept : found[stage]? = some (operation, begins))
    (place : StageBegins chain (found.map (·.1)) stage t offset) :
    offset = positionOf t begins := by
  obtain ⟨behind, -, earlier, rfl, named, writes, rfl⟩ := place
  rename_i owner before name call
  -- The stages in front are read one by one, each up to where the next is written.
  generalize taken : (found.map (·.1)).take stage = front at earlier
  induction earlier generalizing found stage with
  | @nil gap blank =>
    obtain ⟨first, more, rfl⟩ := exists_cons_of_stages read
    cases stage with
    | succ stage => cases taken
    | zero =>
      have visible := visible_of_writesStage writes behind
      rw [List.append_assoc] at visible
      obtain ⟨-, rfl⟩ := Prod.mk.inj (Option.some.inj kept)
      rw [Text.trimStart_append blank, Text.trimStart_of_visible visible,
        positionOf_behind gap (List.suffix_refl _), positionOf, Nat.sub_self, Nat.add_zero]
  | @cons first rest before written gap later blankBefore one blankBehind _ inductionHypothesis =>
    simp only [List.append_assoc] at read ⊢
    obtain ⟨start, more, rfl, behindRead⟩ :=
      stages_of_behind notBlank blankBefore one blankBehind read
    cases stage with
    | zero => cases taken
    | succ stage =>
      have keptBehind : more[stage]? = some (operation, begins) := kept
      have ends := (stageBegins_of_stages behindRead keptBehind).1
      have same := inductionHypothesis keptBehind behindRead (List.cons.inj taken).2
      have moved := positionOf_behind (before ++ (written ++ (gap ++ chain))) ends
      simp only [List.append_assoc] at moved
      rw [moved, ← same]
      simp only [Text.byteLength_append, Nat.add_assoc]

/-- Stages that are read and not admitted are refused where the first of them at fault begins, and
it begins nowhere else. -/
theorem stageBegins_iff_of_refused {output chain t : Text} {found : List (Operation × Text)}
    {error : PipelineError} (notBlank : Text.trim chain ≠ []) (read : stages chain t = .ok found)
    (refused : Rule.admit output (found.map (·.1))
      (found.map fun (_, begins) => positionOf t begins) = .error error) :
    ∃ stage, FirstFault (found.map (·.1)) stage error.fault ∧
      ∀ offset, StageBegins chain (found.map (·.1)) stage t offset ↔ offset = error.position := by
  obtain ⟨stage, first, place⟩ := (admit_eq_error_iff _ _ _ _).1 refused
  have within := first.lt_length (writesPipeline_of_stages read).ne_nil
  rw [List.length_map] at within
  have kept : found[stage]? = some (found[stage].1, found[stage].2) :=
    List.getElem?_eq_getElem within
  rw [List.getElem?_map, kept] at place
  refine ⟨stage, first, fun offset => ?_⟩
  rw [place]
  constructor
  · exact offset_of_stageBegins notBlank read kept
  · rintro rfl
    exact (stageBegins_of_stages read kept).2

/-- A pipeline is read at offsets without ever missing a slice or standing still, whatever its text
and chain token. An error lies within the text and between two characters, and if the stages are
read, at the first character of the name of the first stage at fault. -/
theorem ofText?_points_at_faults (output t chain : Text) :
    Cursor.ofText? t output chain = some (ofText? output t chain) ∧
      ∀ error, ofText? output t chain = .error error →
        (∃ before behind, t = before ++ behind ∧ error.position = before.byteLength) ∧
        ∀ found, Text.trim chain ≠ [] → stages chain t = .ok found →
          ∃ stage, FirstFault (found.map (·.1)) stage error.fault ∧
            ∀ offset, StageBegins chain (found.map (·.1)) stage t offset ↔
              offset = error.position := by
  refine ⟨Cursor.ofText?_eq_some output chain t, fun error failed => ?_⟩
  rw [ofText?] at failed
  split at failed
  · rename_i blank
    cases failed
    exact ⟨⟨[], t, rfl, rfl⟩, fun _ notBlank => absurd blank notBlank⟩
  · rename_i notBlank
    split at failed
    · rename_i rest fault unread
      cases failed
      obtain ⟨before, split, place⟩ := exists_before (rest_of_stages_error unread)
      refine ⟨⟨before, rest, split, place⟩, fun found _ read => ?_⟩
      rw [unread] at read
      cases read
    · rename_i found read
      obtain ⟨stage, first, place⟩ := stageBegins_iff_of_refused notBlank read failed
      refine ⟨((place _).2 rfl).exists_before, fun other _ again => ?_⟩
      cases read.symm.trans again
      exact ⟨stage, first, place⟩

/-- A second search is pointed at behind a letter of two bytes and a token of three. -/
theorem second_search_is_pointed_at :
    ofText? "k".toList "grep('é', '*') ⇒ Grep('F', '*')".toList "⇒".toList =
        .error ⟨20, .searchNotFirst⟩ ∧
      ∃ stage,
        FirstFault [.grep "é".toList "*".toList, .grep "F".toList "*".toList] stage
          .searchNotFirst ∧
        ∀ offset, StageBegins "⇒".toList [.grep "é".toList "*".toList, .grep "F".toList "*".toList]
          stage "grep('é', '*') ⇒ Grep('F', '*')".toList offset ↔ offset = 20 := by
  have failed : ofText? "k".toList "grep('é', '*') ⇒ Grep('F', '*')".toList "⇒".toList =
      .error ⟨20, .searchNotFirst⟩ := by decide +kernel
  have read : stages "⇒".toList "grep('é', '*') ⇒ Grep('F', '*')".toList =
      .ok [(.grep "é".toList "*".toList, "grep('é', '*') ⇒ Grep('F', '*')".toList),
        (.grep "F".toList "*".toList, "Grep('F', '*')".toList)] :=
    (toOption_eq_some_iff _ _).1 (by decide +kernel)
  exact ⟨failed, ((ofText?_points_at_faults _ _ _).2 _ failed).2 _ (by decide) read⟩

end Rule

end InputDeck
