import InputDeck.Session
import InputDeck.Proofs.Report.Admission
import InputDeck.Proofs.Template.Failures

/-!
# What sessions keep

A step that fails leaves a study as it was. Failing steps can therefore be left out of a run: the
study stands where it stood, and the other steps answer as they did.

A template that is part of a study has been read, and a rule has been admitted. Both hold before a
study begins and are kept by every step, so whatever the steps were, no pattern is at fault when a
rule is run, and behind the reading of a deck only values are.
-/

namespace InputDeck

/-- Whether a step that answers this has failed. -/
def Answer.isFailure : Answer → Bool
  | modelError _ | unknownModel | templateError _ | noTemplate => true
  | pipelineError _ | failure _ | unknownRule => true
  | _ => false

/-- The errors of a deck that come from values alone. -/
inductive TemplateError.OnValues : TemplateError → Prop
  | unresolved (name : Text) : OnValues (.unresolved name)
  | arithmetic (expression : Text) (line : Nat) (fault : Formula.ArithmeticError) :
      OnValues (.formula expression line (.arithmetic fault))
  | nonNumeric (expression : Text) (line : Nat) (name content : Text) :
      OnValues (.formula expression line (.nonNumeric name content))

namespace Session

/-- What steps answer and what they change in a study: one of its parts if they succeed, and nothing
if they fail. -/
inductive Transition (engine : Engine) (session : Session) : Step → Answer → Session → Prop
  | noModel {taken : Step} (error : ModelError) :
      Transition engine session taken (.modelError error) session
  | unknownModel {taken : Step} : Transition engine session taken .unknownModel session
  | noTemplate {taken : Step} : Transition engine session taken .noTemplate session
  | noRule {taken : Step} (error : PipelineError) :
      Transition engine session taken (.pipelineError error) session
  | unknownRule {taken : Step} : Transition engine session taken .unknownRule session
  | unread {t : Text} (error : TemplateError) :
      Transition engine session (.readTemplate t) (.templateError error) session
  | uncompiled {taken : Step} {template : Template} {useDefaults : Bool} {error : TemplateError}
      (held : session.template = some template)
      (failed : template.compile useDefaults session.scope = .error error) :
      Transition engine session taken (.templateError error) session
  | failed {output : Text} {rule : Rule} {failure : StageFailure}
      (ran : rule.extract engine session.workdir = .error failure) :
      Transition engine session (.runRule output) (.failure failure) session
  | told {taken : Step} {answer : Answer} (done : answer.isFailure = false) :
      Transition engine session taken answer session
  | model {taken : Step} (model : Model) (skipped : List SkippedOutput) :
      Transition engine session taken (.model model skipped) { session with model }
  | template {t : Text} {template : Template} (read : session.model.template? t = .ok template) :
      Transition engine session (.readTemplate t) (.template template)
        { session with template := some template }
  | bindings {taken : Step} {answer : Answer} (bindings : Entries Text Value)
      (done : answer.isFailure = false) :
      Transition engine session taken answer { session with bindings }
  | directory {taken : Step} {answer : Answer} (directory : Directory)
      (done : answer.isFailure = false) :
      Transition engine session taken answer { session with directory }
  | rule {taken : Step} (rule : Rule) :
      Transition engine session taken (.rule rule)
        { session with model := session.model.addRule rule }

variable {engine : Engine} {decoder : Decoder} {session : Session} {taken : Step}

/-- Only a model that was read is taken. -/
theorem transition_takeModel (outcome : Except ModelError (Model × List SkippedOutput)) :
    Transition engine session taken (session.takeModel outcome).1
      (session.takeModel outcome).2 := by
  rcases outcome with error | ⟨model, skipped⟩
  · exact .noModel error
  · exact .model model skipped

/-- Variables that cannot be resolved keep the template from being compiled as well. -/
theorem transition_resolve (useDefaults : Bool) :
    Transition engine session taken (session.resolve useDefaults) session := by
  unfold resolve
  split
  · exact .noTemplate
  · rename_i template held
    split
    · rename_i error failed
      have uncompiled : template.compile useDefaults session.scope = .error error := by
        rw [Template.compile, failed]
      exact .uncompiled held uncompiled
    · exact .told rfl

/-- A deck is used only if it was compiled. -/
theorem transition_withDeck {useDefaults : Bool} {use : Text → Answer × Session}
    (used : ∀ deck, Transition engine session taken (use deck).1 (use deck).2) :
    Transition engine session taken (session.withDeck useDefaults use).1
      (session.withDeck useDefaults use).2 := by
  unfold withDeck
  split
  · exact .noTemplate
  · rename_i template held
    split
    · rename_i error failed
      exact .uncompiled held failed
    · rename_i deck _
      exact used deck

/-- Every step is such a transition. -/
theorem transition_step (engine : Engine) (decoder : Decoder) (session : Session) (taken : Step) :
    Transition engine session taken (step engine decoder session taken).1
      (step engine decoder session taken).2 := by
  cases taken with
  | loadModel description => exact transition_takeModel _
  | loadBuiltIn id =>
    simp only [step]
    split
    · exact .unknownModel
    · exact transition_takeModel _
  | readTemplate t =>
    simp only [step]
    split
    · rename_i error _
      exact .unread error
    · rename_i template read
      exact .template read
  | bind name value => exact .bindings _ rfl
  | unbind name => exact .bindings _ rfl
  | resolve useDefaults => exact transition_resolve useDefaults
  | compile useDefaults => exact transition_withDeck fun _ => .told rfl
  | writeDeck name => exact transition_withDeck fun _ => .directory _ rfl
  | write name entry => exact .directory _ rfl
  | remove name => exact .directory _ rfl
  | addRule output source =>
    simp only [step]
    split
    · rename_i error _
      exact .noRule error
    · rename_i rule _
      exact .rule rule
  | runRule output =>
    simp only [step]
    split
    · exact .unknownRule
    · rename_i rule _
      split
      · rename_i failure ran
        exact .failed ran
      · exact .told rfl
  | extract => exact .told rfl

/-- A transition that fails changes nothing. -/
theorem Transition.eq_of_isFailure {answer : Answer} {next : Session}
    (transition : Transition engine session taken answer next)
    (failed : answer.isFailure = true) : next = session := by
  cases transition with
  | model => cases failed
  | template => cases failed
  | bindings _ done => simp [done] at failed
  | directory _ done => simp [done] at failed
  | rule => cases failed
  | _ => rfl

/-- A step that fails leaves everything as it was. -/
theorem step_of_isFailure
    (failed : (step engine decoder session taken).1.isFailure = true) :
    (step engine decoder session taken).2 = session :=
  (transition_step engine decoder session taken).eq_of_isFailure failed

/-- Taking a step and then more steps. -/
theorem run_cons (taken : Step) (rest : List Step) :
    run engine decoder session (taken :: rest) =
      ((step engine decoder session taken).1 ::
          (run engine decoder (step engine decoder session taken).2 rest).1,
        (run engine decoder (step engine decoder session taken).2 rest).2) := rfl

variable (engine decoder) in
/-- The steps of a run that do not fail. -/
def succeeding (session : Session) : List Step → List Step
  | [] => []
  | taken :: rest =>
    let (answer, next) := step engine decoder session taken
    if answer.isFailure then succeeding next rest else taken :: succeeding next rest

/-- The steps of a run that do not fail give its other answers and lead to the same study. -/
theorem run_succeeding (session : Session) (steps : List Step) :
    run engine decoder session (succeeding engine decoder session steps) =
      ((run engine decoder session steps).1.filter fun answer => !answer.isFailure,
        (run engine decoder session steps).2) := by
  induction steps generalizing session with
  | nil => rfl
  | cons taken rest inductionHypothesis =>
    rw [run_cons, succeeding]
    simp only
    split
    · rename_i failed
      rw [step_of_isFailure failed, inductionHypothesis, List.filter_cons_of_neg (by simp [failed])]
    · rename_i done
      rw [run_cons, inductionHypothesis, List.filter_cons_of_pos (by simp [done])]

/-- The template of a study, if there is one, has been read from a deck. -/
def HasRead (session : Session) : Prop :=
  ∀ template, session.template = some template → ∃ style t, template.Reads style t

/-- There is no template before a study begins. -/
theorem hasRead_start : start.HasRead := by
  intro template held
  cases held

/-- A transition keeps it that templates have been read. -/
theorem Transition.hasRead {answer : Answer} {next : Session}
    (transition : Transition engine session taken answer next) (hasRead : session.HasRead) :
    next.HasRead := by
  cases transition with
  | template read =>
    rintro _ ⟨⟩
    exact ⟨_, _, Template.reads_of_ofText? read⟩
  | _ => exact hasRead

/-- A template that has been read is compiled, or fails on values. -/
theorem HasRead.onValues_of_compile (hasRead : session.HasRead) {template : Template}
    (held : session.template = some template) {useDefaults : Bool} {error : TemplateError}
    (failed : template.compile useDefaults session.scope = .error error) : error.OnValues := by
  obtain ⟨style, t, reads⟩ := hasRead template held
  rcases reads.compile_cases useDefaults session.scope with
    ⟨out, done⟩ | ⟨name, unresolved⟩ | ⟨f, -, cause, atFormula, explained⟩
  · rw [failed] at done
    cases done
  · rw [failed] at unresolved
    cases unresolved
    exact .unresolved name
  · rw [failed] at atFormula
    cases atFormula
    rcases explained with ⟨fault, rfl⟩ | ⟨name, content, rfl⟩
    · exact .arithmetic _ _ fault
    · exact .nonNumeric _ _ name content

/-- What can be said of every answer: no pattern of a rule is at fault, and a deck is at fault only
when it is read. -/
structure Answered (taken : Step) (answer : Answer) : Prop where
  pattern : ∀ error, answer ≠ .failure (.badPattern error)
  values : ∀ error, answer = .templateError error →
    (∃ t, taken = .readTemplate t) ∨ error.OnValues

/-- A transition answers so where templates have been read. -/
theorem Transition.answered {answer : Answer} {next : Session}
    (transition : Transition engine session taken answer next) (hasRead : session.HasRead) :
    Answered taken answer := by
  constructor
  · rintro error rfl
    cases transition with
    | failed ran => exact Rule.extract_ne_badPattern _ _ _ _ ran
    | told done => cases done
    | bindings _ done => cases done
    | directory _ done => cases done
  · rintro error rfl
    cases transition with
    | unread => exact .inl ⟨_, rfl⟩
    | uncompiled held failed => exact .inr (hasRead.onValues_of_compile held failed)
    | told done => cases done
    | bindings _ done => cases done
    | directory _ done => cases done

/-- In a run from a study whose template has been read, every step is answered so, and the template
that the run leaves has been read. -/
theorem HasRead.run (hasRead : session.HasRead) (steps : List Step) :
    List.Forall₂ Answered steps (run engine decoder session steps).1 ∧
      (run engine decoder session steps).2.HasRead := by
  induction steps generalizing session with
  | nil => exact ⟨.nil, hasRead⟩
  | cons taken rest inductionHypothesis =>
    have transition := transition_step engine decoder session taken
    obtain ⟨answered, later⟩ := inductionHypothesis (transition.hasRead hasRead)
    exact ⟨.cons (transition.answered hasRead) answered, later⟩

/-- Whatever is done in a study from its beginning on, every step is answered so. -/
theorem run_start (steps : List Step) :
    List.Forall₂ Answered steps (run engine decoder start steps).1 :=
  (hasRead_start.run steps).1

end Session

end InputDeck
