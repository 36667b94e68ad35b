import InputDeck.Model.BuiltIn

/-!
# Sessions

A study of a simulation code goes in steps: a model is chosen, a deck read as a template, variables
are bound, decks compiled into the working directory, and outputs extracted from the reports that
the code leaves there. Each step has an answer. A step that fails leaves everything as it was.
Descriptions are read by a decoder, and expressions in searches by an engine.
-/

namespace InputDeck

/-- Where a study stands. -/
structure Session where
  model : Model
  template : Option Template
  bindings : Entries Text Value
  directory : Directory

/-- What can be done next. -/
inductive Step where
  | loadModel (description : Text)
  | loadBuiltIn (id : Text)
  | readTemplate (t : Text)
  | bind (name : Text) (value : Value)
  | unbind (name : Text)
  | resolve (useDefaults : Bool)
  | compile (useDefaults : Bool)
  /-- Compiles the deck into the file with this name. -/
  | writeDeck (name : List UInt8)
  | write (name : List UInt8) (entry : Entry)
  | remove (name : List UInt8)
  | addRule (output : Text) (source : RuleSource)
  | runRule (output : Text)
  | extract

/-- What a step answers. -/
inductive Answer where
  | model (model : Model) (skipped : List SkippedOutput)
  | modelError (error : ModelError)
  | unknownModel
  | template (template : Template)
  | templateError (error : TemplateError)
  | noTemplate
  /-- How many names are bound. -/
  | bindings (count : Nat)
  /-- What the name was bound to. -/
  | unbound (value : Option Value)
  | resolved (values : List (Text × Value))
  | deck (t : Text)
  /-- How many bytes were written. -/
  | written (length : Nat)
  | stored
  | removed (present : Bool)
  | rule (rule : Rule)
  | pipelineError (error : PipelineError)
  | value (value : Value)
  | failure (failure : StageFailure)
  | unknownRule
  | outputs (outputs : Outputs)

namespace Session

/-- A study that has not begun. -/
def start : Session where
  model := Model.empty "session".toList MarkerStyle.standard
  template := none
  bindings := Entries.empty
  directory := Entries.empty

/-- What the variables are bound to. -/
def scope (session : Session) : Bindings := Bindings.ofList session.bindings.pairs

/-- Where the reports are. -/
def workdir (session : Session) : Workdir := .present session.directory

/-- The session with the model that was read. -/
def takeModel (session : Session) :
    Except ModelError (Model × List SkippedOutput) → Answer × Session
  | .error error => (.modelError error, session)
  | .ok (model, skipped) => (.model model skipped, { session with model })

/-- The answer that a compiled deck is turned into. -/
def withDeck (session : Session) (useDefaults : Bool) (use : Text → Answer × Session) :
    Answer × Session :=
  match session.template with
  | none => (.noTemplate, session)
  | some template =>
    match template.compile useDefaults session.scope with
    | .error error => (.templateError error, session)
    | .ok deck => use deck

/-- The values of the variables. -/
def resolve (session : Session) (useDefaults : Bool) : Answer :=
  match session.template with
  | none => .noTemplate
  | some template =>
    match template.resolve useDefaults session.scope with
    | .error error => .templateError error
    | .ok values => .resolved values

section

variable (engine : Engine) (decoder : Decoder)

/-- Takes one step. -/
def step (session : Session) : Step → Answer × Session
  | .loadModel description => session.takeModel (Model.ofText? decoder description)
  | .loadBuiltIn id =>
    match BuiltIn.find? id with
    | none => (.unknownModel, session)
    | some known => session.takeModel (known.model? decoder)
  | .readTemplate t =>
    match session.model.template? t with
    | .error error => (.templateError error, session)
    | .ok template => (.template template, { session with template := some template })
  | .bind name value =>
    let bindings := session.bindings.insert name value
    (.bindings bindings.keys.length, { session with bindings })
  | .unbind name =>
    (.unbound (session.bindings.find? name),
      { session with bindings := session.bindings.erase name })
  | .resolve useDefaults => (session.resolve useDefaults, session)
  | .compile useDefaults => session.withDeck useDefaults fun deck => (.deck deck, session)
  | .writeDeck name =>
    session.withDeck true fun deck =>
      let content := Text.toBytes deck
      (.written content.length,
        { session with directory := session.directory.insert name (.file content) })
  | .write name entry =>
    (.stored, { session with directory := session.directory.insert name entry })
  | .remove name =>
    (.removed (session.directory.find? name).isSome,
      { session with directory := session.directory.erase name })
  | .addRule output source =>
    match Rule.ofSource? output source with
    | .error error => (.pipelineError error, session)
    | .ok rule => (.rule rule, { session with model := session.model.addRule rule })
  | .runRule output =>
    match session.model.rule? output with
    | none => (.unknownRule, session)
    | some rule =>
      match rule.extract engine session.workdir with
      | .error failure => (.failure failure, session)
      | .ok value => (.value value, session)
  | .extract => (.outputs (session.model.extract engine session.workdir), session)

/-- Takes a row of steps: their answers, and where the study stands behind them. -/
def run (session : Session) : List Step → List Answer × Session
  | [] => ([], session)
  | taken :: rest =>
    let (answer, next) := step engine decoder session taken
    let (answers, last) := run next rest
    (answer :: answers, last)

end

end Session

end InputDeck
