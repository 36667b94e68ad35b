import InputDeck.Report.Directory
import InputDeck.Report.Number
import InputDeck.Report.Operation
import InputDeck.Text.Lines
import InputDeck.Value.Basic

/-!
# Running a stage

What goes from stage to stage is a row of lines, a text or a number. A search looks at the files
whose names the glob covers, in the order of their names, and answers with their matching lines
in the order of the file. All other stages look at what the stage before them left and at nothing
else.
-/

namespace InputDeck

/-- What goes from one stage to the next. -/
inductive Stage where
  | lines (found : List Text)
  | text (t : Text)
  | number (x : Float)

/-- What a stage is of. -/
inductive StageShape where
  | lines
  | text
  | number
deriving DecidableEq

/-- What a stage is of. -/
def Stage.shape : Stage → StageShape
  | lines _ => .lines
  | text _ => .text
  | number _ => .number

/-- The name of a shape. -/
def StageShape.name : StageShape → String
  | lines => "lines"
  | text => "text"
  | number => "number"

/-- Where a failure arises: in a stage, or when the last stage has run. -/
inductive FailurePlace where
  | stage (operator : Operator)
  | result
deriving DecidableEq

/-- The name of a place. -/
def FailurePlace.name : FailurePlace → String
  | stage operator => operator.name
  | result => "result"

/-- Why a rule has no value. -/
inductive StageFailure where
  | emptyInput (operator : Operator)
  | indexOutOfRange (operator : Operator) (index : Int64) (length : Nat)
  | markerNotFound (marker : Text)
  | notNumeric (t : Text)
  /-- A value of one shape was expected; `result` expects text or a number. -/
  | shapeMismatch (place : FailurePlace) (expected found : StageShape)
  /-- The working directory or a file in it cannot be read. -/
  | unreadable
  | badPattern (error : PatternError)

/-- What is expected at a place that can take a shape. -/
def expectedName (place : FailurePlace) (expected : StageShape) : String :=
  match place with
  | .stage _ => expected.name
  | .result => "text or number"

/-- What a failure reads like, where that is settled here. -/
def StageFailure.message? : StageFailure → Option String
  | emptyInput operator => some (operator.name ++ ": no input lines")
  | indexOutOfRange operator index length =>
    some (operator.name ++ ": index " ++ String.ofList (renderInt index.toInt)
      ++ " out of range for " ++ String.ofList (renderNat length) ++ " item(s)")
  | markerNotFound marker =>
    some ("substring: marker " ++ String.ofList (Text.quoted marker) ++ " not found")
  | notNumeric t => some ("asNumeric: " ++ String.ofList (Text.quoted t) ++ " is not a number")
  | shapeMismatch place expected found =>
    some (place.name ++ ": expected " ++ expectedName place expected ++ ", got " ++ found.name)
  | unreadable => none
  | badPattern error => error.message?

/-- The item with an index, if there is one. -/
def item? {α : Type} (items : List α) (index : Int64) : Option α :=
  if index.toInt < 0 then none else items[index.toInt.toNat]?

/-- The matching lines of the files whose names match. -/
def searchFiles (linePattern namePattern : Pattern) (directory : Directory) : List Text :=
  let matching := directory.textFiles.filter fun (name, _) => namePattern.isMatch name
  let sorted := matching.mergeSort fun first second => Text.atMost first.1 second.1
  sorted.flatMap fun (_, content) =>
    (Text.lines (Text.ofBytesLenient content)).filter linePattern.isMatch

/-- The matching lines of a working directory. One that is missing has none. -/
def search (engine : Engine) (workdir : Workdir) (pattern files : Text) :
    Except StageFailure (List Text) :=
  match Pattern.ofText? engine .search pattern with
  | .error error => .error (.badPattern error)
  | .ok linePattern =>
    match Pattern.ofText? engine .glob files with
    | .error error => .error (.badPattern error)
    | .ok namePattern =>
      match workdir with
      | .present directory => .ok (searchFiles linePattern namePattern directory)
      | .missing => .ok []
      | .notDirectory => .error .unreadable

/-- The lines that a stage needs. -/
def Stage.toLines (operator : Operator) : Stage → Except StageFailure (List Text)
  | lines found => .ok found
  | other => .error (.shapeMismatch (.stage operator) .lines other.shape)

/-- The text that a stage needs. -/
def Stage.toText (operator : Operator) : Stage → Except StageFailure Text
  | text t => .ok t
  | other => .error (.shapeMismatch (.stage operator) .text other.shape)

/-- One of the lines. -/
def getLine (index : Int64) (lines : List Text) : Except StageFailure Text :=
  if lines.isEmpty then .error (.emptyInput .get)
  else
    match item? lines index with
    | some line => .ok line
    | none => .error (.indexOutOfRange .get index lines.length)

/-- One of the fields between delimiters. -/
def cutField (delimiter : Text) (index : Int64) (t : Text) : Except StageFailure Text :=
  let fields := Text.fields delimiter t
  match item? fields index with
  | some field => .ok field
  | none => .error (.indexOutOfRange .cut index fields.length)

/-- The text between the first start and the next end. -/
def between (start stop t : Text) : Except StageFailure Text :=
  match Text.splitFirst start t with
  | none => .error (.markerNotFound start)
  | some (_, rest) =>
    match Text.splitFirst stop rest with
    | none => .error (.markerNotFound stop)
    | some (inside, _) => .ok inside

/-- The number that a text is. -/
def asNumber (t : Text) : Except StageFailure Float :=
  match readReportNumber? t with
  | some x => .ok x
  | none => .error (.notNumeric t)

/-- Runs one operation on what the stage before left. -/
def Operation.run (engine : Engine) (workdir : Workdir) (operation : Operation) (input : Stage) :
    Except StageFailure Stage :=
  match operation with
  | grep pattern files => (search engine workdir pattern files).map .lines
  | get index => ((input.toLines .get).bind (getLine index)).map .text
  | cut delimiter index => ((input.toText .cut).bind (cutField delimiter index)).map .text
  | replace old new => (input.toText .replace).map fun t => .text (Text.replaceAll old new t)
  | substring start stop => ((input.toText .substring).bind (between start stop)).map .text
  | asNumeric => ((input.toText .asNumeric).bind asNumber).map .number

end InputDeck
