import InputDeck.Proofs.Outcome
import InputDeck.Report.Stage

/-!
# Why a stage fails

An operation fails if it does not take the shape before it, and otherwise for reasons of its own: a
search for its glob or for what stands in the place of the directory, the others for what is missing
in the lines or in the text before them. The pattern of a search is never at fault, because a text
that is no expression is searched for as it is.
-/

namespace InputDeck

namespace Operation

/-- The shape that an operation leaves, if it takes the one before it. -/
def shape? : Operation → StageShape → Option StageShape
  | grep .., _ => some .lines
  | get _, .lines => some .text
  | cut .., .text => some .text
  | replace .., .text => some .text
  | substring .., .text => some .text
  | asNumeric, .text => some .number
  | _, _ => none

/-- The failures of an operation on what the stage before it left. -/
inductive FailsWith : Operation → Stage → StageFailure → Prop
  | badGlob {pattern files : Text} {fault : GlobFault} (faulty : Glob.fault? files = some fault)
      (input : Stage) : FailsWith (.grep pattern files) input (.badPattern (.badGlob fault))
  | unreadable (pattern files : Text) (input : Stage) :
      FailsWith (.grep pattern files) input .unreadable
  | noLines (index : Int64) : FailsWith (.get index) (.lines []) (.emptyInput .get)
  | noLine (index : Int64) (found : List Text) :
      FailsWith (.get index) (.lines found) (.indexOutOfRange .get index found.length)
  | noField (delimiter : Text) (index : Int64) (t : Text) :
      FailsWith (.cut delimiter index) (.text t)
        (.indexOutOfRange .cut index (Text.fields delimiter t).length)
  | noMark {start stop marker : Text} (isMark : marker = start ∨ marker = stop) (t : Text) :
      FailsWith (.substring start stop) (.text t) (.markerNotFound marker)
  | noNumber (t : Text) : FailsWith .asNumeric (.text t) (.notNumeric t)
  | mismatch {operation : Operation} {input : Stage} (refused : operation.shape? input.shape = none)
      (expected : StageShape) :
      FailsWith operation input (.shapeMismatch (.stage operation.operator) expected input.shape)

variable {failure : StageFailure}

/-- A search fails for its glob or for what stands in the place of the directory. -/
theorem failsWith_of_search {engine : Engine} {workdir : Workdir} {pattern files : Text}
    (input : Stage) (failed : search engine workdir pattern files = .error failure) :
    FailsWith (.grep pattern files) input failure := by
  unfold search at failed
  split at failed
  · rename_i error unread
    cases unread
  · split at failed
    · rename_i error unread
      cases failed
      unfold Pattern.ofText? at unread
      simp only at unread
      split at unread
      · cases unread
      · rename_i fault faulty
        cases unread
        exact .badGlob faulty input
    · split at failed
      · cases failed
      · cases failed
      · cases failed
        exact .unreadable pattern files input

/-- No line is taken if there are none or too few. -/
theorem failsWith_of_getLine {index : Int64} {found : List Text}
    (failed : getLine index found = .error failure) :
    FailsWith (.get index) (.lines found) failure := by
  unfold getLine at failed
  split at failed
  · rename_i empty
    rw [List.isEmpty_iff] at empty
    cases failed
    subst empty
    exact .noLines index
  · split at failed
    · cases failed
    · cases failed
      exact .noLine index found

/-- No field is taken if there are too few. -/
theorem failsWith_of_cutField {delimiter : Text} {index : Int64} {t : Text}
    (failed : cutField delimiter index t = .error failure) :
    FailsWith (.cut delimiter index) (.text t) failure := by
  simp only [cutField] at failed
  split at failed
  · cases failed
  · cases failed
    exact .noField delimiter index t

/-- Nothing is selected if a mark is missing. -/
theorem failsWith_of_between {start stop t : Text} (failed : between start stop t = .error failure) :
    FailsWith (.substring start stop) (.text t) failure := by
  unfold between at failed
  split at failed
  · cases failed
    exact .noMark (.inl rfl) t
  · split at failed
    · cases failed
      exact .noMark (.inr rfl) t
    · cases failed

/-- A text that is no number is not taken for one. -/
theorem failsWith_of_asNumber {t : Text} (failed : asNumber t = .error failure) :
    FailsWith .asNumeric (.text t) failure := by
  unfold asNumber at failed
  split at failed
  · cases failed
  · cases failed
    exact .noNumber t

/-- An operation fails in one of these ways, whatever the engine and the working directory. -/
theorem failsWith_of_run {engine : Engine} {workdir : Workdir} {operation : Operation}
    {input : Stage} (failed : operation.run engine workdir input = .error failure) :
    operation.FailsWith input failure := by
  cases operation with
  | grep pattern files => exact failsWith_of_search input ((map_eq_error_iff _ _ _).1 failed)
  | get index =>
    cases input with
    | lines found => exact failsWith_of_getLine ((map_eq_error_iff _ _ _).1 failed)
    | _ =>
      cases failed
      exact .mismatch rfl .lines
  | cut delimiter index =>
    cases input with
    | text t => exact failsWith_of_cutField ((map_eq_error_iff _ _ _).1 failed)
    | _ =>
      cases failed
      exact .mismatch rfl .text
  | replace old new =>
    cases input with
    | text t => cases failed
    | _ =>
      cases failed
      exact .mismatch rfl .text
  | substring start stop =>
    cases input with
    | text t => exact failsWith_of_between ((map_eq_error_iff _ _ _).1 failed)
    | _ =>
      cases failed
      exact .mismatch rfl .text
  | asNumeric =>
    cases input with
    | text t => exact failsWith_of_asNumber ((map_eq_error_iff _ _ _).1 failed)
    | _ =>
      cases failed
      exact .mismatch rfl .text

end Operation

end InputDeck
