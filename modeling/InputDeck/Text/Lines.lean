import InputDeck.Text.Basic

/-!
# Lines

A text is cut after each newline, so that the raw lines put together are the text again. A deck
line sheds every carriage return and newline at its end, a report line only the newline and one
carriage return before it.
-/

namespace InputDeck.Text

/-- The pieces of a text cut after each newline; none is empty. -/
def rawLines : Text → List Text
  | [] => []
  | c :: rest =>
    if c = '\n' then [c] :: rawLines rest
    else
      match rawLines rest with
      | [] => [[c]]
      | line :: others => (c :: line) :: others

/-- Nothing is lost by cutting a text into raw lines. -/
theorem flatten_rawLines (t : Text) : (rawLines t).flatten = t := by
  induction t with
  | nil => rfl
  | cons c rest inductionHypothesis =>
    unfold rawLines
    split
    · simp [inductionHypothesis]
    · split
      · rename_i empty
        rw [empty] at inductionHypothesis
        simpa using inductionHypothesis
      · rename_i line others cut
        rw [cut] at inductionHypothesis
        simpa using inductionHypothesis

/-- The characters that end a line. -/
def isLineEnd (c : Char) : Bool := c == '\n' || c == '\r'

/-- A raw line without the line ends that close it. -/
def dropLineEnds (raw : Text) : Text := dropEndWhile isLineEnd raw

/-- A raw line without its newline and the carriage return before it. A carriage return that no
newline follows belongs to the line. -/
def dropNewline : Text → Text
  | [] => []
  | ['\n'] => []
  | ['\r', '\n'] => []
  | c :: rest => c :: dropNewline rest

/-- The lines of a report, without what ends them. -/
def lines (t : Text) : List Text := (rawLines t).map dropNewline

end InputDeck.Text
