import InputDeck.Pattern.Glob
import InputDeck.Text.Quoted
import InputDeck.Text.Search

/-!
# Patterns

A pattern is text with a way to match it. A literal is found where it occurs in a line, and an
expression where it takes a stretch of one. Report lines are searched in both ways at once:
search text copied from a report often holds characters with a meaning in expressions and should
still find the line it was copied from, so text that is no expression is a literal only. A glob
covers a whole name.

Which texts are expressions and which lines they take a stretch of is left to an engine. Nothing
is assumed of it, so what is said of patterns and of reports holds for every engine.
-/

namespace InputDeck

/-- An engine for expressions: whether a text is an expression and, if it is one, whether it takes
a stretch of a line. -/
structure Engine where
  compile? : Text → Option (Text → Bool)

/-- A pattern, with what it was read as. -/
inductive Matcher where
  | literal
  | expression (takes : Text → Bool)
  /-- A literal, and an expression if the text is one. -/
  | search (takes : Option (Text → Bool))
  | glob

/-- The ways to match a pattern. -/
inductive MatchMode where
  | literal
  | expression
  | search
  | glob
deriving DecidableEq

/-- Why a text is no pattern. -/
inductive PatternError where
  | badExpression
  | badGlob (fault : GlobFault)
deriving DecidableEq

/-- What an error of a pattern reads like, where it does not depend on how expressions are
explained. -/
def PatternError.message? : PatternError → Option String
  | badExpression => none
  | badGlob fault => some ("glob error: " ++ fault.message)

/-- Text and what it was read as. -/
structure Pattern where
  source : Text
  matcher : Matcher

namespace Pattern

/-- The mode a pattern was read in. -/
def mode (p : Pattern) : MatchMode :=
  match p.matcher with
  | .literal => .literal
  | .expression _ => .expression
  | .search _ => .search
  | .glob => .glob

/-- Reads a pattern. -/
def ofText? (engine : Engine) (mode : MatchMode) (source : Text) : Except PatternError Pattern :=
  match mode with
  | .literal => .ok ⟨source, .literal⟩
  | .expression =>
    match engine.compile? source with
    | some takes => .ok ⟨source, .expression takes⟩
    | none => .error .badExpression
  | .search => .ok ⟨source, .search (engine.compile? source)⟩
  | .glob =>
    match Glob.fault? source with
    | none => .ok ⟨source, .glob⟩
    | some fault => .error (.badGlob fault)

/-- Whether the pattern matches. -/
def isMatch (p : Pattern) (t : Text) : Bool :=
  match p.matcher with
  | .literal => Text.contains p.source t
  | .expression takes => takes t
  | .search takes => Text.contains p.source t || takes.any (· t)
  | .glob => Glob.covers p.source t

end Pattern

/-- The name of a mode. -/
def MatchMode.name : MatchMode → String
  | literal => "Literal"
  | expression => "Regexp"
  | search => "Grep"
  | glob => "Glob"

/-- A pattern as it is shown to whoever looks for a mistake. -/
def Pattern.describe (p : Pattern) : String :=
  "Pattern \x7b src: " ++ String.ofList (Text.quoted p.source) ++ ", mode: " ++ p.mode.name
    ++ " \x7d"

end InputDeck
