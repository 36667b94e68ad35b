import InputDeck.Pattern.CharSet
import Std.Data.HashSet

/-!
# Line expressions

An expression takes characters by sets, asks about its surroundings without taking any, and is
put together by sequence, choice and repetition. A line matches if the expression takes some
stretch of it.

The match goes through the line once and keeps every expression that may still have to be taken
from here on. Taking one character from an expression leaves the expressions that can follow it,
each of which is kept once. A repetition is not written out: taking a character from it leaves
one repetition with smaller counts, so a count of a million costs no more than a count of two.
-/

namespace InputDeck

/-- A condition on the characters before and after a place. -/
inductive Boundary where
  | textStart
  | textEnd
  | lineStart
  | lineEnd
  | wordEdge
  | notWordEdge
  | wordStart
  | wordEnd
  | wordStartHalf
  | wordEndHalf
deriving DecidableEq, Hashable

/-- Whether a character belongs to a word; there is none beyond either end of a line. -/
def inWord (c : Option Char) : Bool := c.any Text.isWordCharacter

/-- Whether the condition holds between two characters. -/
def Boundary.holds (boundary : Boundary) (before after : Option Char) : Bool :=
  match boundary with
  | textStart => before.isNone
  | textEnd => after.isNone
  | lineStart => before.isNone || before == some '\n'
  | lineEnd => after.isNone || after == some '\n'
  | wordEdge => inWord before != inWord after
  | notWordEdge => inWord before == inWord after
  | wordStart => !inWord before && inWord after
  | wordEnd => inWord before && !inWord after
  | wordStartHalf => !inWord before
  | wordEndHalf => !inWord after

/-- How often something is repeated: at least, and at most where there is a limit. -/
structure Counts where
  least : Nat
  most : Option Nat
  /-- Few repetitions are tried first. That changes the stretch that is found, and not whether
  there is one. -/
  fewFirst : Bool
deriving DecidableEq, Hashable

/-- What a stretch of a line is asked to be. -/
inductive Expression where
  /-- Nothing at all. -/
  | nothing
  /-- One character of the set. -/
  | one (set : CharSet)
  | boundary (boundary : Boundary)
  | sequence (first second : Expression)
  | choice (first second : Expression)
  /-- A number of stretches, one after the other. -/
  | repeated (e : Expression) (counts : Counts)
  /-- What stands in parentheses, with its number if they count it. -/
  | group (number : Option Nat) (e : Expression)
deriving DecidableEq, Hashable

namespace Expression

/-- A sequence, without an empty part. -/
def followedBy (first second : Expression) : Expression :=
  match first, second with
  | nothing, second => second
  | first, nothing => first
  | first, second => sequence first second

/-- The sequence of a row of expressions. -/
def inSequence : List Expression → Expression
  | [] => nothing
  | [only] => only
  | first :: rest => sequence first (inSequence rest)

/-- The choice among a row of expressions. -/
def inChoice : List Expression → Expression
  | [] => nothing
  | [only] => only
  | first :: rest => choice first (inChoice rest)

/-- Whether the expression takes the empty stretch between two characters. -/
def takesNothing (before after : Option Char) : Expression → Bool
  | nothing => true
  | one _ => false
  | boundary b => b.holds before after
  | sequence first second => first.takesNothing before after && second.takesNothing before after
  | choice first second => first.takesNothing before after || second.takesNothing before after
  | repeated e counts => counts.least == 0 || e.takesNothing before after
  | group _ e => e.takesNothing before after

/-- What is left of a repetition once one stretch has begun. Where the stretches may be empty, so
may any number of them before that one, and the least count is met. -/
def again (e : Expression) (counts : Counts) (mayBeEmpty : Bool) : Expression :=
  let least := if mayBeEmpty then 0 else counts.least - 1
  match counts.most with
  | none => repeated e { counts with least }
  | some most => if most ≤ 1 then nothing else repeated e ⟨least, some (most - 1), counts.fewFirst⟩

/-- What is left to take after the character, in every way the expression can take it. -/
def takeChar (before : Option Char) (c : Char) : Expression → List Expression
  | nothing => []
  | one set => if set.contains c then [nothing] else []
  | boundary _ => []
  | sequence first second =>
    let inside := (first.takeChar before c).map (·.followedBy second)
    if first.takesNothing before (some c) then inside ++ second.takeChar before c else inside
  | choice first second => first.takeChar before c ++ second.takeChar before c
  | repeated e counts =>
    if counts.most = some 0 then []
    else
      let rest := e.again counts (e.takesNothing before (some c))
      (e.takeChar before c).map (·.followedBy rest)
  | group _ e => e.takeChar before c

/-- The expressions of a row, each once. -/
def distinct (row : List Expression) : List Expression := (Std.HashSet.ofList row).toList

/-- Whether one of the expressions takes a stretch that begins here, or the expression one that
begins here or later. -/
def matchesFrom (e : Expression) (before : Option Char) (pending : List Expression) :
    Text → Bool
  | [] => (e :: pending).any (·.takesNothing before none)
  | c :: rest =>
    let pending := e :: pending
    pending.any (·.takesNothing before (some c))
      || e.matchesFrom (some c) (distinct (pending.flatMap (·.takeChar before c))) rest

/-- Whether the expression takes some stretch of the line. -/
def occursIn (e : Expression) (line : Text) : Bool := e.matchesFrom none [] line

end Expression

end InputDeck
