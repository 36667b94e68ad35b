import InputDeck.Text.CaseFolding
import InputDeck.Text.DecimalDigit
import InputDeck.Text.WordCharacter

/-!
# Sets of characters

A line expression takes characters by sets: ranges, the digits, spaces and word characters of
every script, and what unions, intersections and complements make of them. A set that ignores
case takes a character if it has any character that differs from it in case only.
-/

namespace InputDeck

/-- A set of characters. -/
inductive CharSet where
  | empty
  | range (low high : Char)
  | digit
  | space
  | word
  | union (first second : CharSet)
  | inter (first second : CharSet)
  | complement (set : CharSet)
  | ignoringCase (set : CharSet)
deriving DecidableEq, Hashable

namespace CharSet

/-- Whether the set has the character. -/
def contains : CharSet → Char → Bool
  | empty, _ => false
  | range low high, c => low ≤ c && c ≤ high
  | digit, c => Text.isDecimalDigit c
  | space, c => Text.isBlank c
  | word, c => Text.isWordCharacter c
  | union first second, c => first.contains c || second.contains c
  | inter first second, c => first.contains c && second.contains c
  | complement set, c => !set.contains c
  | ignoringCase set, c => (Text.caseVariants c).any set.contains

/-- The set of one character. -/
def single (c : Char) : CharSet := range c c

/-- The set of all characters. -/
def all : CharSet := complement empty

/-- The characters of the first set only. -/
def diff (first second : CharSet) : CharSet := inter first (complement second)

/-- The characters of exactly one of the sets. -/
def symmDiff (first second : CharSet) : CharSet := union (diff first second) (diff second first)

/-- The union of a row of sets. -/
def ofList : List CharSet → CharSet
  | [] => empty
  | [only] => only
  | first :: rest => union first (ofList rest)

end CharSet

end InputDeck
