import InputDeck.Entries
import InputDeck.Value.Basic

/-!
# Sweeps

A sweep gives every variable a list of values, and its cases are the ways to choose one value for
each. Cases are numbered from zero, and the number of a case, written with one digit for each
variable to the base of the length of its list, tells which values are chosen. The last variable
has the digit of the units, so the first one varies slowest.

Cases are counted in words of 64 bits before the first one is made, and room is reserved for all of
them. So a sweep may be given up: builds that check their arithmetic refuse a product that is no
word, while the others go on with what is left of it in a word, and no build reserves more bytes
than a row may take. Whether so much memory is there is not asked here.
-/

namespace InputDeck

/-- The variables of a sweep with their values. -/
abbrev Axes := Entries Text (List Value)

/-- One value for each variable. -/
abbrev Case := List (Text × Value)

/-- How a build counts cases. -/
structure Counting where
  /-- Whether a product that is no word wraps around. Otherwise it is refused. -/
  wraps : Bool
  /-- The bytes that a case takes in a row of cases. -/
  caseBytes : Nat

/-- Why a sweep is given up. -/
inductive SweepFault where
  /-- The number of cases is no word. -/
  | tooManyCases
  /-- The cases take more bytes than a row may. -/
  | tooManyBytes
deriving DecidableEq

/-- The most bytes that a row may take. -/
def maxRowBytes : Nat := 0x7FFFFFFFFFFFFFFF

namespace Counting

/-- A build that checks its arithmetic. -/
def checked : Counting where
  wraps := false
  caseBytes := 72

/-- A build that leaves its arithmetic unchecked. -/
def unchecked : Counting where
  wraps := true
  caseBytes := 72

variable (counting : Counting)

/-- The number of cases with one more list of values. -/
def multiply (count : UInt64) (length : Nat) : Except SweepFault UInt64 :=
  if counting.wraps ∨ count.toNat * length < UInt64.size then .ok (count * UInt64.ofNat length)
  else .error .tooManyCases

/-- The number of cases with more lists of values. -/
def product (count : UInt64) : List (Text × List Value) → Except SweepFault UInt64
  | [] => .ok count
  | (_, values) :: rest =>
    match counting.multiply count values.length with
    | .error fault => .error fault
    | .ok count => product count rest

/-- Reserves room for so many cases. -/
def reserve (count : UInt64) : Except SweepFault Unit :=
  if count.toNat * counting.caseBytes ≤ maxRowBytes then .ok () else .error .tooManyBytes

end Counting

/-- The case of a number, and what is left of the number when every digit is taken. -/
def Case.ofNumber (number : Nat) : List (Text × List Value) → Case × Nat
  | [] => ([], number)
  | (name, values) :: rest =>
    let (chosen, number) := Case.ofNumber number rest
    let value := values[number % values.length]?.getD default
    ((name, value) :: chosen, number / values.length)

/-- The cases of a sweep in the order of their numbers. -/
def grid (counting : Counting) (axes : Axes) : Except SweepFault (List Case) := do
  let count ← counting.product 1 axes.pairs
  counting.reserve count
  return (List.range count.toNat).map fun number => (Case.ofNumber number axes.pairs).1

/-- A short name of a case, which tells every value. -/
def Case.label (choice : Case) : Text :=
  Text.join [','] (choice.map fun (name, value) => name ++ '=' :: value.render)

end InputDeck
