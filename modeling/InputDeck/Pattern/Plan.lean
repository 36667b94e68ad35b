import InputDeck.Pattern.CharRanges
import InputDeck.Pattern.Expression

/-!
# Plans

An automaton is not made from an expression as it is written but from a plan, in which what can
be said more simply is. Neighbouring characters are one literal, a set of one character is a
literal and a choice among characters or sets is a set. A sequence has no sequences and a choice
no choices among its parts. What takes no characters is not repeated, and what is repeated
exactly once is not repeated either. Branches that all begin with the same parts have these parts
in front of the choice.
-/

namespace InputDeck

/-- What an automaton is made from. Sequences and choices lie to the right. -/
inductive Plan where
  | nothing
  /-- At least one character, taken as it is. -/
  | literal (t : Text)
  /-- One character of a set; there is never just one in it. -/
  | set (ranges : Text.Ranges)
  | boundary (boundary : Boundary)
  | sequence (first rest : Plan)
  | choice (first rest : Plan)
  | repeated (plan : Plan) (counts : Counts)
  | group (number : Nat) (plan : Plan)
deriving DecidableEq

namespace Plan

/-- The plan for a set. -/
def ofRanges (ranges : Text.Ranges) : Plan :=
  match ranges with
  | [(low, high)] => if low = high then literal [Char.ofNat low] else set ranges
  | _ => set ranges

/-- Whether the plan can take no characters at all, whatever the line. -/
def isEmptyOnly : Plan → Bool
  | nothing => true
  | literal _ => false
  | set _ => false
  | boundary _ => true
  | sequence first rest => first.isEmptyOnly && rest.isEmptyOnly
  | choice first rest => first.isEmptyOnly && rest.isEmptyOnly
  | repeated plan _ => plan.isEmptyOnly
  | group _ plan => plan.isEmptyOnly

/-- The number of characters that the plan takes at the least. There is none if some part of it
can take nothing whatever. -/
def leastLength? : Plan → Option Nat
  | nothing => some 0
  | literal t => some t.length
  | set ranges => if ranges = [] then none else some 1
  | boundary _ => some 0
  | sequence first rest => do some ((← first.leastLength?) + (← rest.leastLength?))
  | choice first rest => do some (min (← first.leastLength?) (← rest.leastLength?))
  | repeated plan counts => plan.leastLength?.map (· * counts.least)
  | group _ plan => plan.leastLength?

/-- Whether the plan is known to take a character. -/
def takesSome (plan : Plan) : Bool := plan.leastLength?.any (0 < ·)

/-- Whether every stretch begins where the line begins. -/
def beginsLine : Plan → Bool
  | boundary b => b = .textStart
  | sequence first rest => first.beginsLine || (first.isEmptyOnly && rest.beginsLine)
  | choice first rest => first.beginsLine && rest.beginsLine
  | repeated plan counts => 0 < counts.least && plan.beginsLine
  | group _ plan => plan.beginsLine
  | _ => false

/-- Whether every stretch ends where the line ends. -/
def endsLine : Plan → Bool
  | boundary b => b = .textEnd
  | sequence first rest => rest.endsLine || (rest.isEmptyOnly && first.endsLine)
  | choice first rest => first.endsLine && rest.endsLine
  | repeated plan counts => 0 < counts.least && plan.endsLine
  | group _ plan => plan.endsLine
  | _ => false

/-- The parts of a sequence. -/
def parts : Plan → List Plan
  | nothing => []
  | sequence first rest => first :: rest.parts
  | plan => [plan]

/-- The branches of a choice. -/
def branches : Plan → List Plan
  | choice first rest => first :: rest.branches
  | plan => [plan]

/-- A part in front of other parts; a literal in front of a literal is one with it. -/
def prepend (plan : Plan) (rest : List Plan) : List Plan :=
  match plan, rest with
  | literal s, literal t :: rest => literal (s ++ t) :: rest
  | plan, rest => plan :: rest

/-- The sequence of parts that are simple already. -/
def ofParts : List Plan → Plan
  | [] => nothing
  | [only] => only
  | first :: rest => sequence first (ofParts rest)

/-- The sequence of a row of plans. -/
def inSequence (plans : List Plan) : Plan := ofParts ((plans.flatMap parts).foldr prepend [])

/-- The sequence of two plans. -/
def followedBy (first second : Plan) : Plan := inSequence [first, second]

/-- The choice among branches that are simple already. -/
def ofBranches : List Plan → Plan
  | [] => set []
  | [only] => only
  | first :: rest => choice first (ofBranches rest)

/-- The characters that the plan takes as they are. -/
def literal? : Plan → Option Text
  | literal t => some t
  | _ => none

/-- The character that the plan takes as it is, if it takes just one. -/
def char? : Plan → Option Char
  | literal [c] => some c
  | _ => none

/-- The set that the plan takes a character of. -/
def ranges? : Plan → Option Text.Ranges
  | set ranges => some ranges
  | _ => none

/-- The one set that the branches amount to, if they are all characters or all sets. -/
def asRanges? (plans : List Plan) : Option Text.Ranges :=
  match plans.mapM char? with
  | some chars => some (Text.Ranges.normal (chars.map fun c => (c.toNat, c.toNat)))
  | none => (plans.mapM ranges?).map fun sets => Text.Ranges.normal sets.flatten

/-- The longest common beginning of two rows. -/
def commonParts : List Plan → List Plan → List Plan
  | first :: rest, other :: others => if first = other then first :: commonParts rest others else []
  | _, _ => []

/-- The parts that all branches begin with, if every branch is a sequence. -/
def sharedParts (plans : List Plan) : List Plan :=
  if plans.all fun plan => 1 < plan.parts.length then
    match plans.map parts with
    | [] => []
    | first :: others => others.foldl commonParts first
  else []

/-- The choice among branches, of which some may be choices, where beginnings stay where they
are. -/
def inPlainChoice (plans : List Plan) : Plan :=
  let plans := plans.flatMap branches
  match asRanges? plans with
  | some ranges => ofRanges ranges
  | none => ofBranches plans

/-- The choice among branches. What they all begin with stands in front of it; the rests of the
branches then have no beginning in common any more. -/
def inChoice : List Plan → Plan
  | [only] => only
  | plans =>
    let plans := plans.flatMap branches
    match asRanges? plans, sharedParts plans with
    | none, first :: shared =>
      let rests := plans.map fun plan => inSequence (plan.parts.drop (shared.length + 1))
      inSequence (first :: shared ++ [inPlainChoice rests])
    | _, _ => inPlainChoice plans

/-- A plan repeated. -/
def again (plan : Plan) (counts : Counts) : Plan :=
  let ⟨least, most, fewFirst⟩ := counts
  let (least, most) :=
    if plan.isEmptyOnly then (min least 1, some (min (most.getD 1) 1)) else (least, most)
  if most = some 0 then nothing
  else if least = 1 ∧ most = some 1 then plan
  else repeated plan ⟨least, most, fewFirst⟩

end Plan

/-- The plans for the branches of an expression. Only bars make branches, and not those inside of
parentheses. -/
def Expression.branchPlans : Expression → List Plan
  | nothing => [.nothing]
  | one s => [.ofRanges s.ranges]
  | boundary b => [.boundary b]
  | sequence first second =>
    [(Plan.inChoice first.branchPlans).followedBy (Plan.inChoice second.branchPlans)]
  | choice first second => Plan.inChoice first.branchPlans :: second.branchPlans
  | repeated e counts => [(Plan.inChoice e.branchPlans).again counts]
  | group none e => [Plan.inChoice e.branchPlans]
  | group (some number) e => [.group number (Plan.inChoice e.branchPlans)]

/-- The plan for an expression. -/
def Expression.plan (e : Expression) : Plan := Plan.inChoice e.branchPlans

end InputDeck
