import InputDeck.Pattern.ByteRanges
import InputDeck.Pattern.Plan
import InputDeck.Text.Utf8
import Std.Data.HashMap

/-!
# The size of an automaton

An expression is refused if the automatons that would search for it, one that reads a line
forward and one that reads it backward, do not both fit into ten mebibytes. Long lists of words
need none. Nothing is searched with them here; only their size is counted, state after state in
the order in which they would be made, and the count stops as soon as it passes the limit.

A state takes a fixed number of bytes, and further ones for each way that a state with several
ways has. Literals and boundaries take a state for each byte and each boundary. A repetition is
written out, so its states are counted as often as it asks for them. A choice among literals is
one tree of their bytes. A set is spelled in byte ranges. Forward, states with the same ways are
made once; backward, so are states that go the same way on the same bytes. Which of them are
remembered is up to a table with a limited number of places: a state is found again unless
another one has taken its place.
-/

namespace InputDeck.Automaton

/-- The direction in which the line is read. -/
inductive Direction where
  | forward
  | backward
deriving DecidableEq

/-- The most bytes that an automaton may take. -/
def sizeLimit : Nat := 10 * 1024 * 1024

/-- The bytes of a state. -/
def stateBytes : Nat := 32

/-- The bytes of a way that is taken on a range of bytes. -/
def linkBytes : Nat := 8

/-- The bytes of a way that is taken without reading. -/
def forkBytes : Nat := 4

/-- How much of an automaton there is: its states, and the bytes beyond those of the states. -/
structure Extent where
  states : Nat
  extra : Nat

/-- All bytes. -/
def Extent.bytes (extent : Extent) : Nat := stateBytes * extent.states + extent.extra

/-- What making a part of an automaton adds, if the automaton does not get too large. -/
abbrev Growth := Extent → Option Extent

namespace Growth

/-- A number of states and further bytes. -/
def add (states extra : Nat) : Growth := fun extent =>
  let extent : Extent := ⟨extent.states + states, extent.extra + extra⟩
  if extent.bytes ≤ sizeLimit then some extent else none

/-- One part and then another. -/
def andThen (first second : Growth) : Growth := fun extent => (first extent).bind second

/-- One part a number of times. -/
def times : Nat → Growth → Growth
  | 0, _, extent => some extent
  | count + 1, part, extent =>
    match part extent with
    | none => none
    | some extent => times count part extent

end Growth

/-! ## Sets -/

/-- The place of a row of numbers in a table of so many places. -/
def placeOf (places : Nat) (numbers : List Nat) : Nat :=
  let mixed := numbers.foldl (fun mix number => (mix ^^^ UInt64.ofNat number) * 1099511628211)
    (14695981039346656037 : UInt64)
  (mixed % UInt64.ofNat places).toNat

/-- A way to a state on a range of bytes. -/
structure Link where
  range : ByteRange
  target : Nat
deriving DecidableEq

/-- The numbers that a link is found by. -/
def Link.numbers (link : Link) : List Nat :=
  [link.range.first.toNat, link.range.last.toNat, link.target]

/-- The rows behind each first range. -/
def byFirstRange : List (List ByteRange) → List (ByteRange × List (List ByteRange))
  | [] => []
  | [] :: rows => byFirstRange rows
  | (range :: row) :: rows =>
    match byFirstRange rows with
    | (other, others) :: groups =>
      if other = range then (range, row :: others) :: groups
      else (range, [row]) :: (other, others) :: groups
    | [] => [(range, [row])]

/-- What is known while a set is spelled forward: the extent, and in each place the ways of a
state and its number. -/
structure ForwardSet where
  extent : Extent
  known : Std.HashMap Nat (List Link × Nat)

/-- The number of places for states of a set that is spelled forward. -/
def forwardPlaces : Nat := 10000

/-- A new state with these ways, remembered in a place. -/
def ForwardSet.makeState (set : ForwardSet) (place : Nat) (links : List Link) :
    Nat × ForwardSet :=
  let ⟨⟨number, extra⟩, known⟩ := set
  (number, ⟨⟨number + 1, extra + linkBytes * links.length⟩, known.insert place (links, number)⟩)

/-- The state with these ways. -/
def ForwardSet.state (set : ForwardSet) (links : List Link) : Nat × ForwardSet :=
  let place := placeOf forwardPlaces (links.flatMap Link.numbers)
  match set.known[place]? with
  | some (sameLinks, number) =>
    if sameLinks = links then (number, set) else set.makeState place links
  | none => set.makeState place links

/-- The state from which the rows, of at most so many ranges, lead to the target. -/
def ForwardSet.stateOfRows (target : Nat) :
    Nat → List (List ByteRange) → ForwardSet → Nat × ForwardSet
  | 0, _, set => (target, set)
  | depth + 1, rows, set =>
    if rows.all List.isEmpty then (target, set)
    else
      let (links, set) := (byFirstRange rows).foldl
        (fun (links, set) (range, rows) =>
          let (next, set) := stateOfRows target depth rows set
          (links ++ [⟨range, next⟩], set))
        (([], set) : List Link × ForwardSet)
      set.state links

/-- What is known while a set is spelled backward: the extent, and in each place a way and the
number of the state that goes it. -/
structure BackwardSet where
  extent : Extent
  known : Std.HashMap Nat (Link × Nat)

/-- The number of places for states of a set that is spelled backward. -/
def backwardPlaces : Nat := 1000

/-- A new state that goes one way, remembered in a place. -/
def BackwardSet.makeState (set : BackwardSet) (place : Nat) (link : Link) : Nat × BackwardSet :=
  let ⟨⟨number, extra⟩, known⟩ := set
  (number, ⟨⟨number + 1, extra⟩, known.insert place (link, number)⟩)

/-- The state that goes one way. -/
def BackwardSet.state (set : BackwardSet) (link : Link) : Nat × BackwardSet :=
  let place := placeOf backwardPlaces [link.target, link.range.first.toNat, link.range.last.toNat]
  match set.known[place]? with
  | some (sameLink, number) =>
    if sameLink = link then (number, set) else set.makeState place link
  | none => set.makeState place link

/-- The states that lead from the last range of a row to the target. -/
def BackwardSet.stateOfRow (target : Nat) (row : List ByteRange) (set : BackwardSet) :
    Nat × BackwardSet :=
  row.foldl (fun (next, set) range => set.state ⟨range, next⟩) (target, set)

/-- A set that the rows spell. -/
def spellingGrowth (direction : Direction) (rows : List (List ByteRange)) : Growth :=
  fun extent =>
    match direction with
    | .forward =>
      let set : ForwardSet := ⟨⟨extent.states + 1, extent.extra⟩, ∅⟩
      Growth.add 0 0 (set.stateOfRows extent.states 4 rows).2.extent
    | .backward =>
      let set : BackwardSet :=
        ⟨⟨extent.states + 2, extent.extra + forkBytes * rows.length⟩, ∅⟩
      Growth.add 0 0
        (rows.foldl (fun set row => (set.stateOfRow (extent.states + 1) row).2) set).extent

/-- A set. One of ASCII characters is a state with a way for each range, and one to meet in. -/
def setGrowth (direction : Direction) (ranges : Text.Ranges) : Growth :=
  if ranges.all (·.2 < 0x80) then Growth.add 2 (linkBytes * ranges.length)
  else spellingGrowth direction (ByteRange.rows ranges)

/-! ## Choices among literals -/

/-- The words without all but one of the empty ones that they begin with. -/
def oneEmptyFirst : List (List UInt8) → List (List UInt8)
  | [] :: [] :: words => oneEmptyFirst ([] :: words)
  | words => words

/-- The words before, between and behind the empty ones. -/
def chunks : List (List UInt8) → List (List (List UInt8))
  | [] => [[]]
  | [] :: words => [] :: chunks words
  | word :: words =>
    match chunks words with
    | [] => [[word]]
    | chunk :: others => (word :: chunk) :: others

/-- The bytes that the words begin with, each once. -/
def firstBytes (words : List (List UInt8)) : List UInt8 := (words.filterMap List.head?).eraseDups

/-- What is left of the words that begin with a byte. -/
def wordsBehind (byte : UInt8) (words : List (List UInt8)) : List (List UInt8) :=
  words.filterMap fun word => if word.head? = some byte then some word.tail else none

/-- The extent of the tree for words of at most so many bytes. A word that is empty here has been
taken whole; it lies before the words behind it, which therefore do not share their bytes with
those in front of it. Where all words are empty there is no state. -/
def treeExtent : Nat → List (List UInt8) → Extent
  | 0, _ => ⟨0, 0⟩
  | depth + 1, words =>
    if words.all List.isEmpty then ⟨0, 0⟩
    else
      let chunks := chunks (oneEmptyFirst words)
      let filled := chunks.filter (!·.isEmpty)
      let ways := filled.length + chunks.length - 1
      filled.foldl
        (fun extent chunk =>
          let bytes := firstBytes chunk
          let extra := if bytes.length = 1 then 0 else linkBytes * bytes.length
          bytes.foldl
            (fun extent byte =>
              let below := treeExtent depth (wordsBehind byte chunk)
              ⟨extent.states + below.states, extent.extra + below.extra⟩)
            ⟨extent.states + 1, extent.extra + extra⟩)
        ⟨1, forkBytes * ways⟩

/-- A choice among literals: the tree of their bytes, and a state to meet in. -/
def treeGrowth (direction : Direction) (literals : List Text) : Growth :=
  let words := literals.map fun t =>
    match direction with
    | .forward => Text.toBytes t
    | .backward => (Text.toBytes t).reverse
  let longest := (words.map List.length).foldl max 0
  let tree := treeExtent (longest + 1) words
  Growth.add (tree.states + 1) tree.extra

/-! ## Plans -/

/-- Whether the last state that is made for a plan has several ways, so that a way behind the plan
takes bytes of its own. -/
def endsInFork (direction : Direction) : Plan → Bool
  | .repeated plan ⟨least, none, _⟩ => 0 < least || plan.takesSome
  | .repeated plan ⟨least, some most, _⟩ => least = most && endsInFork direction plan
  | .group _ plan => direction = .backward && endsInFork direction plan
  | .sequence first rest =>
    match direction with
    | .forward => endsInFork direction rest
    | .backward => endsInFork direction first
  | _ => false

/-- The bytes of a way behind a plan. -/
def joint (direction : Direction) (plan : Plan) : Nat :=
  if endsInFork direction plan then forkBytes else 0

/-- A choice, given what its branches add. -/
def choiceGrowth (direction : Direction) (plan : Plan) : List Growth → Growth
  | [] => Growth.add 1 0
  | [only] => only
  | first :: second :: rest =>
    let branches := plan.branches
    match branches.mapM Plan.literal? with
    | some literals => treeGrowth direction literals
    | none =>
      let ways := branches.foldl (fun bytes plan => bytes + forkBytes + joint direction plan) 0
      rest.foldl Growth.andThen ((first.andThen second).andThen (Growth.add 2 ways))

/-- A repetition, given what each time of it adds. -/
def repeatedGrowth (direction : Direction) (plan : Plan) (once : Growth) (counts : Counts) :
    Growth :=
  let behind := Growth.add 0 (joint direction plan)
  match counts.least, counts.most with
  | 0, some 1 =>
    ((Growth.add 1 0).andThen once).andThen
      ((Growth.add 1 (2 * forkBytes)).andThen behind)
  | 0, none =>
    if plan.takesSome then
      ((Growth.add 1 0).andThen once).andThen ((Growth.add 0 forkBytes).andThen behind)
    else once.andThen ((Growth.add 3 (4 * forkBytes)).andThen behind)
  | least, none => (Growth.times least (once.andThen behind)).andThen (Growth.add 1 forkBytes)
  | least, some most =>
    if least = most then (Growth.times (least - 1) (once.andThen behind)).andThen once
    else
      let needed := if least = 0 then Growth.add 1 0 else Growth.times least (once.andThen behind)
      let optional := (Growth.add 1 (2 * forkBytes)).andThen (once.andThen behind)
      (needed.andThen (Growth.add 1 0)).andThen (Growth.times (most - least) optional)

/-- What the branches of a plan add. -/
def branchGrowths (direction : Direction) : Plan → List Growth
  | .nothing => [Growth.add 1 0]
  | .literal t => [Growth.add (Text.byteLength t) 0]
  | .set ranges => [setGrowth direction ranges]
  | .boundary _ => [Growth.add 1 0]
  | .sequence first rest =>
    let firstGrowth := choiceGrowth direction first (branchGrowths direction first)
    let restGrowth := choiceGrowth direction rest (branchGrowths direction rest)
    match direction with
    | .forward => [(firstGrowth.andThen (Growth.add 0 (joint direction first))).andThen restGrowth]
    | .backward => [(restGrowth.andThen (Growth.add 0 (joint direction rest))).andThen firstGrowth]
  | .choice first rest =>
    choiceGrowth direction first (branchGrowths direction first) :: branchGrowths direction rest
  | .repeated plan counts =>
    let once := choiceGrowth direction plan (branchGrowths direction plan)
    [repeatedGrowth direction plan once counts]
  | .group _ plan =>
    let inside := choiceGrowth direction plan (branchGrowths direction plan)
    match direction with
    | .forward =>
      [((Growth.add 1 0).andThen inside).andThen (Growth.add 1 (joint direction plan))]
    | .backward => [inside]

/-- What comes before a plan: a state that passes on, or three that let the search begin at any
byte of the line. -/
def searchGrowth (anchored : Bool) : Growth :=
  if anchored then Growth.add 1 0 else Growth.add 3 (linkBytes + 2 * forkBytes)

/-- The whole automaton. Forward, it tells where the stretch begins and ends. -/
def growth (direction : Direction) (plan : Plan) : Growth :=
  let inside := choiceGrowth direction plan (branchGrowths direction plan)
  let ending := Growth.add 1 (joint direction plan)
  match direction with
  | .forward =>
    (((searchGrowth plan.beginsLine).andThen (Growth.add 1 0)).andThen inside).andThen
      (ending.andThen (Growth.add 1 0))
  | .backward => ((searchGrowth plan.endsLine).andThen inside).andThen ending

/-- Whether a plan is a choice among so many literals, and nothing else, that they are looked for
without an automaton. -/
def isWordList (plan : Plan) : Bool :=
  let branches := plan.branches
  3000 ≤ branches.length && branches.all (·.literal?.isSome)

/-- Whether the automatons for a plan are small enough, or there is no need for them. -/
def fits (plan : Plan) : Bool :=
  isWordList plan
    || ((growth .forward plan ⟨0, 0⟩).isSome && (growth .backward plan ⟨0, 0⟩).isSome)

end InputDeck.Automaton
