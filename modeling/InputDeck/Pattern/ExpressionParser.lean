import InputDeck.Pattern.AutomatonSize
import InputDeck.Pattern.Basic
import InputDeck.Pattern.ClassParser

/-!
# Reading line expressions

An expression is a choice of sequences separated by bars. A repetition follows what it repeats: a
star, a plus sign, a question mark, or a count or a range of counts in braces, and a question
mark behind it changes nothing about whether a line matches. Parentheses group; behind the
opening one may stand a name, or flags, which hold up to the end of the group they stand in or,
with a colon, inside their own group. The flags ignore case, let the line boundaries lie next to
newlines, let a point take newlines, and prefer short matches. A closing brace or bracket stands
for itself; an opening brace that begins no repetition, a parenthesis without its partner, a
repetition of nothing, a condition on what stands before or after, a reference to a group and an
unknown letter behind a backslash are refused. So is an expression that is nested too deeply,
where groups, repetitions, classes, choices, and sequences of more than one item are a level each,
and one whose automatons are too large.

Reading is bounded by a number of steps no less than the length of the text.

These expressions are one engine for patterns. It knows no character classes by general category
or script and no flags but the four above, and nothing that is proved of patterns depends on it.
-/

namespace InputDeck.Expression

/-- A count of a repetition with the white space around it, and what follows. -/
def count? (t : Text) : Option (Nat × Text) :=
  let (digits, rest) := spanDigits (Text.trimStart t)
  if digits = [] ∨ UInt32.size ≤ digitsValue digits then none
  else some (digitsValue digits, Text.trimStart rest)

/-- What stands behind the opening brace of a repetition, with the closing brace. -/
def counts? (t : Text) : Option ((Nat × Option Nat) × Text) :=
  match count? t with
  | none => none
  | some (least, '\x7d' :: rest) => some ((least, some least), rest)
  | some (least, ',' :: '\x7d' :: rest) => some ((least, none), rest)
  | some (least, ',' :: rest) =>
    match count? rest with
    | some (most, '\x7d' :: rest) =>
      if least ≤ most then some ((least, some most), rest) else none
    | _ => none
  | _ => none

/-- Whether a question mark follows a repetition, and what follows that. -/
def turned : Text → Bool × Text
  | '?' :: rest => (true, rest)
  | rest => (false, rest)

/-- The characters of a group's name. -/
def inGroupName (first : Bool) (c : Char) : Bool :=
  let letter := Text.isLetter c || (0x80 ≤ c.toNat && Text.isWordCharacter c)
  if first then c == '_' || letter
  else c == '_' || c == '.' || c == '[' || c == ']' || Text.isDigit c || letter

/-- The name of a group up to the closing angle bracket, and what follows. -/
def groupName? (t : Text) : Option (Text × Text) :=
  match Text.spanWhile (· != '>') t with
  | (first :: others, '>' :: rest) =>
    if inGroupName true first && others.all (inGroupName false) then some (first :: others, rest)
    else none
  | _ => none

/-- One letter of a row of flags, switched on or off. -/
def Flags.set? (flags : Flags) (letter : Char) (on : Bool) : Option Flags :=
  match letter with
  | 'i' => some { flags with ignoreCase := on }
  | 'm' => some { flags with multiLine := on }
  | 's' => some { flags with dotAll := on }
  | 'U' => some { flags with fewFirst := on }
  | 'u' => if on then some flags else none
  | _ => none

/-- A row of flags up to a colon or a closing parenthesis. Letters behind a hyphen are switched
off; no letter stands twice, and the hyphen stands once and not last. -/
def flags? (flags : Flags) (on : Bool) (seen : List Char) : Text → Option (Flags × List Char × Text)
  | [] => none
  | c :: rest =>
    if c = ':' ∨ c = ')' then
      if seen.head? = some '-' then none else some (flags, seen, c :: rest)
    else if c ∈ seen then none
    else if c = '-' then flags? flags false (c :: seen) rest
    else
      match flags.set? c on with
      | none => none
      | some flags => flags? flags on (c :: seen) rest

/-- The groups that are counted so far, the last one first, with the names that they have. -/
abbrev Groups := List (Option Text)

/-- What is read once a parenthesis is open. -/
inductive Opening where
  /-- Flags for the rest of the group around them. -/
  | flags (flags : Flags)
  /-- A group with flags of its own, and with a number if it is counted. -/
  | group (flags : Flags) (number : Option Nat)

/-- What stands behind an opening parenthesis, the groups so far, and what follows. -/
def opening? (flags : Flags) (groups : Groups) : Text → Option (Opening × Groups × Text)
  | '?' :: '=' :: _ => none
  | '?' :: '!' :: _ => none
  | '?' :: '<' :: '=' :: _ => none
  | '?' :: '<' :: '!' :: _ => none
  | '?' :: 'P' :: '<' :: rest => named rest
  | '?' :: '<' :: rest => named rest
  | '?' :: rest =>
    match flags? flags true [] rest with
    | some (flags, _, ':' :: rest) => some (.group flags none, groups, rest)
    | some (flags, seen, ')' :: rest) =>
      if seen.isEmpty then none else some (.flags flags, groups, rest)
    | _ => none
  | rest => some (.group flags (some groups.length), none :: groups, rest)
where
  /-- A group with a name that no other group has. -/
  named (rest : Text) : Option (Opening × Groups × Text) :=
    match groupName? rest with
    | none => none
    | some (name, rest) =>
      if some name ∈ groups then none
      else some (.group flags (some groups.length), some name :: groups, rest)

/-- An item of a sequence: flags, which cannot be repeated, or an expression. -/
abbrev Item := Nested (Option Expression)

/-- The sequence of items in reverse. -/
def sequenceOf (reversed : List Item) : Nested Expression :=
  ⟨inSequence (reversed.reverse.filterMap (·.content)), rowDepth (reversed.map (·.depth))⟩

/-- The choice of the branches before, in reverse, and the items of the last one. -/
def choiceOf (branches : List (Nested Expression)) (items : List Item) : Nested Expression :=
  let branches := sequenceOf items :: branches
  ⟨inChoice (branches.reverse.map (·.content)), rowDepth (branches.map (·.depth))⟩

/-- The expression of one atom. -/
def ofAtom (flags : Flags) : Atom → Expression
  | .char c => one (flags.fold (.single c))
  | .set s => one s
  | .boundary b => boundary b

/-- An item that is not nested. -/
def plainItem (e : Expression) : Item := ⟨some e, 0⟩

/-- An item repeated. -/
def repeatedItem? (flags : Flags) (item : Item) (least : Nat) (most : Option Nat)
    (isTurned : Bool) : Option Item :=
  match item.content with
  | some e =>
    if item.depth < nestLimit then
      some ⟨some (repeated e ⟨least, most, flags.fewFirst != isTurned⟩), 1 + item.depth⟩
    else none
  | none => none

/-- Goes through an expression up to its end or to a closing parenthesis. No more than `room`
groups may be open inside it. -/
def groupFrom? (room : Nat) : Nat → Flags → Groups → List (Nested Expression) → List Item →
    Text → Option (Nested Expression × Groups × Text)
  | 0, _, _, _, _, _ => none
  | steps + 1, flags, groups, branches, items, t =>
    let goOn := fun (item : Item) (rest : Text) =>
      groupFrom? room steps flags groups branches (item :: items) rest
    let repeatLast := fun (least : Nat) (most : Option Nat) (rest : Text) =>
      let (isTurned, rest) := turned rest
      match items with
      | item :: items =>
        match repeatedItem? flags item least most isTurned with
        | none => none
        | some item => groupFrom? room steps flags groups branches (item :: items) rest
      | [] => none
    match t with
    | [] => some (choiceOf branches items, groups, [])
    | ')' :: rest => some (choiceOf branches items, groups, ')' :: rest)
    | '|' :: rest => groupFrom? room steps flags groups (sequenceOf items :: branches) [] rest
    | '(' :: rest =>
      match opening? flags groups rest with
      | none => none
      | some (.flags flags, groups, rest) =>
        groupFrom? room steps flags groups branches (⟨none, 0⟩ :: items) rest
      | some (.group inner number, groups, rest) =>
        if room = 0 then none
        else
          match groupFrom? (room - 1) steps inner groups [] [] rest with
          | some (⟨e, depth⟩, groups, ')' :: rest) =>
            groupFrom? room steps flags groups branches
              (⟨some (group number e), 1 + depth⟩ :: items) rest
          | _ => none
    | '[' :: rest =>
      match class? flags rest with
      | none => none
      | some (⟨set, depth⟩, rest) => goOn ⟨some (one set), depth⟩ rest
    | '*' :: rest => repeatLast 0 none rest
    | '+' :: rest => repeatLast 1 none rest
    | '?' :: rest => repeatLast 0 (some 1) rest
    | '\x7b' :: rest =>
      match counts? rest with
      | none => none
      | some ((least, most), rest) => repeatLast least most rest
    | '\\' :: rest =>
      match escape? rest with
      | none => none
      | some (atom, rest) => goOn (plainItem (ofAtom flags atom)) rest
    | '.' :: rest =>
      let set := if flags.dotAll then CharSet.all else .complement (.single '\n')
      goOn (plainItem (one set)) rest
    | '^' :: rest =>
      goOn (plainItem (boundary (if flags.multiLine then .lineStart else .textStart))) rest
    | '$' :: rest =>
      goOn (plainItem (boundary (if flags.multiLine then .lineEnd else .textEnd))) rest
    | c :: rest => goOn (plainItem (ofAtom flags (.char c))) rest

/-- The expression that a text is, if it is one. -/
def ofText? (t : Text) : Option Expression :=
  match groupFrom? nestLimit (t.length + 1) ⟨false, false, false, false⟩ [] [] [] t with
  | some (⟨e, depth⟩, _, []) =>
    if depth ≤ nestLimit ∧ Automaton.fits e.plan then some e else none
  | _ => none

/-- The engine of these expressions. -/
def engine : Engine where
  compile? t := (ofText? t).map occursIn

end InputDeck.Expression
