import InputDeck.Pattern.Expression
import InputDeck.Number.Decimal

/-!
# Reading escapes and character classes

Behind a backslash stands a character that would otherwise have a meaning, a letter for a
control character, a set or a boundary, or the code of a character in hexadecimal digits. A
class in brackets is a union of characters, ranges, sets and classes; two ampersands, hyphens or
tildes combine what stands before them with what follows, from the left. A closing bracket that
stands first is a member, and so are hyphens that stand first or before the closing bracket. A
range has a character at either end, the lesser first.

What is read comes with the depth to which it is nested: a class is one level deeper than what
stands in it, and so is a union of several members and what an operator combines. An expression
may nest up to a limit, and a class is refused as soon as it has more open brackets than that.

Reading a class is bounded by a number of steps no less than the length of the text.
-/

namespace InputDeck.Expression

/-- How an expression is to be understood from a place on. -/
structure Flags where
  ignoreCase : Bool
  /-- The line boundaries lie next to newlines, and not only at the ends. -/
  multiLine : Bool
  /-- A point takes a newline, too. -/
  dotAll : Bool
  /-- A repetition tries few first, and many first if a question mark follows it. -/
  fewFirst : Bool

/-- The depth to which an expression may be nested. -/
def nestLimit : Nat := 250

/-- Something that was read, and the depth to which it is nested. -/
structure Nested (α : Type) where
  content : α
  depth : Nat

/-- The depth of a row of items. A single item is no row. -/
def rowDepth : List Nat → Nat
  | [] => 0
  | [depth] => depth
  | depths => 1 + depths.foldl max 0

/-- What one character or one escape stands for. -/
inductive Atom where
  | char (c : Char)
  | set (set : CharSet)
  | boundary (boundary : Boundary)

/-- The character whose code the hexadecimal digits are. There is none for a surrogate or beyond
the last code point. -/
def hexChar? (digits : Text) : Option Char :=
  match digits.mapM Text.hexDigit? with
  | none => none
  | some values =>
    let code := values.foldl (fun total digit => 16 * total + digit) 0
    if digits ≠ [] ∧ (code < 0xD800 ∨ (0xDFFF < code ∧ code < 0x110000)) then
      some (Char.ofNat code)
    else none

/-- A character given by `count` hexadecimal digits, or by any number of them in braces. -/
def hexEscape? (count : Nat) : Text → Option (Atom × Text)
  | '\x7b' :: rest =>
    let (digits, rest) := Text.spanWhile (· != '\x7d') rest
    match rest with
    | [] => none
    | _ :: rest => (hexChar? digits).map fun c => (.char c, rest)
  | t =>
    if t.length < count then none
    else (hexChar? (t.take count)).map fun c => (.char c, t.drop count)

/-- The boundaries that have a name in braces. -/
def namedBoundary? (name : Text) : Option Boundary :=
  if name = "start".toList then some .wordStart
  else if name = "end".toList then some .wordEnd
  else if name = "start-half".toList then some .wordStartHalf
  else if name = "end-half".toList then some .wordEndHalf
  else none

/-- A word boundary, which may have a name in braces behind it. Braces that do not begin with a
letter or a hyphen are left for a repetition. -/
def wordBoundary? : Text → Option (Atom × Text)
  | '\x7b' :: rest =>
    let inName := fun c => Text.isLetter c || c == '-'
    match Text.spanWhile inName rest with
    | ([], []) => none
    | ([], rest) => some (.boundary .wordEdge, '\x7b' :: rest)
    | (name, '\x7d' :: rest) => (namedBoundary? name).map fun b => (.boundary b, rest)
    | _ => none
  | rest => some (.boundary .wordEdge, rest)

/-- The ASCII characters that a backslash takes as they are: all but letters, digits, and the
angle brackets, which stand for boundaries. -/
def isPlainEscape (c : Char) : Bool :=
  c.toNat < 0x80 && !Text.isLetter c && !Text.isDigit c && c != '<' && c != '>'

/-- What stands behind a backslash. -/
def escape? : Text → Option (Atom × Text)
  | [] => none
  | c :: rest =>
    if isPlainEscape c then some (.char c, rest)
    else
      match c with
      | 'x' => hexEscape? 2 rest
      | 'u' => hexEscape? 4 rest
      | 'U' => hexEscape? 8 rest
      | 'd' => some (.set .digit, rest)
      | 'D' => some (.set (.complement .digit), rest)
      | 's' => some (.set .space, rest)
      | 'S' => some (.set (.complement .space), rest)
      | 'w' => some (.set .word, rest)
      | 'W' => some (.set (.complement .word), rest)
      | 'a' => some (.char '\x07', rest)
      | 'f' => some (.char '\x0c', rest)
      | 't' => some (.char '\t', rest)
      | 'n' => some (.char '\n', rest)
      | 'r' => some (.char '\r', rest)
      | 'v' => some (.char '\x0b', rest)
      | 'A' => some (.boundary .textStart, rest)
      | 'z' => some (.boundary .textEnd, rest)
      | 'b' => wordBoundary? rest
      | 'B' => some (.boundary .notWordEdge, rest)
      | '<' => some (.boundary .wordStart, rest)
      | '>' => some (.boundary .wordEnd, rest)
      | _ => none

/-- The ways to combine two sets in a class. -/
inductive SetOperator where
  | inter
  | diff
  | symmDiff

/-- Two sets combined. -/
def SetOperator.apply (operator : SetOperator) (first second : CharSet) : CharSet :=
  match operator with
  | inter => .inter first second
  | diff => .diff first second
  | symmDiff => .symmDiff first second

/-- The set that is meant where case may be ignored. -/
def Flags.fold (flags : Flags) (set : CharSet) : CharSet :=
  if flags.ignoreCase then .ignoringCase set else set

/-- The classes of ASCII characters that have a name. -/
def namedClass? (name : Text) : Option CharSet :=
  let lower : CharSet := .range 'a' 'z'
  let upper : CharSet := .range 'A' 'Z'
  let digits : CharSet := .range '0' '9'
  let alpha : CharSet := .union lower upper
  let table : List (String × CharSet) :=
    [("alnum", .union alpha digits), ("alpha", alpha), ("ascii", .range '\x00' '\x7f'),
     ("blank", .ofList [.single '\t', .single ' ']),
     ("cntrl", .ofList [.range '\x00' '\x1f', .single '\x7f']), ("digit", digits),
     ("graph", .range '!' '~'), ("lower", lower), ("print", .range ' ' '~'),
     ("punct", .diff (.range '!' '~') (.union alpha digits)),
     ("space", .ofList [.range '\t' '\r', .single ' ']), ("upper", upper),
     ("word", .ofList [alpha, digits, .single '_']),
     ("xdigit", .ofList [digits, .range 'a' 'f', .range 'A' 'F'])]
  (table.find? (·.1.toList == name)).map (·.2)

/-- A class with a name between colons, behind an opening bracket. -/
def colonClass? (flags : Flags) : Text → Option (CharSet × Text)
  | ':' :: rest =>
    let (negated, rest) := match rest with
      | '^' :: rest => (true, rest)
      | rest => (false, rest)
    match Text.spanWhile (· != ':') rest with
    | (name, ':' :: ']' :: rest) =>
      (namedClass? name).map fun set =>
        let set := flags.fold set
        (if negated then .complement set else set, rest)
    | _ => none
  | _ => none

/-- A character or an escape in a class. -/
def classAtom? : Text → Option (Atom × Text)
  | [] => none
  | '\\' :: rest => escape? rest
  | c :: rest => some (.char c, rest)

/-- An atom that stands in a class on its own. -/
def Atom.toSet? : Atom → Option CharSet
  | char c => some (.single c)
  | set s => some s
  | boundary _ => none

/-- A character, a set or a range in a class. -/
def classItem? (t : Text) : Option (CharSet × Text) :=
  match classAtom? t with
  | none => none
  | some (atom, rest) =>
    match rest with
    | [] => none
    | '-' :: ']' :: _ => atom.toSet?.map (·, rest)
    | '-' :: '-' :: _ => atom.toSet?.map (·, rest)
    | '-' :: rest =>
      match atom, classAtom? rest with
      | .char low, some (.char high, rest) =>
        if low ≤ high then some (.range low high, rest) else none
      | _, _ => none
    | rest => atom.toSet?.map (·, rest)

/-- A member of a class that is not nested. -/
def plainMember (set : CharSet) : Nested CharSet := ⟨set, 0⟩

/-- The hyphens at the beginning of a class, and what follows. -/
def leadingHyphens (t : Text) : List (Nested CharSet) × Text :=
  ((t.takeWhile (· == '-')).map fun c => plainMember (.single c), t.dropWhile (· == '-'))

/-- What stands in a class before anything with a meaning: hyphens, or a closing bracket. -/
def leadingMembers (t : Text) : List (Nested CharSet) × Text :=
  match leadingHyphens t with
  | ([], ']' :: rest) => ([plainMember (.single ']')], rest)
  | leading => leading

/-- What a class is before it is folded and negated: the set before an operator combined with the
items behind it. -/
def combine (flags : Flags) (pending : Option (Nested CharSet × SetOperator))
    (items : List (Nested CharSet)) : Nested CharSet :=
  let set := CharSet.ofList (items.reverse.map (·.content))
  let depth := rowDepth (items.map (·.depth))
  match pending with
  | none => ⟨set, depth⟩
  | some (first, operator) =>
    ⟨operator.apply (flags.fold first.content) (flags.fold set), 1 + max first.depth depth⟩

/-- Goes through a class up to its closing bracket; a class inside it is gone through first. No
more than `room` brackets may be open inside it. -/
def classFrom? (flags : Flags) (negated : Bool) (room : Nat) :
    Nat → Option (Nested CharSet × SetOperator) → List (Nested CharSet) → Text →
      Option (Nested CharSet × Text)
  | 0, _, _, _ => none
  | steps + 1, pending, items, t =>
    let operate := fun operator rest =>
      classFrom? flags negated room steps (some (combine flags pending items, operator)) [] rest
    match t with
    | [] => none
    | ']' :: rest =>
      let ⟨set, depth⟩ := combine flags pending items
      let set := flags.fold set
      some (⟨if negated then .complement set else set, 1 + depth⟩, rest)
    | '&' :: '&' :: rest => operate .inter rest
    | '-' :: '-' :: rest => operate .diff rest
    | '~' :: '~' :: rest => operate .symmDiff rest
    | '[' :: rest =>
      match colonClass? flags rest with
      | some (set, rest) =>
        classFrom? flags negated room steps pending (plainMember set :: items) rest
      | none =>
        let (innerNegated, inner) := match rest with
          | '^' :: rest => (true, rest)
          | rest => (false, rest)
        let (leading, inner) := leadingMembers inner
        if room = 0 then none
        else
          match classFrom? flags innerNegated (room - 1) steps none leading.reverse inner with
          | none => none
          | some (inside, rest) =>
            classFrom? flags negated room steps pending (inside :: items) rest
    | t =>
      match classItem? t with
      | none => none
      | some (set, rest) =>
        classFrom? flags negated room steps pending (plainMember set :: items) rest

/-- The class behind an opening bracket, and what follows its closing bracket. -/
def class? (flags : Flags) (t : Text) : Option (Nested CharSet × Text) :=
  let (negated, members) := match t with
    | '^' :: rest => (true, rest)
    | rest => (false, rest)
  let (leading, members) := leadingMembers members
  classFrom? flags negated nestLimit (members.length + 1) none leading.reverse members

end InputDeck.Expression
