import InputDeck.Marker.Style
import InputDeck.Text.Search
import InputDeck.Template.Fault

/-!
# Slots

A slot is the place of a variable in a deck: the prefix of variables, the opening delimiter, a
name, a tilde and a declaration if there is one, and the delimiter that closes. Delimiters inside
are balanced, so a declaration may hold pairs of them: the closing delimiter is the first one at
which the text behind the opening has closed more than it has opened.

A declaration in square brackets is an interval, one in braces a set, and any other a literal.
No marker may begin inside a declaration.
-/

namespace InputDeck

/-- The text up to the closing delimiter and the text behind it, where `depth` pairs are open
already. -/
def findClose (openDelimiter closeDelimiter : Char) : Nat → Text → Option (Text × Text)
  | _, [] => none
  | depth, c :: rest =>
    if c = openDelimiter then
      (findClose openDelimiter closeDelimiter (depth + 1) rest).map
        fun (body, following) => (c :: body, following)
    else if c = closeDelimiter then
      match depth with
      | 0 => some ([], rest)
      | depth + 1 =>
        (findClose openDelimiter closeDelimiter depth rest).map
          fun (body, following) => (c :: body, following)
    else
      (findClose openDelimiter closeDelimiter depth rest).map
        fun (body, following) => (c :: body, following)

/-- Finding the closing delimiter is a way of writing the text. -/
theorem findClose_append {openDelimiter closeDelimiter : Char} {depth : Nat}
    {t body following : Text}
    (found : findClose openDelimiter closeDelimiter depth t = some (body, following)) :
    t = body ++ closeDelimiter :: following := by
  induction t generalizing depth body with
  | nil => simp [findClose] at found
  | cons c rest inductionHypothesis =>
    unfold findClose at found
    split at found
    · simp only [Option.map_eq_some_iff, Prod.mk.injEq] at found
      obtain ⟨⟨inner, outer⟩, deeper, rfl, rfl⟩ := found
      simpa using inductionHypothesis deeper
    · split at found
      · rename_i closes
        split at found
        · simp only [Option.some.injEq, Prod.mk.injEq] at found
          obtain ⟨rfl, rfl⟩ := found
          simp [closes]
        · simp only [Option.map_eq_some_iff, Prod.mk.injEq] at found
          obtain ⟨⟨inner, outer⟩, shallower, rfl, rfl⟩ := found
          simpa using inductionHypothesis shallower
      · simp only [Option.map_eq_some_iff, Prod.mk.injEq] at found
        obtain ⟨⟨inner, outer⟩, same, rfl, rfl⟩ := found
        simpa using inductionHypothesis same

/-- The place of a variable: the text between its delimiters, and what that text declares. -/
structure Slot where
  body : Text
  name : Text
  domain : Domain
deriving DecidableEq

namespace Slot

/-- The text of a slot. -/
def source (style : MarkerStyle) (slot : Slot) : Text :=
  style.variableMark :: style.openDelimiter :: (slot.body ++ [style.closeDelimiter])

/-- What stands between a first and a last character. -/
def enclosed? (first last : Char) : Text → Option Text
  | [] => none
  | c :: rest => if c = first ∧ rest.getLast? = some last then some rest.dropLast else none

/-- The number that a part of an interval names. -/
def rangePart? (part : Text) : Except RangeFault Float :=
  match (Value.ofLiteral part).toNumeric?.bind Value.toReal? with
  | some x => .ok x
  | none => .error (.notNumber part)

/-- The interval between square brackets: two ends in order and a default between them. -/
def range? (content : Text) : Except RangeFault Domain :=
  match (Text.splitOnChar ',' content).map Text.trim with
  | [low, high] => do
    let low ← rangePart? low
    let high ← rangePart? high
    if low > high then .error (.reversed low high) else .ok (.range low high none)
  | [low, high, preset] => do
    let low ← rangePart? low
    let high ← rangePart? high
    let preset ← rangePart? preset
    if low > high then .error (.reversed low high)
    else if preset < low ∨ preset > high then .error (.presetOutside preset low high)
    else .ok (.range low high (some preset))
  | _ => .error (.wrongCount content)

/-- The domain that a declaration without white space at its ends stands for. -/
def domain? (name declaration : Text) : Except MarkerFault Domain :=
  match enclosed? '[' ']' declaration with
  | some content => (range? content).mapError (.badRange name)
  | none =>
    match enclosed? '\x7b' '\x7d' declaration with
    | some content =>
      let items := (Text.splitOnChar ',' content).map Text.trim
      if items.any List.isEmpty then .error (.badSet name) else .ok (.set items)
    | none => .ok (.fixed declaration)

/-- The slot with this text between its delimiters. -/
def ofBody? (style : MarkerStyle) (body : Text) : Except MarkerFault Slot :=
  match Text.splitFirst ['~'] body with
  | none =>
    let name := Text.trim body
    if name = [] then .error .emptyName else .ok ⟨body, name, .unconstrained⟩
  | some (nameText, declarationText) =>
    let name := Text.trim nameText
    let declaration := Text.trim declarationText
    if name = [] then .error .emptyName
    else if declaration = [] then .error (.emptyDomain name)
    else if Text.contains [style.variableMark, style.openDelimiter] declaration
        || Text.contains [style.formulaMark, style.openDelimiter] declaration then
      .error (.nestedMarker name)
    else (domain? name declaration).map fun domain => ⟨body, name, domain⟩

end Slot

end InputDeck
