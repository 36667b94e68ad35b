import InputDeck.Template.Occurrence
import InputDeck.Text.Slices

/-!
# Scanning with a cursor

A deck can be scanned without being taken apart. A cursor moves along a line, counted in bytes. The
first prefix before an opening delimiter that stands at the cursor or behind it begins a marker,
whose closing delimiter is searched for on the whole rest of the line. The cursor then passes over
a slot, but goes on in the body of a formula, so that the slots in there are found too. All that is
kept of the formula is the offset where its body ends: before that offset no other formula may
begin.

What stands at an offset is sliced off the line, and there is no slice where an offset falls into a
character. Then the scan answers nothing.
-/

namespace InputDeck

/-- The prefix of a kind of marker. -/
def MarkerStyle.mark (style : MarkerStyle) : MarkerKind → Char
  | .slot => style.variableMark
  | .formula => style.formulaMark

/-- The same bytes of a text with so many bytes in front. -/
def Span.shift (span : Span) (bytes : Nat) : Span := ⟨span.start + bytes, span.stop + bytes⟩

/-- The offset of the closing delimiter that is found from an offset of the line on. -/
def closeOffset? (openDelimiter closeDelimiter : Char) (line : Text) (start : Nat) : Option Nat :=
  (line.cut? start).bind fun (_, t) =>
    (findClose openDelimiter closeDelimiter 0 t).map fun (body, _) => start + Text.byteLength body

/-- A closing delimiter that is found stands on the line. -/
theorem lt_of_closeOffset? {openDelimiter closeDelimiter : Char} {line : Text} {start stop : Nat}
    (found : closeOffset? openDelimiter closeDelimiter line start = some stop) :
    start ≤ stop ∧ stop + closeDelimiter.utf8Size ≤ line.byteLength := by
  obtain ⟨⟨before, t⟩, cut, search⟩ := Option.bind_eq_some_iff.1 found
  obtain ⟨⟨body, following⟩, closed, rfl⟩ := Option.map_eq_some_iff.1 search
  obtain ⟨rfl, rfl⟩ := (Text.cut?_eq_some_iff _ _ _ _).1 cut
  simp only [findClose_append closed, Text.byteLength_append, Text.byteLength]
  omega

namespace Cursor

/-- A marker on a line: the bytes that it spans and those between its delimiters. -/
structure RawMarker where
  kind : MarkerKind
  span : Span
  body : Span

/-- What a scan has found, in the order of the text. -/
structure Found where
  slots : List SlotOccurrence
  formulas : List FormulaOccurrence
deriving DecidableEq

namespace Found

/-- Nothing at all. -/
def nothing : Found := ⟨[], []⟩

/-- What was found first and what was found behind it. -/
def append (first later : Found) : Found :=
  ⟨first.slots ++ later.slots, first.formulas ++ later.formulas⟩

end Found

/-- What a scan answers: what it has found or an error, and nothing where a slice is missing. -/
abbrev Answer := Option (Except TemplateError Found)

/-- The answer of a scan that has found something before. -/
def Answer.behind (first : Found) (answer : Answer) : Answer := answer.map (Except.map first.append)

section

variable (style : MarkerStyle)

/-- The kind of the first marker that begins in the text, and the bytes before it. -/
def firstOpening? : Text → Option (MarkerKind × Nat)
  | [] => none
  | c :: rest =>
    match style.opening? c rest with
    | some (kind, _) => some (kind, 0)
    | none => (firstOpening? rest).map fun (kind, before) => (kind, c.utf8Size + before)

/-- The column of an offset. -/
def column? (line : Text) (offset : Nat) : Option Nat :=
  (line.cut? offset).map fun (before, _) => before.length + 1

/-- Where the cursor goes on behind a marker that is found. -/
def RawMarker.next (marker : RawMarker) : Nat :=
  match marker.kind with
  | .slot => marker.span.stop
  | .formula => marker.body.start

/-- The first marker that begins at the cursor or behind it, or the offset of its prefix and what is
wrong with it. -/
def nextMarker? (line : Text) (cursor : Nat) :
    Option (Except (Nat × MarkerFault) (Option RawMarker)) :=
  match line.cut? cursor with
  | none => none
  | some (_, rest) =>
    match firstOpening? style rest with
    | none => some (.ok none)
    | some (kind, before) =>
      let start := cursor + before
      let bodyStart := start + (style.mark kind).utf8Size + style.openDelimiter.utf8Size
      match line.cut? bodyStart with
      | none => none
      | some _ =>
        match closeOffset? style.openDelimiter style.closeDelimiter line bodyStart with
        | none => some (.error (start, .unterminated style.closeDelimiter))
        | some bodyStop =>
          let stop := bodyStop + style.closeDelimiter.utf8Size
          some (.ok (some ⟨kind, ⟨start, stop⟩, ⟨bodyStart, bodyStop⟩⟩))

/-- The cursor gets ahead and does not leave the line. -/
theorem lt_next_of_nextMarker? {style : MarkerStyle} {line : Text} {cursor : Nat}
    {marker : RawMarker} (found : nextMarker? style line cursor = some (.ok (some marker))) :
    cursor < marker.next ∧ marker.next ≤ line.byteLength := by
  unfold nextMarker? at found
  split at found
  · cases found
  · split at found
    · cases found
    · rename_i kind before _
      have positive := (style.mark kind).utf8Size_pos
      simp only at found
      split at found
      · cases found
      · split at found
        · cases found
        · rename_i stop closed
          have bounds := lt_of_closeOffset? closed
          cases found
          cases kind <;> simp only [RawMarker.next] <;> omega

/-- Scans a line from the cursor on. The line begins at an offset of the deck and has a number, and
the cursor may stand in a formula whose body ends at an offset of the line. -/
def scanLine? (line : Text) (offset number : Nat) (inFormula : Option Nat) (cursor : Nat) :
    Answer :=
  match found : nextMarker? style line cursor with
  | none => none
  | some (.error (start, fault)) =>
    (column? line start).map fun column => .error (.malformedMarker number column fault)
  | some (.ok none) => some (.ok .nothing)
  | some (.ok (some marker)) =>
    have _ahead := lt_next_of_nextMarker? found
    let inFormula := inFormula.filter (marker.span.start < ·)
    match column? line marker.span.start, line.slice? marker.body.start marker.body.stop with
    | some column, some body =>
      match marker.kind with
      | .slot =>
        match Slot.ofBody? style body with
        | .error fault => some (.error (.malformedMarker number column fault))
        | .ok s =>
          let occurrence := ⟨s.name, marker.span.shift offset, s.domain, number, column⟩
          (scanLine? line offset number inFormula marker.next).behind ⟨[occurrence], []⟩
      | .formula =>
        let expression := Text.trim body
        if inFormula.isSome then some (.error (.malformedMarker number column .nestedFormula))
        else if expression = [] then some (.error (.malformedMarker number column .emptyFormula))
        else
          let occurrence :=
            ⟨expression, marker.span.shift offset, marker.body.shift offset, number, column⟩
          (scanLine? line offset number (some marker.body.stop) marker.next).behind
            ⟨[], [occurrence]⟩
    | _, _ => none
termination_by line.byteLength - cursor

/-- Scans raw lines, the first of which begins at an offset and has a number. -/
def scanLines? (offset number : Nat) : List Text → Answer
  | [] => some (.ok .nothing)
  | raw :: rest =>
    let line := Text.dropLineEnds raw
    let here := if style.isComment line then some (.ok .nothing)
      else scanLine? style line offset number none 0
    match here with
    | none => none
    | some (.error error) => some (.error error)
    | some (.ok found) => (scanLines? (offset + raw.byteLength) (number + 1) rest).behind found

/-- Scans a deck. -/
def scan? (t : Text) : Answer := scanLines? style 0 1 (Text.rawLines t)

end

end Cursor

end InputDeck
