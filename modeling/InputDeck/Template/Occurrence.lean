import InputDeck.Template.Piece

/-!
# Where markers stand

Markers are reported with the bytes they span in the deck, with the number of their line, and with
the column of their prefix; lines and columns count from one. Positions follow from the pieces:
each stands where the pieces before it end. A slot inside a formula is reported too.
-/

namespace InputDeck

/-- The bytes from `start` up to `stop`. -/
structure Span where
  start : Nat
  stop : Nat
deriving DecidableEq

namespace Span

/-- The number of bytes, for a span that does not end before it starts. -/
def length (span : Span) : Nat := span.stop - span.start

/-- Whether there is no byte. -/
def isEmpty (span : Span) : Bool := span.start == span.stop

/-- Whether the other span lies within. -/
def contains (span other : Span) : Bool := span.start ≤ other.start && other.stop ≤ span.stop

end Span

/-- A place in a deck. -/
structure Position where
  offset : Nat
  line : Nat
  column : Nat
deriving DecidableEq

namespace Position

/-- The place behind a text that stands on one line. -/
def advance (place : Position) (t : Text) : Position :=
  { place with offset := place.offset + Text.byteLength t, column := place.column + t.length }

/-- The span of a text that begins here. -/
def span (place : Position) (t : Text) : Span := ⟨place.offset, place.offset + Text.byteLength t⟩

/-- Every item with the place where it stands, one behind the other. -/
def locate {α : Type} (source : α → Text) : Position → List α → List (Position × α)
  | _, [] => []
  | place, item :: rest => (place, item) :: locate source (place.advance (source item)) rest

end Position

/-- A slot in a deck. -/
structure SlotOccurrence where
  name : Text
  span : Span
  domain : Domain
  line : Nat
  column : Nat
deriving DecidableEq

/-- A formula in a deck; the span of its body is that of the text between the delimiters. -/
structure FormulaOccurrence where
  expression : Text
  span : Span
  body : Span
  line : Nat
  column : Nat
deriving DecidableEq

/-- The occurrence of a slot at a place. -/
def Slot.occurrence (style : MarkerStyle) (place : Position) (slot : Slot) : SlotOccurrence :=
  ⟨slot.name, place.span (slot.source style), slot.domain, place.line, place.column⟩

/-- The slots among the parts of a formula whose body begins at a place. -/
def Part.occurrences (style : MarkerStyle) (place : Position) (parts : List Part) :
    List SlotOccurrence :=
  (place.locate (Part.source style) parts).filterMap fun (place, part) =>
    match part with
    | .char _ => none
    | .slot s => some (s.occurrence style place)

namespace Piece

/-- The slots of a piece at a place. -/
def slots (style : MarkerStyle) (place : Position) : Piece → List SlotOccurrence
  | char _ => []
  | slot s => [s.occurrence style place]
  | formula parts =>
    Part.occurrences style (place.advance [style.formulaMark, style.openDelimiter]) parts

/-- The text of a formula without white space at its ends. -/
def expression (style : MarkerStyle) (parts : List Part) : Text := Text.trim (body style parts)

/-- The formula that a piece at a place is. -/
def formulas (style : MarkerStyle) (place : Position) (piece : Piece) : List FormulaOccurrence :=
  match piece with
  | char _ => []
  | slot _ => []
  | formula parts =>
    let inside := place.advance [style.formulaMark, style.openDelimiter]
    [⟨expression style parts, place.span (piece.source style),
      inside.span (body style parts), place.line, place.column⟩]

end Piece

namespace Line

/-- Every piece of a deck with the place where it stands. -/
def located (style : MarkerStyle) : Nat → Nat → List Line → List (Position × Piece)
  | _, _, [] => []
  | offset, number, line :: rest =>
    Position.locate (Piece.source style) ⟨offset, number, 1⟩ line.pieces
      ++ located style (offset + Text.byteLength (line.source style)) (number + 1) rest

/-- The slots of a deck, in the order of the text. -/
def slots (style : MarkerStyle) (lines : List Line) : List SlotOccurrence :=
  (located style 0 1 lines).flatMap fun (place, piece) => piece.slots style place

/-- The formulas of a deck, in the order of the text. -/
def formulas (style : MarkerStyle) (lines : List Line) : List FormulaOccurrence :=
  (located style 0 1 lines).flatMap fun (place, piece) => piece.formulas style place

end Line

end InputDeck
