import InputDeck.Text.Lines
import InputDeck.Template.Slot

/-!
# The pieces of a deck

A line of a deck is a row of pieces: characters that are copied, slots, and formulas. The body of
a formula is itself a row of characters and slots, but no formula stands inside another. Put
together, the texts of the pieces are the line again, so nothing about a line is lost and nothing
has to be found a second time.

A marker begins where a prefix stands immediately before the opening delimiter, and it has to
close on its line. A slot is passed over as a whole; a formula is looked into. Comment lines hold
no markers.
-/

namespace InputDeck

/-- A part of the body of a formula. -/
inductive Part where
  | char (c : Char)
  | slot (slot : Slot)
deriving DecidableEq

/-- A part of a line. -/
inductive Piece where
  | char (c : Char)
  | slot (slot : Slot)
  | formula (parts : List Part)
deriving DecidableEq

/-- The text of a part. -/
def Part.source (style : MarkerStyle) : Part → Text
  | char c => [c]
  | slot s => s.source style

namespace Piece

/-- The text between the delimiters of a formula. -/
def body (style : MarkerStyle) (parts : List Part) : Text := parts.flatMap (Part.source style)

/-- The text of a piece. -/
def source (style : MarkerStyle) : Piece → Text
  | char c => [c]
  | slot s => s.source style
  | formula parts =>
    style.formulaMark :: style.openDelimiter :: (body style parts ++ [style.closeDelimiter])

end Piece

/-- The two kinds of marker. -/
inductive MarkerKind where
  | slot
  | formula
deriving DecidableEq

namespace MarkerStyle

/-- The kind of marker that a character and the text behind it begin, and the text behind the
opening delimiter. -/
def opening? (style : MarkerStyle) (c : Char) : Text → Option (MarkerKind × Text)
  | [] => none
  | next :: inner =>
    if next = style.openDelimiter then
      if c = style.variableMark then some (.slot, inner)
      else if c = style.formulaMark then some (.formula, inner)
      else none
    else none

/-- A marker that begins has an opening delimiter. -/
theorem opening?_rest {style : MarkerStyle} {c : Char} {rest inner : Text} {kind : MarkerKind}
    (begins : style.opening? c rest = some (kind, inner)) :
    rest = style.openDelimiter :: inner := by
  unfold opening? at begins
  split at begins
  · simp at begins
  · split at begins
    · rename_i opens
      split at begins
      · simp_all
      · split at begins <;> simp_all
    · simp at begins

/-- The text between the delimiters and the text behind them, for a marker that is open. -/
def close? (style : MarkerStyle) (inner : Text) : Except MarkerFault (Text × Text) :=
  match findClose style.openDelimiter style.closeDelimiter 0 inner with
  | some found => .ok found
  | none => .error (.unterminated style.closeDelimiter)

/-- A marker that closes leaves less text behind it. -/
theorem length_close?_lt {style : MarkerStyle} {inner body following : Text}
    (closed : style.close? inner = .ok (body, following)) :
    following.length < inner.length := by
  unfold close? at closed
  split at closed
  · rename_i found same
    cases closed
    rw [findClose_append same]
    simp only [List.length_append, List.length_cons]
    omega
  · simp at closed

end MarkerStyle

/-- Where on its line a marker is at fault, and why. -/
structure MarkerError where
  column : Nat
  fault : MarkerFault

/-- The parts of the body of a formula whose first character stands in the given column. -/
def Part.ofText? (style : MarkerStyle) (column : Nat) : Text → Except MarkerError (List Part)
  | [] => .ok []
  | c :: rest =>
    match begins : style.opening? c rest with
    | none => (Part.ofText? style (column + 1) rest).map (.char c :: ·)
    | some (kind, inner) =>
      match closed : style.close? inner with
      | .error fault => .error ⟨column, fault⟩
      | .ok (body, following) =>
        match kind with
        | .formula => .error ⟨column, .nestedFormula⟩
        | .slot =>
          match Slot.ofBody? style body with
          | .error fault => .error ⟨column, fault⟩
          | .ok s =>
            have _shorter := MarkerStyle.length_close?_lt closed
            have _opened := congrArg List.length (MarkerStyle.opening?_rest begins)
            (Part.ofText? style (column + (s.source style).length) following).map
              (.slot s :: ·)
termination_by t => t.length
decreasing_by
  · simp
  · simp only [List.length_cons] at *
    omega

/-- The pieces of a line whose first character stands in the given column. -/
def Piece.ofText? (style : MarkerStyle) (column : Nat) : Text → Except MarkerError (List Piece)
  | [] => .ok []
  | c :: rest =>
    match begins : style.opening? c rest with
    | none => (Piece.ofText? style (column + 1) rest).map (.char c :: ·)
    | some (kind, inner) =>
      match closed : style.close? inner with
      | .error fault => .error ⟨column, fault⟩
      | .ok (body, following) =>
        have _shorter := MarkerStyle.length_close?_lt closed
        have _opened := congrArg List.length (MarkerStyle.opening?_rest begins)
        match kind with
        | .slot =>
          match Slot.ofBody? style body with
          | .error fault => .error ⟨column, fault⟩
          | .ok s =>
            (Piece.ofText? style (column + (s.source style).length) following).map
              (.slot s :: ·)
        | .formula =>
          if Text.trim body = [] then .error ⟨column, .emptyFormula⟩
          else
            match Part.ofText? style (column + 2) body with
            | .error error => .error error
            | .ok parts =>
              (Piece.ofText? style (column + body.length + 3) following).map
                (.formula parts :: ·)
termination_by t => t.length
decreasing_by
  · simp
  · simp only [List.length_cons] at *
    omega
  · simp only [List.length_cons] at *
    omega

/-- A line of a deck and the line ends that close it. -/
structure Line where
  pieces : List Piece
  ending : Text
deriving DecidableEq

namespace Line

/-- The text of a line, with what closes it. -/
def source (style : MarkerStyle) (line : Line) : Text :=
  line.pieces.flatMap (Piece.source style) ++ line.ending

/-- The line of a raw line of text. -/
def ofRaw? (style : MarkerStyle) (raw : Text) : Except MarkerError Line :=
  let content := Text.dropLineEnds raw
  let ending := raw.drop content.length
  if style.isComment content then .ok ⟨content.map .char, ending⟩
  else (Piece.ofText? style 1 content).map fun pieces => ⟨pieces, ending⟩

/-- The lines of raw lines, the first of which has the given number. -/
def ofRaws? (style : MarkerStyle) : Nat → List Text → Except TemplateError (List Line)
  | _, [] => .ok []
  | number, raw :: rest =>
    match ofRaw? style raw with
    | .error ⟨column, fault⟩ => .error (.malformedMarker number column fault)
    | .ok line => (ofRaws? style (number + 1) rest).map (line :: ·)

end Line

/-- The lines of a deck. -/
def scan (style : MarkerStyle) (t : Text) : Except TemplateError (List Line) :=
  Line.ofRaws? style 1 (Text.rawLines t)

end InputDeck
