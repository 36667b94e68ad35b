import InputDeck.Proofs.Template.MatchingDelimiters
import InputDeck.Proofs.Template.Nesting

/-!
# What the cursor finds

A scan with a cursor finds the markers that a deck has when it is taken apart, at the same places
and with the same errors. The cursor searches for a closing delimiter on the whole rest of a line
and only remembers where the body of a formula ends. That a marker which begins in that body also
ends in it rests on the balance of the body: every delimiter opened in there is closed in there, and
the search behind it does not get further. So the cursor reaches the end of the body exactly, and
goes on behind the formula.

From this, the markers of a scan are apart or one inside the other.
-/

namespace InputDeck

namespace MarkerStyle

variable (style : MarkerStyle)

/-- The text of a marker. -/
def marker (kind : MarkerKind) (body : Text) : Text :=
  style.mark kind :: style.openDelimiter :: (body ++ [style.closeDelimiter])

/-- A marker begins with its prefix and the opening delimiter. -/
theorem opening?_eq_some_iff_mark (c : Char) (rest inner : Text) (kind : MarkerKind) :
    style.opening? c rest = some (kind, inner) ↔
      c = style.mark kind ∧ rest = style.openDelimiter :: inner := by
  rw [opening?_eq_some_iff]
  cases kind <;> simp [mark, and_comm]

/-- What begins at a character does so before a closing delimiter and more text as well. -/
theorem opening?_append (c : Char) (rest following : Text) :
    style.opening? c (rest ++ style.closeDelimiter :: following) =
      (style.opening? c rest).map fun (kind, inner) =>
        (kind, inner ++ style.closeDelimiter :: following) := by
  cases rest with
  | nil => simp [opening?, Ne.symm style.delimiters_differ]
  | cons next inner =>
    simp only [opening?, List.cons_append]
    split
    · split
      · rfl
      · split <;> rfl
    · rfl

/-- No marker begins at a closing delimiter. -/
theorem opening?_closeDelimiter (rest : Text) :
    style.opening? style.closeDelimiter rest = none := by
  rw [opening?_eq_none_iff]
  intro _ _
  exact ⟨Ne.symm style.variableMark_not_delimiter.2, Ne.symm style.formulaMark_not_delimiter.2⟩

/-- A marker that begins and closes is the beginning of the text. -/
theorem marker_of_close? {c : Char} {rest inner body following : Text} {kind : MarkerKind}
    (begins : style.opening? c rest = some (kind, inner))
    (closed : style.close? inner = .ok (body, following)) :
    c :: rest = style.marker kind body ++ following ∧ style.Balanced body := by
  obtain ⟨rfl, rfl⟩ := (style.opening?_eq_some_iff_mark _ _ _ _).1 begins
  obtain ⟨rfl, balanced⟩ := (style.close?_eq_ok_iff _ _ _).1 closed
  exact ⟨by simp [marker], balanced⟩

/-- Every delimiter that is opened in the text is closed in it. -/
def ClosesAll (t : Text) : Prop :=
  ∀ read inner, t = read ++ style.openDelimiter :: inner →
    ∃ inside rest, inner = inside ++ style.closeDelimiter :: rest ∧ style.Balanced inside

variable {style}

/-- A balanced text closes all that it opens. -/
theorem Balanced.closesAll {body : Text} (balanced : style.Balanced body) :
    style.ClosesAll body := by
  intro read inner split
  have paired := (balancedFrom_zero_iff_paired style.delimiters_differ body).1 balanced
  obtain ⟨inside, rest, rfl, closed⟩ := paired.exists_close style.delimiters_differ split
  exact ⟨inside, rest, rfl, (balancedFrom_zero_iff_paired style.delimiters_differ inside).2 closed⟩

/-- What is opened behind a beginning of the text is closed behind it. -/
theorem ClosesAll.behind (passed : Text) {rest : Text}
    (closes : style.ClosesAll (passed ++ rest)) : style.ClosesAll rest := by
  rintro read inner rfl
  exact closes (passed ++ read) inner (by simp)

end MarkerStyle

/-- The error that a fault on a line is reported as. -/
def MarkerError.onLine (number : Nat) (error : MarkerError) : TemplateError :=
  .malformedMarker number error.column error.fault

namespace Cursor

variable {style : MarkerStyle}

namespace Found

/-- What stands in located pieces. -/
def ofLocated (style : MarkerStyle) (items : List (Position × Piece)) : Found :=
  ⟨items.flatMap fun (place, piece) => piece.slots style place,
    items.flatMap fun (place, piece) => piece.formulas style place⟩

/-- What is found first, then, and last, in either grouping. -/
theorem append_assoc (first second third : Found) :
    (first.append second).append third = first.append (second.append third) := by
  simp [append, List.append_assoc]

/-- Located pieces are searched one after the other. -/
theorem ofLocated_append (style : MarkerStyle) (items more : List (Position × Piece)) :
    ofLocated style (items ++ more) = (ofLocated style items).append (ofLocated style more) := by
  simp [ofLocated, append]

/-- Characters hold no markers. -/
theorem ofLocated_chars (place : Position) (t : Text) :
    ofLocated style (place.locate (Piece.source style) (t.map .char)) = nothing := by
  induction t generalizing place with
  | nil => rfl
  | cons c rest inductionHypothesis => exact inductionHypothesis (place.advance [c])

end Found

namespace Answer

/-- Nothing in front leaves an answer as it is. -/
theorem behind_nothing (answer : Answer) : answer.behind .nothing = answer := by
  rcases answer with _ | _ | _ <;> rfl

/-- What stands in front of an answer may be put there in two steps. -/
theorem behind_behind (first second : Found) (answer : Answer) :
    (answer.behind second).behind first = answer.behind (first.append second) := by
  rcases answer with _ | _ | found
  · rfl
  · rfl
  · have assoc := Found.append_assoc first second found
    exact congrArg (fun found => (some (.ok found) : Answer)) assoc.symm

end Answer

/-- The marker with this content that begins behind a text. -/
def RawMarker.behind (style : MarkerStyle) (front : Text) (kind : MarkerKind) (body : Text) :
    RawMarker :=
  let opened := front ++ [style.mark kind, style.openDelimiter]
  ⟨kind, ⟨Text.byteLength front, Text.byteLength (front ++ style.marker kind body)⟩,
    ⟨Text.byteLength opened, Text.byteLength (opened ++ body)⟩⟩

section

variable (front : Text)

/-- At the end of a line there is no marker. -/
theorem nextMarker?_end : nextMarker? style front front.byteLength = some (.ok none) := by
  have cut := Text.cut?_append front []
  rw [List.append_nil] at cut
  simp [nextMarker?, cut, firstOpening?]

/-- A character that begins no marker is passed over. -/
theorem nextMarker?_plain {c : Char} {rest : Text} (plain : style.opening? c rest = none) :
    nextMarker? style (front ++ c :: rest) front.byteLength =
      nextMarker? style (front ++ c :: rest) (Text.byteLength (front ++ [c])) := by
  have here := Text.cut?_append front (c :: rest)
  have further := Text.cut?_append (front ++ [c]) rest
  rw [List.append_assoc, List.singleton_append] at further
  have length : Text.byteLength (front ++ [c]) = front.byteLength + c.utf8Size := by
    simp [Text.byteLength_append, Text.byteLength]
  simp only [nextMarker?, here, further, firstOpening?, plain]
  cases firstOpening? style rest with
  | none => rfl
  | some found =>
    obtain ⟨kind, before⟩ := found
    simp only [Option.map_some, length, Nat.add_assoc]

variable (kind : MarkerKind)

/-- A prefix before an opening delimiter begins a marker, whose content stands on the rest of the
line. -/
theorem nextMarker?_opening (inner : Text) :
    nextMarker? style (front ++ style.mark kind :: style.openDelimiter :: inner)
        front.byteLength =
      some (match style.close? inner with
        | .error fault => .error (front.byteLength, fault)
        | .ok (body, _) => .ok (some (.behind style front kind body))) := by
  have here := Text.cut?_append front (style.mark kind :: style.openDelimiter :: inner)
  have inside := Text.cut?_append (front ++ [style.mark kind, style.openDelimiter]) inner
  have bodyStart : Text.byteLength (front ++ [style.mark kind, style.openDelimiter]) =
      front.byteLength + (style.mark kind).utf8Size + style.openDelimiter.utf8Size := by
    simp [Text.byteLength_append, Text.byteLength, Nat.add_assoc]
  rw [List.append_assoc, List.cons_append, List.singleton_append, bodyStart] at inside
  have begins := (style.opening?_eq_some_iff_mark _ _ _ kind).2
    ⟨rfl, (rfl : style.openDelimiter :: inner = _)⟩
  simp only [nextMarker?, here, firstOpening?, begins, Nat.add_zero, inside, closeOffset?,
    Option.bind_some, MarkerStyle.close?]
  cases findClose style.openDelimiter style.closeDelimiter 0 inner with
  | none => rfl
  | some found =>
    simp [RawMarker.behind, MarkerStyle.marker, Text.byteLength_append, Text.byteLength,
      Nat.add_assoc]

end

/-- No marker that is found begins before the cursor. -/
theorem le_start_of_nextMarker? {line : Text} {cursor : Nat} {marker : RawMarker}
    (found : nextMarker? style line cursor = some (.ok (some marker))) :
    cursor ≤ marker.span.start := by
  unfold nextMarker? at found
  split at found
  · cases found
  · split at found
    · cases found
    · simp only at found
      split at found
      · cases found
      · split at found
        · cases found
        · cases found
          exact Nat.le_add_right cursor _

section

variable (line : Text) (offset number : Nat) (inFormula : Option Nat) (cursor : Nat)

/-- Scanning a line by its first marker. -/
theorem scanLine?_eq :
    scanLine? style line offset number inFormula cursor =
      match nextMarker? style line cursor with
      | none => none
      | some (.error (start, fault)) =>
        (column? line start).map fun column => .error (.malformedMarker number column fault)
      | some (.ok none) => some (.ok .nothing)
      | some (.ok (some marker)) =>
        let inFormula := inFormula.filter (marker.span.start < ·)
        match column? line marker.span.start, line.slice? marker.body.start marker.body.stop with
        | some column, some body =>
          match marker.kind with
          | .slot =>
            match Slot.ofBody? style body with
            | .error fault => some (.error (.malformedMarker number column fault))
            | .ok s =>
              let occurrence := ⟨s.name, marker.span.shift offset, s.domain, number, column⟩
              (scanLine? style line offset number inFormula marker.next).behind
                ⟨[occurrence], []⟩
          | .formula =>
            let expression := Text.trim body
            if inFormula.isSome then
              some (.error (.malformedMarker number column .nestedFormula))
            else if expression = [] then
              some (.error (.malformedMarker number column .emptyFormula))
            else
              let occurrence :=
                ⟨expression, marker.span.shift offset, marker.body.shift offset, number, column⟩
              (scanLine? style line offset number (some marker.body.stop) marker.next).behind
                ⟨[], [occurrence]⟩
        | _, _ => none := by
  rw [scanLine?]
  split
  · rename_i missing
    simp only [missing]
  · rename_i unterminated
    simp only [unterminated]
  · rename_i noMarker
    simp only [noMarker]
  · rename_i marker found
    simp only [found] <;> rfl

/-- The scan from another offset is the same where it finds the same marker. -/
theorem scanLine?_congr {cursor cursor' : Nat}
    (same : nextMarker? style line cursor = nextMarker? style line cursor') :
    scanLine? style line offset number inFormula cursor =
      scanLine? style line offset number inFormula cursor' := by
  rw [scanLine?_eq, scanLine?_eq line offset number inFormula cursor', same]

/-- A formula whose body does not end behind the cursor is left. -/
theorem scanLine?_leave {stop : Nat} (left : stop ≤ cursor) :
    scanLine? style line offset number (some stop) cursor =
      scanLine? style line offset number none cursor := by
  rw [scanLine?_eq, scanLine?_eq line offset number none]
  cases found : nextMarker? style line cursor with
  | none => rfl
  | some first =>
    rcases first with _ | _ | marker
    · rfl
    · rfl
    · have ahead := le_start_of_nextMarker? found
      have noLonger : (some stop).filter (marker.span.start < ·) = none := by
        simp only [Option.filter_eq_none_iff, Option.some.injEq, decide_eq_true_eq]
        rintro _ rfl
        omega
      simp only [noLonger, Option.filter_none]

end

/-- The column behind a text. -/
theorem column?_append (front rest : Text) :
    column? (front ++ rest) front.byteLength = some (front.length + 1) := by
  simp [column?, Text.cut?_append]

/-- The bytes of a text on a line, counted from the beginning of the deck. -/
theorem shift_span (offset number : Nat) (front t : Text) :
    Span.shift ⟨front.byteLength, Text.byteLength (front ++ t)⟩ offset =
      (Position.advance ⟨offset, number, 1⟩ front).span t := by
  simp only [Span.shift, Position.span, Position.advance, Text.byteLength_append, Span.mk.injEq]
  omega

/-- The content of a marker stands between its delimiters. -/
theorem slice?_marker (front body following : Text) (kind : MarkerKind) :
    Text.slice? (front ++ (style.marker kind body ++ following))
        (RawMarker.behind style front kind body).body.start
        (RawMarker.behind style front kind body).body.stop = some body := by
  refine (Text.slice?_eq_some_iff _ _ _ _).2
    ⟨front ++ [style.mark kind, style.openDelimiter], style.closeDelimiter :: following, ?_,
      rfl, Text.byteLength_append _ _⟩
  simp [MarkerStyle.marker]

/-- A text ends behind what stands in front of one of its characters. -/
theorem byteLength_lt_of_append {front rest : Text} {c : Char} {stop : Nat}
    (ends : stop = Text.byteLength (front ++ c :: rest)) : front.byteLength < stop := by
  have positive := c.utf8Size_pos
  simp only [Text.byteLength_append, Text.byteLength] at ends
  omega

section

variable (offset number : Nat) (inFormula : Option Nat) {line front : Text}

/-- At the end of a line nothing more is found. -/
theorem scanLine?_end :
    scanLine? style line offset number inFormula line.byteLength = some (.ok .nothing) := by
  rw [scanLine?_eq, nextMarker?_end]

/-- The cursor passes over a character that begins no marker. -/
theorem scanLine?_plain {c : Char} {rest : Text} (written : line = front ++ c :: rest)
    (plain : style.opening? c rest = none) :
    scanLine? style line offset number inFormula front.byteLength =
      scanLine? style line offset number inFormula (Text.byteLength (front ++ [c])) := by
  subst written
  exact scanLine?_congr _ _ _ _ (nextMarker?_plain front plain)

/-- A marker that does not close is reported where it begins. -/
theorem scanLine?_unterminated {c : Char} {rest inner : Text} {kind : MarkerKind}
    {fault : MarkerFault} (written : line = front ++ c :: rest)
    (begins : style.opening? c rest = some (kind, inner))
    (unclosed : style.close? inner = .error fault) :
    scanLine? style line offset number inFormula front.byteLength =
      some (.error (.malformedMarker number (front.length + 1) fault)) := by
  obtain ⟨rfl, rfl⟩ := (style.opening?_eq_some_iff_mark _ _ _ _).1 begins
  rw [scanLine?_eq, written, nextMarker?_opening]
  simp only [unclosed, column?_append, Option.map_some]

variable {body following : Text}

/-- The first marker on the rest of a line that begins with a marker. -/
theorem nextMarker?_marker {kind : MarkerKind} (balanced : style.Balanced body) :
    nextMarker? style (front ++ (style.marker kind body ++ following)) front.byteLength =
      some (.ok (some (.behind style front kind body))) := by
  have closed := (style.close?_eq_ok_iff _ body following).2 ⟨rfl, balanced⟩
  have opened := @nextMarker?_opening style front kind
    (body ++ style.closeDelimiter :: following)
  simpa [closed, MarkerStyle.marker] using opened

/-- A slot is reported where it stands, and the cursor goes on behind it. -/
theorem scanLine?_slot (written : line = front ++ (style.marker .slot body ++ following))
    (balanced : style.Balanced body) :
    scanLine? style line offset number inFormula front.byteLength =
      match Slot.ofBody? style body with
      | .error fault => some (.error (.malformedMarker number (front.length + 1) fault))
      | .ok s =>
        (scanLine? style line offset number (inFormula.filter (front.byteLength < ·))
            (Text.byteLength (front ++ s.source style))).behind
          ⟨[s.occurrence style (Position.advance ⟨offset, number, 1⟩ front)], []⟩ := by
  subst written
  rw [scanLine?_eq, nextMarker?_marker balanced]
  simp only [slice?_marker]
  simp only [RawMarker.behind, column?_append, RawMarker.next]
  cases declared : Slot.ofBody? style body with
  | error fault => rfl
  | ok s =>
    obtain rfl := Slot.ofBody?_body declared
    simp only [shift_span offset number, Nat.add_comm front.length 1]
    rfl

/-- A formula is reported where it stands unless the cursor is in another or it is blank, and the
cursor goes on in its body. -/
theorem scanLine?_formula (written : line = front ++ (style.marker .formula body ++ following))
    (balanced : style.Balanced body) :
    scanLine? style line offset number inFormula front.byteLength =
      if (inFormula.filter (front.byteLength < ·)).isSome then
        some (.error (.malformedMarker number (front.length + 1) .nestedFormula))
      else if Text.trim body = [] then
        some (.error (.malformedMarker number (front.length + 1) .emptyFormula))
      else
        let place := Position.advance ⟨offset, number, 1⟩ front
        let opened := [style.formulaMark, style.openDelimiter]
        (scanLine? style line offset number (some (Text.byteLength (front ++ opened ++ body)))
            (Text.byteLength (front ++ opened))).behind
          ⟨[], [⟨Text.trim body, place.span (style.marker .formula body),
            (place.advance opened).span body, place.line, place.column⟩]⟩ := by
  subst written
  rw [scanLine?_eq, nextMarker?_marker balanced]
  simp only [slice?_marker]
  simp only [RawMarker.behind, column?_append, RawMarker.next, MarkerStyle.mark,
    shift_span offset number, Position.advance_append, Nat.add_comm front.length 1]
  rfl

end

/-- In the body of a formula the cursor finds the slots that the body has, and then goes on behind
the formula; or it comes to the first fault of the body. The induction is on the rest of the body,
and what carries it is that this rest closes all that it opens. -/
theorem scanLine?_inside (offset number column : Nat) (front : Text) {rest line following : Text}
    {stop : Nat} (closes : style.ClosesAll rest)
    (written : line = front ++ (rest ++ style.closeDelimiter :: following))
    (ends : stop = Text.byteLength (front ++ rest)) (place : column = front.length + 1) :
    scanLine? style line offset number (some stop) front.byteLength =
      match Part.ofText? style column rest with
      | .error error => some (.error (error.onLine number))
      | .ok parts =>
        (scanLine? style line offset number none (stop + style.closeDelimiter.utf8Size)).behind
          ⟨Part.occurrences style (Position.advance ⟨offset, number, 1⟩ front) parts, []⟩ := by
  fun_induction Part.ofText? style column rest generalizing front with
  | case1 column =>
    rw [List.append_nil] at ends
    rw [scanLine?_leave _ _ _ _ (Nat.le_of_eq ends),
      scanLine?_plain _ _ _ written (style.opening?_closeDelimiter following), ends]
    simp only [Text.byteLength_append, Text.byteLength, Nat.add_zero]
    exact (Answer.behind_nothing _).symm
  | case2 column c rest plain inductionHypothesis =>
    have plainHere : style.opening? c (rest ++ style.closeDelimiter :: following) = none := by
      rw [style.opening?_append, plain, Option.map_none]
    have later := inductionHypothesis (front ++ [c]) (closes.behind [c]) (by simp [written])
      (by simp [ends]) (by simp [place])
    rw [scanLine?_plain _ _ _ written plainHere, later, Position.advance_append]
    cases Part.ofText? style (column + 1) rest <;> rfl
  | case3 column c rest kind inner begins fault unclosed =>
    obtain ⟨-, rfl⟩ := (style.opening?_eq_some_iff_mark _ _ _ _).1 begins
    obtain ⟨inside, later, rfl, balanced⟩ := closes [c] inner rfl
    rw [(style.close?_eq_ok_iff _ _ _).2 ⟨rfl, balanced⟩] at unclosed
    cases unclosed
  | case4 column c rest inner body later closed begins =>
    obtain ⟨split, balanced⟩ := style.marker_of_close? begins closed
    rw [split, List.append_assoc] at written
    have before := byteLength_lt_of_append ends
    rw [scanLine?_formula _ _ _ written balanced]
    simp [Option.filter, before, MarkerError.onLine, place]
  | case5 column c rest inner body later closed begins fault undeclared =>
    obtain ⟨split, balanced⟩ := style.marker_of_close? begins closed
    rw [split, List.append_assoc] at written
    rw [scanLine?_slot _ _ _ written balanced]
    simp only [undeclared, MarkerError.onLine, place]
  | case6 column c rest inner body later closed begins s declared _ _ _ inductionHypothesis =>
    obtain ⟨split, balanced⟩ := style.marker_of_close? begins closed
    obtain rfl := Slot.ofBody?_body declared
    have notYet : (some stop).filter (front.byteLength < ·) = some stop := by
      simp [Option.filter, byteLength_lt_of_append ends]
    change c :: rest = s.source style ++ later at split
    rw [split] at closes ends written
    rw [List.append_assoc] at written
    have further := inductionHypothesis (front ++ s.source style) (closes.behind _)
      (by simp [written]) (by simp [ends]) (by simp [place, Nat.add_right_comm])
    rw [scanLine?_slot _ _ _ written balanced]
    simp only [declared, notYet, further, Position.advance_append]
    cases Part.ofText? style (column + (s.source style).length) later with
    | error error => rfl
    | ok parts => exact Answer.behind_behind _ _ _

/-- The cursor passes through a formula that stands in no other and is not blank: it finds the
formula and the slots in its body, or comes to the first fault there. -/
theorem scanLine?_through (offset number : Nat) {line front body following : Text}
    (written : line = front ++ (style.marker .formula body ++ following))
    (balanced : style.Balanced body) (notBlank : Text.trim body ≠ []) :
    scanLine? style line offset number none front.byteLength =
      match Part.ofText? style (front.length + 3) body with
      | .error error => some (.error (error.onLine number))
      | .ok parts =>
        (scanLine? style line offset number none
            (Text.byteLength (front ++ (Piece.formula parts).source style))).behind
          (.ofLocated style [(Position.advance ⟨offset, number, 1⟩ front, .formula parts)]) := by
  have opened : line = front ++ [style.formulaMark, style.openDelimiter] ++
      (body ++ style.closeDelimiter :: following) := by
    simp [written, MarkerStyle.marker, MarkerStyle.mark]
  have inside := scanLine?_inside offset number (front.length + 3)
    (front ++ [style.formulaMark, style.openDelimiter]) balanced.closesAll opened rfl (by simp)
  rw [scanLine?_formula _ _ _ written balanced]
  simp only [Option.filter_none, Option.isSome_none, Bool.false_eq_true, if_false, notBlank]
  rw [inside, Position.advance_append]
  cases read : Part.ofText? style (front.length + 3) body with
  | error error => rfl
  | ok parts =>
    obtain ⟨rfl, -⟩ := (Part.ofText?_eq_ok_iff _ _ _ _).1 read
    have ends : Text.byteLength
          (front ++ [style.formulaMark, style.openDelimiter] ++ Piece.body style parts) +
            style.closeDelimiter.utf8Size =
        Text.byteLength (front ++ (Piece.formula parts).source style) := by
      simp [Piece.source, Text.byteLength_append, Text.byteLength, Nat.add_assoc]
    have found : Found.ofLocated style
          [(Position.advance ⟨offset, number, 1⟩ front, Piece.formula parts)] =
        Found.append ⟨[], (Piece.formula parts).formulas style
            (Position.advance ⟨offset, number, 1⟩ front)⟩
          ⟨(Piece.formula parts).slots style (Position.advance ⟨offset, number, 1⟩ front), []⟩ := by
      simp [Found.ofLocated, Found.append]
    simp only [ends, found, Answer.behind_behind]
    rfl

/-- Behind a text the cursor finds what the pieces of the rest of the line hold, or comes to the
first fault there. -/
theorem scanLine?_pieces (style : MarkerStyle) (offset number column : Nat) (front : Text)
    {rest line : Text} (written : line = front ++ rest) (place : column = front.length + 1) :
    scanLine? style line offset number none front.byteLength =
      match Piece.ofText? style column rest with
      | .error error => some (.error (error.onLine number))
      | .ok pieces =>
        some (.ok (.ofLocated style ((Position.advance ⟨offset, number, 1⟩ front).locate
          (Piece.source style) pieces))) := by
  fun_induction Piece.ofText? style column rest generalizing front with
  | case1 column =>
    obtain rfl : line = front := by simpa using written
    exact scanLine?_end _ _ _
  | case2 column c rest plain inductionHypothesis =>
    have later := inductionHypothesis (front ++ [c]) (by simp [written]) (by simp [place])
    rw [scanLine?_plain _ _ _ written plain, later, Position.advance_append]
    cases Piece.ofText? style (column + 1) rest <;> rfl
  | case3 column c rest kind inner begins fault unclosed =>
    rw [scanLine?_unterminated _ _ _ written begins unclosed, ← place]
    rfl
  | case4 column c rest inner body later closed _ begins fault undeclared =>
    obtain ⟨split, balanced⟩ := style.marker_of_close? begins closed
    rw [split] at written
    rw [scanLine?_slot _ _ _ written balanced]
    simp only [undeclared, MarkerError.onLine, place]
  | case5 column c rest inner body later closed _ begins s declared _ _ inductionHypothesis =>
    obtain ⟨split, balanced⟩ := style.marker_of_close? begins closed
    obtain rfl := Slot.ofBody?_body declared
    change c :: rest = s.source style ++ later at split
    rw [split] at written
    have further := inductionHypothesis (front ++ s.source style) (by simp [written])
      (by simp [place, Nat.add_right_comm])
    rw [scanLine?_slot _ _ _ written balanced]
    simp only [declared, Option.filter_none, further, Position.advance_append]
    cases Piece.ofText? style (column + (s.source style).length) later <;> rfl
  | case6 column c rest inner body later closed _ begins blank =>
    obtain ⟨split, balanced⟩ := style.marker_of_close? begins closed
    rw [split] at written
    rw [scanLine?_formula _ _ _ written balanced]
    simp [blank, MarkerError.onLine, place]
  | case7 column c rest inner body later closed _ begins notBlank error inside =>
    obtain ⟨split, balanced⟩ := style.marker_of_close? begins closed
    rw [split] at written
    rw [place] at inside
    rw [scanLine?_through _ _ written balanced notBlank]
    simp only [inside]
  | case8 column c rest inner body later closed _ begins notBlank parts inside _ _
      inductionHypothesis =>
    obtain ⟨split, balanced⟩ := style.marker_of_close? begins closed
    obtain ⟨rfl, -⟩ := (Part.ofText?_eq_ok_iff _ _ _ _).1 inside
    change c :: rest = (Piece.formula parts).source style ++ later at split
    rw [split] at written
    have further := inductionHypothesis (front ++ (Piece.formula parts).source style)
      (by simp [written]) (by simp [place, Piece.source]; omega)
    rw [place] at inside
    rw [scanLine?_through _ _ written balanced notBlank]
    simp only [inside, further, Position.advance_append]
    cases Piece.ofText? style (column + (Piece.body style parts).length + 3) later with
    | error error => rfl
    | ok pieces =>
      have joined := Found.ofLocated_append style
        [(Position.advance ⟨offset, number, 1⟩ front, .formula parts)]
      exact congrArg (fun found => (some (.ok found) : Answer)) (joined _).symm

/-- On a raw line the cursor finds what the pieces of the line hold. -/
theorem scanRaw?_eq (style : MarkerStyle) (offset number : Nat) (raw : Text) :
    (if style.isComment (Text.dropLineEnds raw) then some (.ok .nothing)
      else scanLine? style (Text.dropLineEnds raw) offset number none 0) =
      match Line.ofRaw? style raw with
      | .error error => some (.error (error.onLine number))
      | .ok line =>
        some (.ok (.ofLocated style
          (Position.locate (Piece.source style) ⟨offset, number, 1⟩ line.pieces))) := by
  unfold Line.ofRaw?
  by_cases comment : style.isComment (Text.dropLineEnds raw) = true
  · simp only [comment, if_true, Found.ofLocated_chars]
  · have marked := scanLine?_pieces style offset number 1 []
      (List.nil_append (Text.dropLineEnds raw)).symm rfl
    simp only [comment, Bool.false_eq_true, if_false]
    rw [Text.byteLength] at marked
    rw [marked]
    cases Piece.ofText? style 1 (Text.dropLineEnds raw) <;> rfl

/-- On raw lines the cursor finds what the lines hold, or comes to the first error of one of
them. -/
theorem scanLines?_eq (offset number : Nat) (raws : List Text) :
    scanLines? style offset number raws = some ((Line.ofRaws? style number raws).map fun lines =>
      .ofLocated style (Line.located style offset number lines)) := by
  induction raws generalizing offset number with
  | nil => rfl
  | cons raw rest inductionHypothesis =>
    have here := scanRaw?_eq style offset number raw
    simp only [scanLines?, here, Line.ofRaws?]
    cases read : Line.ofRaw? style raw with
    | error error => rfl
    | ok line =>
      obtain ⟨rfl, -⟩ := (Line.ofRaw?_eq_ok_iff _ _ _).1 read
      simp only [inductionHypothesis]
      cases Line.ofRaws? style (number + 1) rest with
      | error error => rfl
      | ok lines =>
        have joined := Found.ofLocated_append style
          (Position.locate (Piece.source style) ⟨offset, number, 1⟩ line.pieces)
        exact congrArg (fun found => (some (.ok found) : Answer)) (joined _).symm

/-- A scan with a cursor never misses a slice, and it finds the slots and the formulas of the lines
of the deck, or comes to the error that taking the deck apart comes to. -/
theorem scan?_eq (style : MarkerStyle) (t : Text) :
    scan? style t = some ((InputDeck.scan style t).map fun lines =>
      ⟨Line.slots style lines, Line.formulas style lines⟩) :=
  scanLines?_eq 0 1 (Text.rawLines t)

/-- The markers that a cursor finds stand in the text, on one line each, and are apart or one inside
the other: slots never overlap, nor do formulas, both are reported in the order of the text, and
a slot stands in the body of a formula or apart from it. They are the markers of the deck when it
is taken apart. -/
theorem markers_nested_or_apart {style : MarkerStyle} {t : Text} {found : Found}
    (scanned : scan? style t = some (.ok found)) :
    (∀ s ∈ found.slots, ∃ content, s.span.Holds t
        (style.variableMark :: style.openDelimiter :: (content ++ [style.closeDelimiter])) ∧
      '\n' ∉ style.variableMark :: style.openDelimiter ::
        (content ++ [style.closeDelimiter])) ∧
    (∀ f ∈ found.formulas, ∃ content, f.span.Holds t
        (style.formulaMark :: style.openDelimiter :: (content ++ [style.closeDelimiter])) ∧
      '\n' ∉ style.formulaMark :: style.openDelimiter ::
        (content ++ [style.closeDelimiter]) ∧
      f.body.Holds t content ∧
      f.body.start = f.span.start + style.formulaMark.utf8Size + style.openDelimiter.utf8Size ∧
      f.span.stop = f.body.stop + style.closeDelimiter.utf8Size) ∧
    (found.slots.map SlotOccurrence.span).Pairwise Span.Precedes ∧
    (found.formulas.map FormulaOccurrence.span).Pairwise Span.Precedes ∧
    (∀ s ∈ found.slots, ∀ f ∈ found.formulas,
      f.body.contains s.span = true ∨ s.span.Apart f.span) ∧
    ∃ lines, InputDeck.scan style t = .ok lines ∧ found.slots = Line.slots style lines ∧
      found.formulas = Line.formulas style lines := by
  rw [scan?_eq, Option.some.injEq, map_eq_ok_iff] at scanned
  obtain ⟨lines, scanned, rfl⟩ := scanned
  refine ⟨?_, ?_, Line.precedes_slots scanned, Line.precedes_formulas scanned, ?_,
    lines, scanned, rfl, rfl⟩
  · intro s slotMember
    exact Line.slot_holds scanned slotMember
  · intro f formulaMember
    exact Line.formula_holds scanned formulaMember
  · intro s slotMember f formulaMember
    exact Line.slot_inside_or_apart slotMember formulaMember

/-- A slot inside a formula, a slot behind it, and a comment line. -/
theorem markers_of_nested_deck :
    ∃ found, scan? .standard "@\x7b2*$\x7br\x7d\x7d $\x7bs~8\x7d\n# $\x7bc\x7d".toList =
        some (.ok found) ∧
      found.slots.map SlotOccurrence.span = [⟨4, 8⟩, ⟨10, 16⟩] ∧
      found.formulas.map FormulaOccurrence.body = [⟨2, 8⟩] ∧
      ∀ s ∈ found.slots, ∀ f ∈ found.formulas,
        f.body.contains s.span = true ∨ s.span.Apart f.span := by
  have scanned : scan? .standard "@\x7b2*$\x7br\x7d\x7d $\x7bs~8\x7d\n# $\x7bc\x7d".toList =
      some (.ok
        ⟨[⟨['r'], ⟨4, 8⟩, .unconstrained, 1, 5⟩, ⟨['s'], ⟨10, 16⟩, .fixed ['8'], 1, 11⟩],
          [⟨"2*$\x7br\x7d".toList, ⟨0, 9⟩, ⟨2, 8⟩, 1, 1⟩]⟩) := by
    decide +kernel
  obtain ⟨-, -, -, -, nested, -⟩ := markers_nested_or_apart scanned
  exact ⟨_, scanned, rfl, rfl, nested⟩

end Cursor

end InputDeck
