import Mathlib.Data.List.DropRight
import Mathlib.Data.List.Infix
import InputDeck.Proofs.Template.HiddenMarkers

/-!
# Lines and columns

The text in front of a place tells where it is: the offset by its bytes, the line by its newlines,
and the column by its characters behind the last newline. A scan counts lines as it cuts them,
bytes as it goes from line to line and columns from the beginning of each line, and what it reports
is the same place. A malformed marker is reported where its prefix opens, and the first one of a
deck ends the scan, so the lines before it can be scanned.
-/

namespace InputDeck

namespace Text

/-- The part of a text behind its last newline. -/
def lastLine (t : Text) : Text := t.rtakeWhile (· != '\n')

/-- What goes on behind whole lines is the last line, as long as it holds no newline. -/
theorem lastLine_append {whole rest : Text} (ends : EndsLine whole) (noNewline : '\n' ∉ rest) :
    lastLine (whole ++ rest) = rest := by
  induction rest using List.reverseRecOn with
  | nil =>
    rw [List.append_nil, lastLine, List.rtakeWhile_eq_nil_iff]
    intro nonempty
    simp [ends _ (List.getLast?_eq_some_getLast nonempty)]
  | append_singleton rest c inductionHypothesis =>
    simp only [List.mem_append, List.mem_singleton, not_or] at noNewline
    obtain ⟨inRest, last⟩ := noNewline
    have earlier := inductionHypothesis inRest
    rw [lastLine] at earlier ⊢
    rw [← List.append_assoc, List.rtakeWhile_concat_pos _ _ _ (by simpa using Ne.symm last),
      earlier]

/-- The raw lines in front of a raw line are those of their own text, which ends its line. -/
theorem rawLines_in_front {t raw : Text} {earlier later : List Text}
    (cut : rawLines t = earlier ++ raw :: later) :
    rawLines earlier.flatten = earlier ∧ EndsLine earlier.flatten := by
  have newline : ∀ line ∈ earlier, line.getLast? = some '\n' := by
    intro line member
    apply getLast?_of_mem_dropLast_rawLines (t := t)
    rw [cut, List.dropLast_append_of_ne_nil (List.cons_ne_nil _ _)]
    exact List.mem_append_left _ member
  constructor
  · apply rawLines_flatten
    · intro line member
      exact rawLines_of_mem (t := t) (cut ▸ List.mem_append_left _ member)
    · intro line member c last
      have found := newline line (List.mem_of_mem_dropLast member)
      exact Option.some.inj (last.symm.trans found)
  · intro c last
    rcases List.eq_nil_or_concat earlier with rfl | ⟨front, line, rfl⟩
    · cases last
    · have found := newline line (by simp)
      rw [List.concat_eq_append, List.flatten_append, List.flatten_singleton,
        List.getLast?_append, found] at last
      exact (Option.some.inj last).symm

end Text

/-- The place behind a text with which a deck begins. -/
def Position.behindText (t : Text) : Position :=
  ⟨Text.byteLength t, t.count '\n' + 1, (Text.lastLine t).length + 1⟩

/-- Behind whole lines and a text without newline the line is the number of the whole lines, and
the column that of the characters, counted from one. -/
theorem Position.behindText_eq {t raw before : Text} {earlier later : List Text}
    (cut : Text.rawLines t = earlier ++ raw :: later) (noNewline : '\n' ∉ before) :
    behindText (earlier.flatten ++ before) =
      ⟨Text.byteLength (earlier.flatten ++ before), earlier.length + 1, before.length + 1⟩ := by
  obtain ⟨own, ends⟩ := Text.rawLines_in_front cut
  have counted := Text.length_rawLines ends
  rw [own] at counted
  rw [behindText, Text.lastLine_append ends noNewline, List.count_append, ← counted,
    List.count_eq_zero_of_not_mem noNewline, Nat.add_zero]

/-! ## Markers that are reported -/

namespace Line

variable {style : MarkerStyle} {t : Text} {lines : List Line}

/-- Inside a located piece every place is the one behind the text in front of it. -/
theorem behindText_of_mem_located {place : Position} {piece : Piece} {before after : Text}
    (scanned : scan style t = .ok lines) (member : (place, piece) ∈ located style 0 1 lines)
    (written : piece.source style = before ++ after) :
    ∃ front behind, t = front ++ after ++ behind ∧
      place.advance before = Position.behindText front := by
  obtain ⟨earlier, line, later, piecesBefore, piecesAfter, rfl, pieces, rfl⟩ :=
    (mem_located_iff _ _ _ _ _ _).1 member
  obtain ⟨sources, wellScanned⟩ := (scan_eq_ok_iff _ _ _).1 scanned
  have lineScanned := wellScanned line (by simp)
  rw [List.map_append, List.map_cons] at sources
  let inLine := piecesBefore.flatMap (Piece.source style) ++ before
  have content : line.content style =
      inLine ++ (after ++ piecesAfter.flatMap (Piece.source style)) := by
    simp [inLine, Line.content, pieces, written]
  have noNewline : '\n' ∉ inLine := by
    have absent : '\n' ∉ Text.dropLineEnds (line.source style) :=
      Text.newline_not_mem_dropLineEnds (t := t) (by rw [← sources]; simp)
    rw [← lineScanned.cut, content] at absent
    exact fun inside => absent (List.mem_append_left _ inside)
  have here := Position.behindText_eq sources.symm noNewline
  refine ⟨(earlier.map (source style)).flatten ++ inLine,
    piecesAfter.flatMap (Piece.source style) ++ line.ending ++ later.flatMap (source style), ?_, ?_⟩
  · have whole := source_of_scan scanned
    rw [← whole]
    simp [source, pieces, written, inLine, List.flatMap_def]
  · rw [here, ← Position.advance_append]
    simp [Position.advance, Text.byteLength_append, List.flatMap_def, inLine, Nat.add_comm]

/-- A reported slot has the line and column of its prefix. -/
theorem behindText_of_mem_slots {s : SlotOccurrence} (scanned : scan style t = .ok lines)
    (member : s ∈ slots style lines) :
    ∃ before, style.OpensBehind style.variableMark before t ∧
      Position.behindText before = ⟨s.span.start, s.line, s.column⟩ := by
  obtain ⟨place, piece, located, slotOf⟩ := (mem_slots_iff _ _ _).1 member
  obtain ⟨before, slot, after, written, rfl⟩ := Piece.slot_part slotOf
  rw [List.append_assoc] at written
  obtain ⟨front, behind, whole, here⟩ := behindText_of_mem_located scanned located written
  refine ⟨front, ⟨slot.body ++ style.closeDelimiter :: (after ++ behind), ?_⟩, here.symm⟩
  simpa [Slot.source] using whole

/-- A reported formula has the line and column of its prefix. -/
theorem behindText_of_mem_formulas {f : FormulaOccurrence} (scanned : scan style t = .ok lines)
    (member : f ∈ formulas style lines) :
    ∃ before, style.OpensBehind style.formulaMark before t ∧
      Position.behindText before = ⟨f.span.start, f.line, f.column⟩ := by
  obtain ⟨place, piece, located, formulaOf⟩ := (mem_formulas_iff _ _ _).1 member
  obtain ⟨parts, rfl, rfl⟩ := (Piece.mem_formulas_iff _ _ _ _).1 formulaOf
  have written : (Piece.formula parts).source style = [] ++ (Piece.formula parts).source style :=
    rfl
  obtain ⟨front, behind, whole, here⟩ := behindText_of_mem_located scanned located written
  refine ⟨front, ⟨Piece.body style parts ++ style.closeDelimiter :: behind, ?_⟩, here.symm⟩
  simpa [Piece.source] using whole

end Line

/-! ## Markers that are malformed -/

namespace MarkerError

variable {style : MarkerStyle} {column : Nat} {error : MarkerError}

/-- The error points into a text whose first character stands in the given column, to a prefix
before the opening delimiter. -/
def PointsInto (error : MarkerError) (style : MarkerStyle) (column : Nat) (t : Text) : Prop :=
  ∃ mark before, style.IsMark mark ∧ style.OpensBehind mark before t ∧
    error.column = column + before.length

/-- An error at the first character, where a marker begins. -/
theorem pointsInto_opening {c : Char} {rest inner : Text} {kind : MarkerKind}
    {fault : MarkerFault} (begins : style.opening? c rest = some (kind, inner)) :
    PointsInto ⟨column, fault⟩ style column (c :: rest) := by
  obtain ⟨rfl, isMark⟩ := (style.opening?_eq_some_iff _ _ _ _).1 begins
  exact ⟨c, [], isMark.imp And.left And.left, ⟨inner, rfl⟩, rfl⟩

/-- An error in a part of a text, told from where the text begins. -/
theorem PointsInto.within (front : Text) {t : Text}
    (points : error.PointsInto style (column + front.length) t) (behind : Text) :
    error.PointsInto style column (front ++ t ++ behind) := by
  obtain ⟨mark, before, isMark, ⟨after, rfl⟩, inColumn⟩ := points
  refine ⟨mark, front ++ before, isMark, ⟨after ++ behind, by simp⟩, ?_⟩
  rw [inColumn, List.length_append, Nat.add_assoc]

/-- An error behind a part of a text, told from where the text begins. -/
theorem PointsInto.behind (front : Text) {t : Text}
    (points : error.PointsInto style (column + front.length) t) :
    error.PointsInto style column (front ++ t) := by
  simpa using points.within front []

end MarkerError

/-- A text that begins with a marker is the marker and the text behind it. -/
theorem MarkerStyle.eq_of_closed {style : MarkerStyle} {c : Char}
    {rest inner body following : Text} {kind : MarkerKind}
    (begins : style.opening? c rest = some (kind, inner))
    (closed : style.close? inner = .ok (body, following)) :
    c :: rest = c :: style.openDelimiter :: (body ++ [style.closeDelimiter]) ++ following := by
  obtain ⟨rfl, -⟩ := (style.opening?_eq_some_iff _ _ _ _).1 begins
  obtain ⟨rfl, -⟩ := (style.close?_eq_ok_iff _ _ _).1 closed
  simp

/-- A text that begins with a slot is the slot and the text behind it. -/
theorem Slot.source_append_of_closed {style : MarkerStyle} {c : Char} {s : Slot}
    {rest inner body following : Text} (begins : style.opening? c rest = some (.slot, inner))
    (closed : style.close? inner = .ok (body, following))
    (declared : Slot.ofBody? style body = .ok s) : c :: rest = s.source style ++ following := by
  rw [MarkerStyle.eq_of_closed begins closed]
  obtain ⟨-, ⟨rfl, -⟩ | ⟨-, impossible⟩⟩ := (style.opening?_eq_some_iff _ _ _ _).1 begins
  · rw [Slot.source, Slot.ofBody?_body declared]
  · cases impossible

/-- An error in the body of a formula points to a prefix there. -/
theorem Part.pointsInto_of_ofText? {style : MarkerStyle} {column : Nat} {t : Text}
    {error : MarkerError} (failed : ofText? style column t = .error error) :
    error.PointsInto style column t := by
  fun_induction ofText? style column t with
  | case1 => cases failed
  | case2 column c rest plain inductionHypothesis =>
    exact (inductionHypothesis ((map_eq_error_iff _ _ _).1 failed)).behind [c]
  | case6 column c rest inner body following closed begins s declared _ _ _ inductionHypothesis =>
    rw [Slot.source_append_of_closed begins closed declared]
    exact (inductionHypothesis ((map_eq_error_iff _ _ _).1 failed)).behind _
  | _ =>
    cases failed
    exact MarkerError.pointsInto_opening ‹_›

/-- An error on a line points to a prefix there, inside a formula as well. -/
theorem Piece.pointsInto_of_ofText? {style : MarkerStyle} {column : Nat} {t : Text}
    {error : MarkerError} (failed : ofText? style column t = .error error) :
    error.PointsInto style column t := by
  fun_induction ofText? style column t with
  | case1 => cases failed
  | case2 column c rest plain inductionHypothesis =>
    exact (inductionHypothesis ((map_eq_error_iff _ _ _).1 failed)).behind [c]
  | case5 column c rest inner body following closed _ begins s declared _ _ inductionHypothesis =>
    rw [Slot.source_append_of_closed begins closed declared]
    exact (inductionHypothesis ((map_eq_error_iff _ _ _).1 failed)).behind _
  | case7 column c rest inner body following closed _ begins notBlank inError inside =>
    cases failed
    rw [MarkerStyle.eq_of_closed begins closed]
    have points := Part.pointsInto_of_ofText? inside
    simpa using points.within [c, style.openDelimiter] (style.closeDelimiter :: following)
  | case8 column c rest inner body following closed _ begins notBlank parts inside _ _
      inductionHypothesis =>
    rw [MarkerStyle.eq_of_closed begins closed]
    apply MarkerError.PointsInto.behind
    simpa [Nat.add_assoc] using inductionHypothesis ((map_eq_error_iff _ _ _).1 failed)
  | _ =>
    cases failed
    exact MarkerError.pointsInto_opening ‹_›

namespace Line

variable {style : MarkerStyle}

/-- An error on a raw line points to a prefix on it, and the line is no comment. -/
theorem pointsInto_of_ofRaw? {raw : Text} {error : MarkerError}
    (failed : ofRaw? style raw = .error error) :
    style.isComment (Text.dropLineEnds raw) = false ∧
      error.PointsInto style 1 (Text.dropLineEnds raw) := by
  unfold ofRaw? at failed
  simp only at failed
  split at failed
  · cases failed
  · rename_i marked
    exact ⟨Bool.eq_false_iff.2 marked,
      Piece.pointsInto_of_ofText? ((map_eq_error_iff _ _ _).1 failed)⟩

/-- Raw lines fail with the first of them that does, and the lines before it are read. -/
theorem exists_of_ofRaws? {number : Nat} {raws : List Text} {error : TemplateError}
    (failed : ofRaws? style number raws = .error error) :
    ∃ earlier raw later inLine, raws = earlier ++ raw :: later ∧
      ofRaw? style raw = .error inLine ∧
      error = .malformedMarker (number + earlier.length) inLine.column inLine.fault ∧
      ∃ lines, ofRaws? style number earlier = .ok lines := by
  induction raws generalizing number with
  | nil => cases failed
  | cons raw rest inductionHypothesis =>
    unfold ofRaws? at failed
    split at failed
    · rename_i column fault rawFailed
      cases failed
      exact ⟨[], raw, rest, _, rfl, rawFailed, rfl, [], rfl⟩
    · rename_i line read
      obtain ⟨earlier, found, later, inLine, rfl, foundFailed, rfl, lines, earlierRead⟩ :=
        inductionHypothesis ((map_eq_error_iff _ _ _).1 failed)
      refine ⟨raw :: earlier, found, later, inLine, rfl, foundFailed, ?_, line :: lines, ?_⟩
      · rw [List.length_cons, Nat.add_assoc, Nat.add_comm 1]
      · rw [ofRaws?, read, earlierRead]
        rfl

/-- Reported positions are exact. A marker is reported with the place behind the text in front of
its prefix. A scan that fails names the line and column of a prefix before the opening delimiter, on
a line that is no comment, and the lines before that one can be scanned. -/
theorem reported_positions_are_exact (style : MarkerStyle) (t : Text) :
    (∀ lines, scan style t = .ok lines →
      (∀ s ∈ slots style lines, ∃ before, style.OpensBehind style.variableMark before t ∧
        Position.behindText before = ⟨s.span.start, s.line, s.column⟩) ∧
      ∀ f ∈ formulas style lines, ∃ before, style.OpensBehind style.formulaMark before t ∧
        Position.behindText before = ⟨f.span.start, f.line, f.column⟩) ∧
    ∀ error, scan style t = .error error →
      ∃ fault earlier raw later mark before,
        error = .malformedMarker (earlier.length + 1) (before.length + 1) fault ∧
        Text.rawLines t = earlier ++ raw :: later ∧
        style.isComment (Text.dropLineEnds raw) = false ∧
        style.IsMark mark ∧ style.OpensBehind mark before (Text.dropLineEnds raw) ∧
        ∃ lines, scan style earlier.flatten = .ok lines := by
  constructor
  · intro lines scanned
    exact ⟨fun s => behindText_of_mem_slots scanned, fun f => behindText_of_mem_formulas scanned⟩
  · intro error failed
    obtain ⟨earlier, raw, later, inLine, cut, rawFailed, rfl, lines, earlierRead⟩ :=
      exists_of_ofRaws? failed
    obtain ⟨marked, mark, before, isMark, opens, column⟩ := pointsInto_of_ofRaw? rawFailed
    refine ⟨inLine.fault, earlier, raw, later, mark, before, ?_, cut, marked, isMark, opens, lines,
      ?_⟩
    · rw [column, Nat.add_comm 1, Nat.add_comm 1]
    · rw [scan, (Text.rawLines_in_front cut).1]
      exact earlierRead

/-- Columns count characters from the beginning of the line, and into the body of a formula. -/
example : scan .standard "é $\x7ba\x7d\r\né @\x7b1+@\x7b2\x7d\x7d".toList =
    .error (.malformedMarker 2 7 .nestedFormula) := by
  decide +kernel

end Line

end InputDeck
