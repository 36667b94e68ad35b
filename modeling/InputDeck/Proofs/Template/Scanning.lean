import InputDeck.Proofs.Outcome
import InputDeck.Proofs.Template.Balance
import InputDeck.Proofs.Text.Lines

/-!
# What a scan returns

Pieces determine the text they were read from, so reading is described by the pieces alone. A row
is scanned when no marker begins at one of its characters, every slot is what its balanced body
declares, and every formula has a balanced body that is not blank and is scanned itself. Reading a
text returns the only scanned row whose text it is; a column is counted for the sake of errors.
-/

namespace InputDeck

/-- A declared slot keeps the text that declares it. -/
theorem Slot.ofBody?_body {style : MarkerStyle} {body : Text} {s : Slot}
    (declared : Slot.ofBody? style body = .ok s) : s.body = body := by
  unfold Slot.ofBody? at declared
  split at declared
  · simp only at declared
    split at declared <;> cases declared
    rfl
  · simp only at declared
    split at declared
    · cases declared
    · split at declared
      · cases declared
      · split at declared
        · cases declared
        · obtain ⟨domain, -, rfl⟩ := (map_eq_ok_iff _ _ _).1 declared
          rfl

namespace Part

/-- The body of a formula, taken apart: no marker begins at a character, and every slot is what
its balanced body declares. -/
inductive Scanned (style : MarkerStyle) : List Part → Prop
  | nil : Scanned style []
  | char {c : Char} {parts : List Part}
      (plain : style.opening? c (Piece.body style parts) = none)
      (later : Scanned style parts) : Scanned style (.char c :: parts)
  | slot {s : Slot} {parts : List Part}
      (balanced : style.Balanced s.body)
      (declared : Slot.ofBody? style s.body = .ok s)
      (later : Scanned style parts) : Scanned style (.slot s :: parts)

/-- Reading one character and what it begins. -/
theorem ofText?_cons (style : MarkerStyle) (column : Nat) (c : Char) (rest : Text) :
    ofText? style column (c :: rest) =
      match style.opening? c rest with
      | none => (ofText? style (column + 1) rest).map (.char c :: ·)
      | some (kind, inner) =>
        match style.close? inner with
        | .error fault => .error ⟨column, fault⟩
        | .ok (body, following) =>
          match kind with
          | .formula => .error ⟨column, .nestedFormula⟩
          | .slot =>
            match Slot.ofBody? style body with
            | .error fault => .error ⟨column, fault⟩
            | .ok s =>
              (ofText? style (column + (s.source style).length) following).map (.slot s :: ·) := by
  rw [ofText?]
  split
  · rename_i plain
    simp only [plain]
  · rename_i kind inner begins
    simp only [begins]
    split
    · rename_i fault unclosed
      simp only [unclosed]
    · rename_i body following closed
      simp only [closed]
      split <;> rfl

/-- What is read from a text is scanned and is the text. -/
theorem scanned_of_ofText? {style : MarkerStyle} {column : Nat} {t : Text} {parts : List Part}
    (read : ofText? style column t = .ok parts) :
    Piece.body style parts = t ∧ Scanned style parts := by
  fun_induction ofText? style column t generalizing parts with
  | case1 =>
    cases read
    exact ⟨rfl, .nil⟩
  | case2 column c rest plain inductionHypothesis =>
    obtain ⟨later, laterRead, rfl⟩ := (map_eq_ok_iff _ _ _).1 read
    obtain ⟨rfl, laterScanned⟩ := inductionHypothesis laterRead
    exact ⟨rfl, .char plain laterScanned⟩
  | case6 column c rest inner body following closed begins s declared _ _ _ inductionHypothesis =>
    obtain ⟨later, laterRead, rfl⟩ := (map_eq_ok_iff _ _ _).1 read
    obtain ⟨rfl, laterScanned⟩ := inductionHypothesis laterRead
    obtain ⟨rfl, ⟨rfl, -⟩ | ⟨-, impossible⟩⟩ := (style.opening?_eq_some_iff _ _ _ _).1 begins
    · obtain ⟨rfl, balanced⟩ := (style.close?_eq_ok_iff _ _ _).1 closed
      obtain rfl := Slot.ofBody?_body declared
      exact ⟨by simp [Piece.body, source, Slot.source], .slot balanced declared laterScanned⟩
    · cases impossible
  | _ => cases read

/-- The text of scanned parts is read as these parts, wherever it stands. -/
theorem ofText?_body {style : MarkerStyle} {parts : List Part} (scanned : Scanned style parts)
    (column : Nat) : ofText? style column (Piece.body style parts) = .ok parts := by
  induction scanned generalizing column with
  | nil => simp [Piece.body, ofText?]
  | char plain _ inductionHypothesis =>
    change ofText? style column (_ :: Piece.body style _) = _
    simp [ofText?_cons, plain, inductionHypothesis]
  | @slot s parts balanced declared _ inductionHypothesis =>
    have written : Piece.body style (.slot s :: parts) =
        style.variableMark :: style.openDelimiter ::
          (s.body ++ style.closeDelimiter :: Piece.body style parts) := by
      simp [Piece.body, source, Slot.source]
    have closed := (style.close?_eq_ok_iff _ s.body (Piece.body style parts)).2 ⟨rfl, balanced⟩
    simp [written, ofText?_cons, closed, declared, inductionHypothesis]

/-- A text is read as parts exactly when they are scanned and are the text. -/
theorem ofText?_eq_ok_iff (style : MarkerStyle) (column : Nat) (t : Text) (parts : List Part) :
    ofText? style column t = .ok parts ↔ Piece.body style parts = t ∧ Scanned style parts := by
  constructor
  · exact scanned_of_ofText?
  · rintro ⟨rfl, scanned⟩
    exact ofText?_body scanned column

end Part

namespace Piece

/-- A line, taken apart: no marker begins at a character, every slot is what its balanced body
declares, and the balanced body of every formula is taken apart likewise and is not blank. -/
inductive Scanned (style : MarkerStyle) : List Piece → Prop
  | nil : Scanned style []
  | char {c : Char} {pieces : List Piece}
      (plain : style.opening? c (pieces.flatMap (source style)) = none)
      (later : Scanned style pieces) : Scanned style (.char c :: pieces)
  | slot {s : Slot} {pieces : List Piece}
      (balanced : style.Balanced s.body)
      (declared : Slot.ofBody? style s.body = .ok s)
      (later : Scanned style pieces) : Scanned style (.slot s :: pieces)
  | formula {parts : List Part} {pieces : List Piece}
      (balanced : style.Balanced (body style parts))
      (notBlank : Text.trim (body style parts) ≠ [])
      (inside : Part.Scanned style parts)
      (later : Scanned style pieces) : Scanned style (.formula parts :: pieces)

/-- Reading one character and what it begins. -/
theorem ofText?_cons (style : MarkerStyle) (column : Nat) (c : Char) (rest : Text) :
    ofText? style column (c :: rest) =
      match style.opening? c rest with
      | none => (ofText? style (column + 1) rest).map (.char c :: ·)
      | some (kind, inner) =>
        match style.close? inner with
        | .error fault => .error ⟨column, fault⟩
        | .ok (body, following) =>
          match kind with
          | .slot =>
            match Slot.ofBody? style body with
            | .error fault => .error ⟨column, fault⟩
            | .ok s =>
              (ofText? style (column + (s.source style).length) following).map (.slot s :: ·)
          | .formula =>
            if Text.trim body = [] then .error ⟨column, .emptyFormula⟩
            else
              match Part.ofText? style (column + 2) body with
              | .error error => .error error
              | .ok parts =>
                (ofText? style (column + body.length + 3) following).map
                  (.formula parts :: ·) := by
  rw [ofText?]
  split
  · rename_i plain
    simp only [plain]
  · rename_i kind inner begins
    simp only [begins]
    split
    · rename_i fault unclosed
      simp only [unclosed]
    · rename_i body following closed
      simp only [closed]
      split <;> rfl

/-- What is read from a text is scanned and is the text. -/
theorem scanned_of_ofText? {style : MarkerStyle} {column : Nat} {t : Text} {pieces : List Piece}
    (read : ofText? style column t = .ok pieces) :
    pieces.flatMap (source style) = t ∧ Scanned style pieces := by
  fun_induction ofText? style column t generalizing pieces with
  | case1 =>
    cases read
    exact ⟨rfl, .nil⟩
  | case2 column c rest plain inductionHypothesis =>
    obtain ⟨later, laterRead, rfl⟩ := (map_eq_ok_iff _ _ _).1 read
    obtain ⟨rfl, laterScanned⟩ := inductionHypothesis laterRead
    exact ⟨rfl, .char plain laterScanned⟩
  | case5 column c rest inner body following closed _ begins s declared _ _ inductionHypothesis =>
    obtain ⟨later, laterRead, rfl⟩ := (map_eq_ok_iff _ _ _).1 read
    obtain ⟨rfl, laterScanned⟩ := inductionHypothesis laterRead
    obtain ⟨rfl, ⟨rfl, -⟩ | ⟨-, impossible⟩⟩ := (style.opening?_eq_some_iff _ _ _ _).1 begins
    · obtain ⟨rfl, balanced⟩ := (style.close?_eq_ok_iff _ _ _).1 closed
      obtain rfl := Slot.ofBody?_body declared
      exact ⟨by simp [source, Slot.source], .slot balanced declared laterScanned⟩
    · cases impossible
  | case8 column c rest inner content following closed _ begins notBlank parts inside _ _
      inductionHypothesis =>
    obtain ⟨later, laterRead, rfl⟩ := (map_eq_ok_iff _ _ _).1 read
    obtain ⟨rfl, laterScanned⟩ := inductionHypothesis laterRead
    obtain ⟨rfl, ⟨-, impossible⟩ | ⟨rfl, -⟩⟩ := (style.opening?_eq_some_iff _ _ _ _).1 begins
    · cases impossible
    · obtain ⟨rfl, balanced⟩ := (style.close?_eq_ok_iff _ _ _).1 closed
      obtain ⟨rfl, insideScanned⟩ := (Part.ofText?_eq_ok_iff _ _ _ _).1 inside
      exact ⟨by simp [source], .formula balanced notBlank insideScanned laterScanned⟩
  | _ => cases read

/-- The text of scanned pieces is read as these pieces, wherever it stands. -/
theorem ofText?_source {style : MarkerStyle} {pieces : List Piece} (scanned : Scanned style pieces)
    (column : Nat) : ofText? style column (pieces.flatMap (source style)) = .ok pieces := by
  induction scanned generalizing column with
  | nil => simp [ofText?]
  | char plain _ inductionHypothesis =>
    simp [source, ofText?_cons, plain, inductionHypothesis]
  | @slot s pieces balanced declared _ inductionHypothesis =>
    have written : (Piece.slot s :: pieces).flatMap (source style) =
        style.variableMark :: style.openDelimiter ::
          (s.body ++ style.closeDelimiter :: pieces.flatMap (source style)) := by
      simp [source, Slot.source]
    have closed := (style.close?_eq_ok_iff _ s.body (pieces.flatMap (source style))).2
      ⟨rfl, balanced⟩
    simp [written, ofText?_cons, closed, declared, inductionHypothesis]
  | @formula parts pieces balanced notBlank inside _ inductionHypothesis =>
    have written : (Piece.formula parts :: pieces).flatMap (source style) =
        style.formulaMark :: style.openDelimiter ::
          (body style parts ++ style.closeDelimiter :: pieces.flatMap (source style)) := by
      simp [source]
    have closed := (style.close?_eq_ok_iff _ (body style parts)
      (pieces.flatMap (source style))).2 ⟨rfl, balanced⟩
    simp [written, ofText?_cons, closed, notBlank, Part.ofText?_body inside,
      inductionHypothesis]

/-- A text is read as pieces exactly when they are scanned and are the text. -/
theorem ofText?_eq_ok_iff (style : MarkerStyle) (column : Nat) (t : Text)
    (pieces : List Piece) :
    ofText? style column t = .ok pieces ↔
      pieces.flatMap (source style) = t ∧ Scanned style pieces := by
  constructor
  · exact scanned_of_ofText?
  · rintro ⟨rfl, scanned⟩
    exact ofText?_source scanned column

end Piece

namespace Line

/-- The text of a line without what closes it. -/
def content (style : MarkerStyle) (line : Line) : Text := line.pieces.flatMap (Piece.source style)

/-- A line that is cut where its line ends begin: characters alone on a comment line, and a
scanned row on any other. -/
structure Scanned (style : MarkerStyle) (line : Line) : Prop where
  cut : line.content style = Text.dropLineEnds (line.source style)
  comment : style.isComment (line.content style) = true →
    line.pieces = (line.content style).map Piece.char
  marked : style.isComment (line.content style) = false → Piece.Scanned style line.pieces

/-- Characters are pieces that are their own text. -/
theorem flatMap_source_char (style : MarkerStyle) (t : Text) :
    (t.map Piece.char).flatMap (Piece.source style) = t := by
  induction t with
  | nil => rfl
  | cons c rest inductionHypothesis =>
    simpa [Piece.source] using inductionHypothesis

/-- A raw line is read as a line exactly when the line is scanned and is the raw line. -/
theorem ofRaw?_eq_ok_iff (style : MarkerStyle) (raw : Text) (line : Line) :
    ofRaw? style raw = .ok line ↔ line.source style = raw ∧ line.Scanned style := by
  have restored := Text.dropLineEnds_append_drop raw
  unfold ofRaw?
  constructor
  · intro read
    by_cases comment : style.isComment (Text.dropLineEnds raw) = true
    · simp only [comment, ite_true, Except.ok.injEq] at read
      subst read
      have kept : content style ⟨(Text.dropLineEnds raw).map .char,
          raw.drop (Text.dropLineEnds raw).length⟩ = Text.dropLineEnds raw :=
        flatMap_source_char style _
      refine ⟨by simpa [source, flatMap_source_char] using restored, ?_, ?_, ?_⟩
      · rw [kept, source, flatMap_source_char, restored]
      · intro _
        rw [kept]
      · intro marked
        rw [kept, comment] at marked
        cases marked
    · simp only [comment, Bool.false_eq_true, ite_false, map_eq_ok_iff] at read
      obtain ⟨pieces, read, rfl⟩ := read
      obtain ⟨kept, scanned⟩ := (Piece.ofText?_eq_ok_iff _ _ _ _).1 read
      refine ⟨by simpa [source, kept] using restored, ?_, ?_, fun _ => scanned⟩
      · simp only [content, source, kept, restored]
      · intro isComment
        exact absurd (by simpa [content, kept] using isComment) comment
  · rintro ⟨rfl, scanned⟩
    have ending : (line.source style).drop (line.content style).length = line.ending := by
      simp [source, content]
    simp only [← scanned.cut, ending]
    by_cases comment : style.isComment (line.content style) = true
    · simp only [comment, ite_true, ← scanned.comment comment]
    · have marked := scanned.marked (Bool.eq_false_iff.2 comment)
      simp only [comment, Bool.false_eq_true, ite_false]
      rw [content, Piece.ofText?_source marked]
      rfl

/-- Raw lines are read as lines exactly when the lines are scanned and are the raw lines. -/
theorem ofRaws?_eq_ok_iff (style : MarkerStyle) (number : Nat) (raws : List Text)
    (lines : List Line) :
    ofRaws? style number raws = .ok lines ↔
      lines.map (source style) = raws ∧ ∀ line ∈ lines, line.Scanned style := by
  induction raws generalizing number lines with
  | nil =>
    cases lines <;> simp [ofRaws?]
  | cons raw rest inductionHypothesis =>
    unfold ofRaws?
    cases lines with
    | nil => split <;> simp
    | cons line later =>
      have first := ofRaw?_eq_ok_iff style raw line
      split
      · rename_i fault failed
        rw [failed] at first
        simp only [reduceCtorEq, false_iff, not_and] at first
        simp only [reduceCtorEq, List.map_cons, List.cons.injEq, List.mem_cons, forall_eq_or_imp,
          false_iff, not_and]
        intro written scanned
        exact absurd scanned (first written.1)
      · rename_i found read
        rw [read, Except.ok.injEq] at first
        simp only [map_eq_ok_iff, inductionHypothesis, List.cons.injEq, List.map_cons,
          List.mem_cons, forall_eq_or_imp]
        constructor
        · rintro ⟨lines, ⟨laterWritten, laterScanned⟩, rfl, rfl⟩
          obtain ⟨written, scanned⟩ := first.1 rfl
          exact ⟨⟨written, laterWritten⟩, scanned, laterScanned⟩
        · rintro ⟨⟨written, laterWritten⟩, scanned, laterScanned⟩
          exact ⟨later, ⟨laterWritten, laterScanned⟩, first.2 ⟨written, scanned⟩, rfl⟩

end Line

/-- A scan succeeds with lines exactly when they are the raw lines of the text, one by one, and
each of them is scanned. -/
theorem scan_eq_ok_iff (style : MarkerStyle) (t : Text) (lines : List Line) :
    scan style t = .ok lines ↔
      lines.map (Line.source style) = Text.rawLines t ∧ ∀ line ∈ lines, line.Scanned style :=
  Line.ofRaws?_eq_ok_iff style 1 (Text.rawLines t) lines

/-- The lines of a scan are the text. -/
theorem source_of_scan {style : MarkerStyle} {t : Text} {lines : List Line}
    (scanned : scan style t = .ok lines) : lines.flatMap (Line.source style) = t := by
  rw [List.flatMap_def, ((scan_eq_ok_iff style t lines).1 scanned).1, Text.flatten_rawLines]

end InputDeck
