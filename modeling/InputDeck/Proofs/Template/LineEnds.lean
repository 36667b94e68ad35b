import InputDeck.Proofs.Text.Returns
import InputDeck.Proofs.Template.Concatenation
import InputDeck.Proofs.Template.Rewriting

/-!
# Decks with other line ends

Markers are read from the content of lines, which is the same whether a newline has a carriage
return before it or not. So a deck with carriage returns is the same lines but for what closes
them. It is at fault where the deck without them is, and its markers stand on the same lines and
in the same columns; only the bytes they span lie further back. Compiled, it has carriage returns
before the newlines that are copied, and none before a newline that comes with a value.
-/

namespace InputDeck

/-- The line with carriage returns in what closes it. -/
def Line.withReturns (line : Line) : Line := { line with ending := line.ending.withReturns }

/-- The template with carriage returns in what closes its lines. -/
def Template.withReturns (template : Template) : Template :=
  { template with lines := template.lines.map Line.withReturns }

/-- A slot by its line and column, without the bytes it spans. -/
def SlotOccurrence.onPage (s : SlotOccurrence) : Text × Domain × Nat × Nat :=
  (s.name, s.domain, s.line, s.column)

/-- A formula by its line and column, without the bytes it spans. -/
def FormulaOccurrence.onPage (f : FormulaOccurrence) : Text × Nat × Nat :=
  (f.expression, f.line, f.column)

/-- The first document is the text with the edits made. The second is that document with a
carriage return before every newline that is copied from the text. -/
def Text.RewrittenWithReturns (edits : List (Span × Text)) (t out out' : Text) : Prop :=
  ∃ row : List (Text × Option Text),
    edits = rowEdits 0 row ∧
    t = row.flatMap Prod.fst ∧
    out = (row.flatMap fun part => part.2.getD part.1) ∧
    out' = row.flatMap fun part => part.2.getD part.1.withReturns

/-! ## Reading -/

namespace Line

variable (style : MarkerStyle)

/-- A raw line with carriage returns is read as the line with carriage returns. -/
theorem ofRaw?_withReturns {raw : Text} (noNewline : '\n' ∉ Text.dropLineEnds raw) :
    ofRaw? style raw.withReturns = (ofRaw? style raw).map withReturns := by
  simp only [ofRaw?, Text.dropLineEnds_withReturns noNewline, Text.drop_withReturns noNewline]
  split
  · rfl
  · cases Piece.ofText? style 1 (Text.dropLineEnds raw) <;> rfl

/-- Raw lines with carriage returns are read as the lines with carriage returns. -/
theorem ofRaws?_withReturns (number : Nat) {raws : List Text}
    (noNewline : ∀ raw ∈ raws, '\n' ∉ Text.dropLineEnds raw) :
    ofRaws? style number (raws.map Text.withReturns) =
      (ofRaws? style number raws).map (List.map withReturns) := by
  induction raws generalizing number with
  | nil => rfl
  | cons raw rest inductionHypothesis =>
    obtain ⟨first, later⟩ := List.forall_mem_cons.1 noNewline
    rw [List.map_cons, ofRaws?, ofRaws?, ofRaw?_withReturns style first,
      inductionHypothesis _ later]
    cases ofRaw? style raw with
    | error error => rfl
    | ok line => cases ofRaws? style (number + 1) rest <;> rfl

end Line

/-- A deck with carriage returns is scanned as the same lines with carriage returns. -/
theorem scan_withReturns (style : MarkerStyle) (t : Text) :
    scan style t.withReturns = (scan style t).map (List.map Line.withReturns) := by
  rw [scan, Text.rawLines_withReturns, scan]
  exact Line.ofRaws?_withReturns style 1 fun _ => Text.newline_not_mem_dropLineEnds

/-! ## Places on the page -/

namespace Position

/-- The place by its line and column alone. -/
def onPage (place : Position) : Position := { place with offset := 0 }

/-- A place lies its offset behind the same line and column. -/
theorem onPage_behind (place : Position) : place.onPage.behind place.offset 0 = place := by
  simp [onPage, behind]

/-- Items stand on lines and in columns that do not depend on the offset of the first. -/
theorem map_onPage_locate {α : Type} (source : α → Text) (place : Position) (items : List α) :
    (place.locate source items).map (fun found => (found.1.onPage, found.2)) =
      (place.onPage.locate source items).map fun found => (found.1.onPage, found.2) := by
  have moved := locate_behind place.offset 0 place.onPage source items
  rw [onPage_behind] at moved
  rw [moved, List.map_map]
  rfl

end Position

namespace Piece

variable (style : MarkerStyle) (place : Position) (piece : Piece)

/-- The lines and columns of the slots of a piece do not depend on its offset. -/
theorem map_onPage_slots :
    (piece.slots style place).map SlotOccurrence.onPage =
      (piece.slots style place.onPage).map SlotOccurrence.onPage := by
  have moved := slots_behind place.offset 0 style place.onPage piece
  rw [Position.onPage_behind] at moved
  rw [moved, List.map_map]
  rfl

/-- The line and column of a formula do not depend on its offset. -/
theorem map_onPage_formulas :
    (piece.formulas style place).map FormulaOccurrence.onPage =
      (piece.formulas style place.onPage).map FormulaOccurrence.onPage := by
  have moved := formulas_behind place.offset 0 style place.onPage piece
  rw [Position.onPage_behind] at moved
  rw [moved, List.map_map]
  rfl

end Piece

namespace Line

variable (style : MarkerStyle)

/-- The pieces of a deck with carriage returns stand on the same lines and in the same columns. -/
theorem map_onPage_located (offset offset' number : Nat) (lines : List Line) :
    (located style offset number (lines.map withReturns)).map
        (fun found => (found.1.onPage, found.2)) =
      (located style offset' number lines).map fun found => (found.1.onPage, found.2) := by
  induction lines generalizing offset offset' number with
  | nil => rfl
  | cons line rest inductionHypothesis =>
    rw [List.map_cons, located, located, List.map_append, List.map_append,
      inductionHypothesis _ (offset' + Text.byteLength (line.source style)),
      Position.map_onPage_locate, Position.map_onPage_locate _ ⟨offset', number, 1⟩]
    rfl

/-- What is found in the pieces of a deck by their lines is found with carriage returns as well. -/
theorem findSome?_withReturns {ε : Type} (f : Nat → Piece → Option ε)
    (offset offset' number : Nat) (lines : List Line) :
    (located style offset number (lines.map withReturns)).findSome?
        (fun found => f found.1.line found.2) =
      (located style offset' number lines).findSome? fun found => f found.1.line found.2 := by
  have same := congrArg (List.findSome? fun found => f found.1.line found.2)
    (map_onPage_located style offset offset' number lines)
  rwa [List.findSome?_map, List.findSome?_map] at same

/-- What is reported of pieces by their lines and columns is reported with carriage returns as
well. -/
theorem flatMap_withReturns {α : Type} (report : Position × Piece → List α)
    (byPage : ∀ found, report found = report (found.1.onPage, found.2))
    (offset offset' number : Nat) (lines : List Line) :
    (located style offset number (lines.map withReturns)).flatMap report =
      (located style offset' number lines).flatMap report := by
  have same := congrArg (List.flatMap report) (map_onPage_located style offset offset' number lines)
  simp only [List.flatMap_map, ← byPage] at same
  exact same

/-- The slots of a deck with carriage returns stand on the same lines and in the same columns. -/
theorem map_onPage_slots (lines : List Line) :
    (slots style (lines.map withReturns)).map SlotOccurrence.onPage =
      (slots style lines).map SlotOccurrence.onPage := by
  rw [slots, slots, List.map_flatMap, List.map_flatMap]
  exact flatMap_withReturns style _ (fun found => found.2.map_onPage_slots style found.1) 0 0 1
    lines

/-- The formulas of a deck with carriage returns stand on the same lines and in the same
columns. -/
theorem map_onPage_formulas (lines : List Line) :
    (formulas style (lines.map withReturns)).map FormulaOccurrence.onPage =
      (formulas style lines).map FormulaOccurrence.onPage := by
  rw [formulas, formulas, List.map_flatMap, List.map_flatMap]
  exact flatMap_withReturns style _ (fun found => found.2.map_onPage_formulas style found.1) 0 0 1
    lines

end Line

namespace Template

/-- Two templates are the same but for the bytes that their markers span: they have the same
variables and notices, and their slots and formulas stand on the same lines and in the same
columns. -/
structure SameOnPage (template template' : Template) : Prop where
  declared : template.declared = template'.declared
  notices : template.notices = template'.notices
  slots : template.slots.map SlotOccurrence.onPage = template'.slots.map SlotOccurrence.onPage
  formulas :
    template.formulas.map FormulaOccurrence.onPage = template'.formulas.map FormulaOccurrence.onPage

/-- A template with carriage returns is the same on the page. -/
theorem sameOnPage_withReturns (template : Template) :
    SameOnPage template template.withReturns where
  declared := rfl
  notices := rfl
  slots := (Line.map_onPage_slots template.style template.lines).symm
  formulas := (Line.map_onPage_formulas template.style template.lines).symm

/-- A deck with carriage returns is read as the template with carriage returns. -/
theorem ofText?_withReturns (style : MarkerStyle) (t : Text) :
    ofText? style t.withReturns = (ofText? style t).map withReturns := by
  simp only [ofText?, scan_withReturns]
  cases scan style t with
  | error error => rfl
  | ok lines =>
    have declarations : (Line.slots style (lines.map Line.withReturns)).map
        SlotOccurrence.declaration = (Line.slots style lines).map SlotOccurrence.declaration := by
      -- what a slot declares is on the page
      have same := congrArg (List.map fun s : Text × Domain × Nat × Nat =>
        (⟨s.1, s.2.1, s.2.2.1⟩ : Declaration)) (Line.map_onPage_slots style lines)
      rwa [List.map_map, List.map_map] at same
    have checked : checkLines style 1 (lines.map Line.withReturns) = checkLines style 1 lines := by
      rw [checkLines_eq style 0, checkLines_eq style 0,
        Line.findSome?_withReturns style (checkFailure? style) 0 0]
    simp only [Except.map, declarations, checked]
    cases Variable.collect ((Line.slots style lines).map SlotOccurrence.declaration) with
    | error error => rfl
    | ok collected => cases checkLines style 1 lines <;> rfl

/-! ## Compiling -/

/-- No newline stands in a line before what closes it. -/
theorem Reads.newline_not_mem_content {style : MarkerStyle} {t : Text} {template : Template}
    (reads : template.Reads style t) : ∀ line ∈ template.lines, '\n' ∉ line.content style := by
  obtain ⟨raws, scanned⟩ := (scan_eq_ok_iff style t template.lines).1 reads.scanned
  intro line member
  rw [(scanned line member).cut]
  exact Text.newline_not_mem_dropLineEnds (raws ▸ List.mem_map_of_mem member)

/-- With carriage returns in what is copied, the row of lines is the new text of the lines with
carriage returns. -/
theorem flatMap_returns_lineRow (style : MarkerStyle) (resolved : List (Text × Value))
    (bindings : Bindings) (number : Nat) {lines : List Line}
    (noNewline : ∀ line ∈ lines, '\n' ∉ line.content style) :
    ((lineRow style resolved bindings number lines).flatMap fun part =>
        part.2.getD part.1.withReturns) =
      newLines style resolved bindings number (lines.map Line.withReturns) := by
  induction lines generalizing number with
  | nil => rfl
  | cons line rest inductionHypothesis =>
    obtain ⟨first, later⟩ := List.forall_mem_cons.1 noNewline
    have pieces : ((pieceRow style resolved bindings number line.pieces).flatMap fun part =>
        part.2.getD part.1.withReturns) = newPieces style resolved bindings number line.pieces := by
      rw [pieceRow, List.flatMap_map, newPieces]
      refine List.flatMap_congr fun piece member => ?_
      have copied : (piece.source style).withReturns = piece.source style :=
        Text.withReturns_eq_self fun inside => first (List.mem_flatMap.2 ⟨piece, member, inside⟩)
      rw [copied]
    rw [lineRow, List.flatMap_append, pieces, List.flatMap_cons, inductionHypothesis _ later,
      List.map_cons, newLines, List.append_assoc]
    rfl

variable {style : MarkerStyle} {t : Text} {template : Template}

/-- A template and the one with carriage returns fail with the same error, or compile to the same
document but for the carriage returns before newlines that are copied. -/
theorem Reads.compile_withReturns (reads : template.Reads style t) (useDefaults : Bool)
    (bindings : Bindings) :
    Alike Eq (fun out out' => ∃ (resolved : List (Text × Value)) (edits : List (Marker × Text)),
        template.resolve useDefaults bindings = .ok resolved ∧
        edits.map Prod.fst = template.topMarkers ∧
        (∀ edit ∈ edits, Marker.Becomes t template.slots resolved bindings edit.1 edit.2) ∧
        Text.RewrittenWithReturns (edits.map fun edit => (edit.1.span, edit.2)) t out out')
      (template.compile useDefaults bindings)
      (template.withReturns.compile useDefaults bindings) := by
  have resolves : template.withReturns.resolve useDefaults bindings =
      template.resolve useDefaults bindings := rfl
  cases done : template.resolve useDefaults bindings with
  | error error =>
    rw [compile, compile, resolves, done]
    exact .error rfl
  | ok resolved =>
    have failures : (template.withReturns.located.findSome? fun found =>
          failure? (found.2.compiled? template.style found.1.line resolved bindings)) =
        template.located.findSome? fun found =>
          failure? (found.2.compiled? template.style found.1.line resolved bindings) :=
      Line.findSome?_withReturns template.style (fun number piece =>
        failure? (piece.compiled? template.style number resolved bindings)) 0 0 1 template.lines
    rw [compile_eq done, compile_eq (resolves.trans done)]
    change Alike Eq _ _ (outcomeOf (template.withReturns.located.findSome? fun found =>
      failure? (found.2.compiled? template.style found.1.line resolved bindings))
      (newLines template.style resolved bindings 1 (template.lines.map Line.withReturns)))
    rw [failures]
    cases passed : template.located.findSome? fun found =>
        failure? (found.2.compiled? template.style found.1.line resolved bindings) with
    | some error => exact .error rfl
    | none =>
      obtain ⟨edits, markers, become, row⟩ := reads.exists_edits done passed
      refine .ok ⟨resolved, edits, rfl, markers, become,
        lineRow template.style resolved bindings 1 template.lines, row, ?_, ?_, ?_⟩
      · rw [flatMap_fst_lineRow]
        exact reads.text_eq.symm
      · rw [flatMap_new_lineRow]
      · rw [flatMap_returns_lineRow]
        rw [reads.style_eq]
        exact reads.newline_not_mem_content

/-- Carriage returns before the newlines of a deck play no part. With them the deck has the same
error, or the same variables, and slots and formulas on the same lines and in the same columns;
and it compiles with the same error, or to the same document but for carriage returns before the
newlines that are copied from the deck. A newline in a value gets none. -/
theorem returns_before_newlines_are_copied (style : MarkerStyle) (t : Text) :
    Alike Eq (fun template template' =>
        SameOnPage template template' ∧
        ∀ useDefaults bindings,
          Alike Eq (fun out out' =>
              ∃ (resolved : List (Text × Value)) (edits : List (Marker × Text)),
                template.resolve useDefaults bindings = .ok resolved ∧
                edits.map Prod.fst = template.topMarkers ∧
                (∀ edit ∈ edits,
                  Marker.Becomes t template.slots resolved bindings edit.1 edit.2) ∧
                Text.RewrittenWithReturns (edits.map fun edit => (edit.1.span, edit.2)) t out out')
            (template.compile useDefaults bindings) (template'.compile useDefaults bindings))
      (ofText? style t) (ofText? style t.withReturns) := by
  rw [ofText?_withReturns]
  cases read : ofText? style t with
  | error error => exact .error rfl
  | ok template =>
    exact .ok ⟨sameOnPage_withReturns template, (reads_of_ofText? read).compile_withReturns⟩

/-- A newline that is copied gets its carriage return, and one in a value gets none. -/
theorem newline_of_value_without_return :
    ∃ (template template' : Template) (edits : List (Marker × Text)),
      ofText? .standard "a\n$\x7bs\x7d\n".toList = .ok template ∧
      ofText? .standard "a\r\n$\x7bs\x7d\r\n".toList = .ok template' ∧
      SameOnPage template template' ∧
      template'.compile true (Bindings.ofList [(['s'], .text "x\ny".toList)]) =
        .ok "a\r\nx\ny\r\n".toList ∧
      edits.map (fun edit => edit.1.span) = [⟨2, 6⟩] ∧
      Text.RewrittenWithReturns (edits.map fun edit => (edit.1.span, edit.2))
        "a\n$\x7bs\x7d\n".toList "a\nx\ny\n".toList "a\r\nx\ny\r\n".toList := by
  let slot : Piece := .slot ⟨['s'], ['s'], .unconstrained⟩
  let template : Template :=
    ⟨.standard, [⟨[.char 'a'], ['\n']⟩, ⟨[slot], ['\n']⟩], [⟨['s'], .unconstrained, 2⟩], []⟩
  let template' : Template :=
    ⟨.standard, [⟨[.char 'a'], ['\r', '\n']⟩, ⟨[slot], ['\r', '\n']⟩],
      [⟨['s'], .unconstrained, 2⟩], []⟩
  let bindings : Bindings := Bindings.ofList [(['s'], .text "x\ny".toList)]
  have read : ofText? .standard "a\n$\x7bs\x7d\n".toList = .ok template := by decide +kernel
  have read' : ofText? .standard "a\r\n$\x7bs\x7d\r\n".toList = .ok template' := by decide +kernel
  have compiled : template.compile true bindings = .ok "a\nx\ny\n".toList := by decide +kernel
  have compiled' : template'.compile true bindings = .ok "a\r\nx\ny\r\n".toList := by decide +kernel
  have spans : template.topMarkers.map Marker.span = [⟨2, 6⟩] := by decide +kernel
  have alike := returns_before_newlines_are_copied .standard "a\n$\x7bs\x7d\n".toList
  rw [read, show Text.withReturns _ = "a\r\n$\x7bs\x7d\r\n".toList from rfl, read'] at alike
  cases alike with
  | ok related =>
    obtain ⟨samePage, compiles⟩ := related
    have documents := compiles true bindings
    rw [compiled, compiled'] at documents
    cases documents with
    | ok rewritten =>
      obtain ⟨resolved, edits, -, markers, -, rewritten⟩ := rewritten
      refine ⟨template, template', edits, read, read', samePage, compiled', ?_, rewritten⟩
      rw [← spans, ← markers, List.map_map]
      rfl

end Template

end InputDeck
