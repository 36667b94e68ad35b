import Mathlib.Data.List.Basic
import InputDeck.Proofs.Template.Scope

/-!
# Decks one behind the other

A line is read without regard to the lines before it. So a deck whose last line is ended can be
followed by any other deck: the markers of the second are reported behind those of the first, its
errors further down, and where every variable is bound the two compile one behind the other.
-/

namespace InputDeck

/-- The error, as it reads so many lines further down. -/
def TemplateError.below (lines : Nat) : TemplateError → TemplateError
  | malformedMarker line column fault => malformedMarker (line + lines) column fault
  | inconsistentDomain name first later line => inconsistentDomain name first later (line + lines)
  | unresolved name => unresolved name
  | formula expression line cause => formula expression (line + lines) cause

/-- The span behind so many bytes. -/
def Span.behind (bytes : Nat) (span : Span) : Span := ⟨span.start + bytes, span.stop + bytes⟩

/-- The slot behind so many bytes and lines. -/
def SlotOccurrence.behind (bytes lines : Nat) (s : SlotOccurrence) : SlotOccurrence :=
  { s with span := s.span.behind bytes, line := s.line + lines }

/-- The formula behind so many bytes and lines. -/
def FormulaOccurrence.behind (bytes lines : Nat) (f : FormulaOccurrence) : FormulaOccurrence :=
  { f with span := f.span.behind bytes, body := f.body.behind bytes, line := f.line + lines }

/-- What is reported of a deck: its slots and its formulas, in the order of the text. -/
def report (style : MarkerStyle) (t : Text) :
    Except TemplateError (List SlotOccurrence × List FormulaOccurrence) :=
  (scan style t).map fun lines => (Line.slots style lines, Line.formulas style lines)

namespace Position

/-- The place behind so many bytes and lines. -/
def behind (bytes lines : Nat) (place : Position) : Position :=
  { place with offset := place.offset + bytes, line := place.line + lines }

variable (bytes lines : Nat) (place : Position)

/-- A text leads from a place further down to a place further down. -/
theorem advance_behind (t : Text) :
    (place.behind bytes lines).advance t = (place.advance t).behind bytes lines := by
  simp only [behind, advance, Position.mk.injEq, and_true]
  omega

/-- A text spans as many bytes further down. -/
theorem span_behind (t : Text) :
    (place.behind bytes lines).span t = (place.span t).behind bytes := by
  simp only [behind, span, Span.behind, Span.mk.injEq, true_and]
  omega

/-- Items stand further down one by one. -/
theorem locate_behind {α : Type} (source : α → Text) (items : List α) :
    (place.behind bytes lines).locate source items =
      (place.locate source items).map fun found => (found.1.behind bytes lines, found.2) := by
  induction items generalizing place with
  | nil => rfl
  | cons item rest inductionHypothesis =>
    rw [locate, locate, advance_behind, inductionHypothesis, List.map_cons]

end Position

namespace Piece

variable (bytes lines : Nat) (style : MarkerStyle) (place : Position)

/-- The slots of a piece that stands further down. -/
theorem slots_behind (piece : Piece) :
    piece.slots style (place.behind bytes lines) =
      (piece.slots style place).map (SlotOccurrence.behind bytes lines) := by
  have moved : ∀ (s : Slot) (place : Position), s.occurrence style (place.behind bytes lines) =
      (s.occurrence style place).behind bytes lines := by
    intro s place
    simp only [Slot.occurrence, SlotOccurrence.behind, Position.span_behind]
    rfl
  cases piece with
  | char c => rfl
  | slot s => exact congrArg (fun s => [s]) (moved s place)
  | formula parts =>
    simp only [slots, Part.occurrences, Position.advance_behind, Position.locate_behind,
      List.filterMap_map, List.map_filterMap]
    apply List.filterMap_congr
    rintro ⟨found, part⟩ -
    cases part with
    | char c => rfl
    | slot s => exact congrArg some (moved s found)

/-- The formula of a piece that stands further down. -/
theorem formulas_behind (piece : Piece) :
    piece.formulas style (place.behind bytes lines) =
      (piece.formulas style place).map (FormulaOccurrence.behind bytes lines) := by
  cases piece with
  | char c => rfl
  | slot s => rfl
  | formula parts =>
    simp only [formulas, Position.advance_behind, Position.span_behind]
    rfl

end Piece

namespace Line

variable (style : MarkerStyle)

/-- Pieces of further lines stand behind those of the lines before. -/
theorem located_append (offset number : Nat) (first second : List Line) :
    located style offset number (first ++ second) =
      located style offset number first ++
        located style (offset + Text.byteLength (first.flatMap (source style)))
          (number + first.length) second := by
  induction first generalizing offset number with
  | nil => rfl
  | cons line rest inductionHypothesis =>
    simp only [List.cons_append, located, inductionHypothesis, List.append_assoc,
      List.flatMap_cons, Text.byteLength_append, List.length_cons]
    congr 3
    · omega
    · omega

/-- Lines that begin further down have their pieces further down. -/
theorem located_behind (bytes lines offset number : Nat) (rows : List Line) :
    located style (offset + bytes) (number + lines) rows =
      (located style offset number rows).map fun found =>
        (found.1.behind bytes lines, found.2) := by
  induction rows generalizing offset number with
  | nil => rfl
  | cons line rest inductionHypothesis =>
    have below := inductionHypothesis (offset + Text.byteLength (line.source style)) (number + 1)
    rw [Nat.add_right_comm offset, Nat.add_right_comm number] at below
    rw [located, located, below, List.map_append]
    exact congrArg (· ++ _) (Position.locate_behind bytes lines ⟨offset, number, 1⟩ _ _)

/-- The slots of two decks, one behind the other. -/
theorem slots_append (first second : List Line) :
    slots style (first ++ second) = slots style first ++ (slots style second).map
      (SlotOccurrence.behind (Text.byteLength (first.flatMap (source style))) first.length) := by
  rw [slots, located_append, located_behind, List.flatMap_append, List.flatMap_map, slots, slots,
    List.map_flatMap]
  simp only [Piece.slots_behind]

/-- The formulas of two decks, one behind the other. -/
theorem formulas_append (first second : List Line) :
    formulas style (first ++ second) = formulas style first ++ (formulas style second).map
      (FormulaOccurrence.behind (Text.byteLength (first.flatMap (source style)))
        first.length) := by
  rw [formulas, located_append, located_behind, List.flatMap_append, List.flatMap_map, formulas,
    formulas, List.map_flatMap]
  simp only [Piece.formulas_behind]

/-- Raw lines are read one behind the other, and the first error counts. -/
theorem ofRaws?_append (number : Nat) (first second : List Text) :
    ofRaws? style number (first ++ second) =
      match ofRaws? style number first with
      | .error error => .error error
      | .ok lines => (ofRaws? style (number + first.length) second).map (lines ++ ·) := by
  induction first generalizing number with
  | nil =>
    simp only [List.nil_append, ofRaws?, List.length_nil, Nat.add_zero]
    cases ofRaws? style number second <;> rfl
  | cons raw rest inductionHypothesis =>
    simp only [List.cons_append, ofRaws?, inductionHypothesis, List.length_cons,
      Nat.add_assoc, Nat.add_comm 1]
    cases ofRaw? style raw with
    | error error => rfl
    | ok line =>
      cases ofRaws? style (number + 1) rest with
      | error error => rfl
      | ok lines => cases ofRaws? style _ second <;> rfl

/-- Raw lines further down are the same lines or fail further down. -/
theorem ofRaws?_below (lines number : Nat) (raws : List Text) :
    ofRaws? style (number + lines) raws =
      (ofRaws? style number raws).mapError (TemplateError.below lines) := by
  induction raws generalizing number with
  | nil => rfl
  | cons raw rest inductionHypothesis =>
    rw [ofRaws?, ofRaws?, Nat.add_right_comm, inductionHypothesis]
    cases ofRaw? style raw with
    | error error => rfl
    | ok line => cases ofRaws? style (number + 1) rest <;> rfl

end Line

/-- A deck behind one that ends its line is scanned on its own, and an error of the first deck comes
first. -/
theorem scan_append (style : MarkerStyle) {first : Text} (ends : first.EndsLine) (second : Text) :
    scan style (first ++ second) =
      match scan style first with
      | .error error => .error error
      | .ok lines =>
        match scan style second with
        | .error error => .error (error.below (first.count '\n'))
        | .ok more => .ok (lines ++ more) := by
  simp only [scan, Text.rawLines_append ends, Line.ofRaws?_append, Line.ofRaws?_below,
    Text.length_rawLines ends]
  cases Line.ofRaws? style 1 first.rawLines with
  | error error => rfl
  | ok lines => cases Line.ofRaws? style 1 second.rawLines <;> rfl

/-- A scanned deck that ends its line has as many lines as newlines. -/
theorem length_of_scan {style : MarkerStyle} {t : Text} {lines : List Line}
    (ends : t.EndsLine) (scanned : scan style t = .ok lines) :
    lines.length = t.count '\n' := by
  have raws := ((scan_eq_ok_iff style t lines).1 scanned).1
  rw [← Text.length_rawLines ends, ← raws, List.length_map]

/-- The markers of two decks are reported one behind the other. -/
theorem report_append (style : MarkerStyle) {first : Text} (ends : first.EndsLine)
    (second : Text) :
    report style (first ++ second) =
      match report style first with
      | .error error => .error error
      | .ok (slots, formulas) =>
        match report style second with
        | .error error => .error (error.below (first.count '\n'))
        | .ok (slots', formulas') =>
          .ok (slots ++ slots'.map (.behind first.byteLength (first.count '\n')),
            formulas ++ formulas'.map (.behind first.byteLength (first.count '\n'))) := by
  rw [report, report, report, scan_append style ends]
  cases scanned : scan style first with
  | error error => rfl
  | ok lines =>
    cases scan style second with
    | error error => rfl
    | ok more =>
      simp only [Except.map, Line.slots_append, Line.formulas_append, source_of_scan scanned,
        length_of_scan ends scanned]

namespace Template

variable (style : MarkerStyle) (resolved : List (Text × Value)) (bindings : Bindings)

/-- A piece further down has the same new text or fails further down. -/
theorem compiled?_below (lines number : Nat) (piece : Piece) :
    piece.compiled? style (number + lines) resolved bindings =
      (piece.compiled? style number resolved bindings).map
        (Except.mapError (TemplateError.below lines)) := by
  cases piece with
  | char c => rfl
  | slot s => rfl
  | formula parts =>
    simp only [Piece.compiled?]
    cases Piece.evaluate resolved bindings parts with
    | error cause => cases cause <;> rfl
    | ok v => rfl

/-- Pieces further down compile to the same text or fail further down. -/
theorem compilePieces_below (lines number : Nat) (pieces : List Piece) :
    compilePieces style (number + lines) resolved bindings pieces =
      (compilePieces style number resolved bindings pieces).mapError
        (TemplateError.below lines) := by
  induction pieces with
  | nil => rfl
  | cons piece rest inductionHypothesis =>
    rw [compilePieces_cons, compilePieces_cons, compiled?_below, inductionHypothesis]
    cases piece.compiled? style number resolved bindings with
    | none => cases compilePieces style number resolved bindings rest <;> rfl
    | some outcome =>
      cases outcome with
      | error error => rfl
      | ok t => cases compilePieces style number resolved bindings rest <;> rfl

/-- Lines further down compile to the same text or fail further down. -/
theorem compileLines_below (lines number : Nat) (rows : List Line) :
    compileLines style resolved bindings (number + lines) rows =
      (compileLines style resolved bindings number rows).mapError
        (TemplateError.below lines) := by
  induction rows generalizing number with
  | nil => rfl
  | cons line rest inductionHypothesis =>
    rw [compileLines, compileLines, compilePieces_below, Nat.add_right_comm, inductionHypothesis]
    cases compilePieces style number resolved bindings line.pieces with
    | error error => rfl
    | ok t => cases compileLines style resolved bindings (number + 1) rest <;> rfl

/-- Lines compile one behind the other, and the first error counts. -/
theorem compileLines_append (number : Nat) (first second : List Line) :
    compileLines style resolved bindings number (first ++ second) =
      match compileLines style resolved bindings number first with
      | .error error => .error error
      | .ok out =>
        (compileLines style resolved bindings (number + first.length) second).map
          (out ++ ·) := by
  induction first generalizing number with
  | nil =>
    simp only [List.nil_append, compileLines, List.length_nil, Nat.add_zero]
    cases compileLines style resolved bindings number second <;> rfl
  | cons line rest inductionHypothesis =>
    simp only [List.cons_append, compileLines, inductionHypothesis, List.length_cons,
      Nat.add_assoc, Nat.add_comm 1]
    cases compilePieces style number resolved bindings line.pieces with
    | error error => rfl
    | ok t =>
      cases compileLines style resolved bindings (number + 1) rest with
      | error error => rfl
      | ok out =>
        cases compileLines style resolved bindings _ second with
        | error error => rfl
        | ok more => simp [Except.map]

variable {style resolved bindings}
variable {t : Text} {template : Template} {useDefaults : Bool}

/-- Where its variables are bound, a template compiles as its lines do with any resolved values that
show the bindings. -/
theorem compile_of_bound (read : ofText? style t = .ok template)
    (bound : ∀ name ∈ Variable.names template.declared, (bindings name).isSome)
    (values : ∀ name ∈ Variable.names template.declared,
      Bindings.ofList resolved name = bindings name)
    (scope : (Bindings.ofList resolved).layered bindings = bindings) :
    template.compile useDefaults bindings =
      compileLines style resolved bindings 1 template.lines := by
  obtain ⟨own, done, ownValues, ownScope⟩ := resolveAll_of_bound useDefaults bound
  rw [compile, resolve, done, ← (reads_of_ofText? read).style_eq]
  apply compileLines_congr
  refine ⟨?_, ownScope.trans scope.symm⟩
  intro name member
  have declared := (mem_names_declared_iff read name).2 member
  rw [ownValues name declared, values name declared]

/-- A deck can be read line by line. In front of any other deck, one that ends its line keeps its
markers and its errors, and those of the other are reported behind it. Where all three decks can
be read and every variable is bound, they compile one behind the other, and the first error
counts. -/
theorem decks_behind_one_another {style : MarkerStyle} {first : Text} (ends : first.EndsLine)
    (second : Text) :
    report style (first ++ second) =
      (match report style first with
      | .error error => .error error
      | .ok (slots, formulas) =>
        match report style second with
        | .error error => .error (error.below (first.count '\n'))
        | .ok (slots', formulas') =>
          .ok (slots ++ slots'.map (.behind first.byteLength (first.count '\n')),
            formulas ++ formulas'.map (.behind first.byteLength (first.count '\n')))) ∧
    ∀ upper lower both : Template, ofText? style first = .ok upper →
      ofText? style second = .ok lower → ofText? style (first ++ second) = .ok both →
      ∀ (useDefaults : Bool) (bindings : Bindings),
        (∀ name ∈ Variable.names upper.declared ++ Variable.names lower.declared,
          (bindings name).isSome) →
        both.compile useDefaults bindings =
          match upper.compile useDefaults bindings with
          | .error error => .error error
          | .ok out =>
            match lower.compile useDefaults bindings with
            | .error error => .error (error.below (first.count '\n'))
            | .ok more => .ok (out ++ more) := by
  refine ⟨report_append style ends second, ?_⟩
  intro upper lower both upperRead lowerRead bothRead useDefaults bindings bound
  have upperScanned := (reads_of_ofText? upperRead).scanned
  have bothScanned := (reads_of_ofText? bothRead).scanned
  rw [scan_append style ends, upperScanned, (reads_of_ofText? lowerRead).scanned] at bothScanned
  have lines : both.lines = upper.lines ++ lower.lines := (Except.ok.inj bothScanned).symm
  have names : ∀ name, name ∈ Variable.names both.declared ↔
      name ∈ Variable.names upper.declared ++ Variable.names lower.declared := by
    intro name
    simp [mem_names_declared_iff bothRead, mem_names_declared_iff upperRead,
      mem_names_declared_iff lowerRead, lines, Line.slotNames]
  have bothBound : ∀ name ∈ Variable.names both.declared, (bindings name).isSome :=
    fun name member => bound name ((names name).1 member)
  obtain ⟨resolved, -, values, scope⟩ := resolveAll_of_bound useDefaults bothBound
  have upperValues : ∀ name ∈ Variable.names upper.declared,
      Bindings.ofList resolved name = bindings name :=
    fun name member => values name ((names name).2 (List.mem_append_left _ member))
  have lowerValues : ∀ name ∈ Variable.names lower.declared,
      Bindings.ofList resolved name = bindings name :=
    fun name member => values name ((names name).2 (List.mem_append_right _ member))
  rw [compile_of_bound bothRead bothBound values scope,
    compile_of_bound upperRead (fun name member => bound name (List.mem_append_left _ member))
      upperValues scope,
    compile_of_bound lowerRead (fun name member => bound name (List.mem_append_right _ member))
      lowerValues scope,
    lines, compileLines_append, compileLines_below, length_of_scan ends upperScanned]
  cases compileLines style resolved bindings 1 upper.lines with
  | error error => rfl
  | ok out => cases compileLines style resolved bindings 1 lower.lines <;> rfl

/-- A formula of the second of two decks needs a number where a variable of the first is text. -/
theorem text_in_second_deck :
    ∃ upper lower both : Template,
      Text.EndsLine "m $\x7bm\x7d\n".toList ∧
      ofText? .standard "m $\x7bm\x7d\n".toList = .ok upper ∧
      ofText? .standard "@\x7b2*m\x7d".toList = .ok lower ∧
      ofText? .standard "m $\x7bm\x7d\n@\x7b2*m\x7d".toList = .ok both ∧
      both.compile true (fun _ => some (.text ['U'])) =
        .error (.formula "2*m".toList 2 (.nonNumeric ['m'] ['U'])) := by
  let marked : Line := ⟨[.char 'm', .char ' ', .slot ⟨['m'], ['m'], .unconstrained⟩], ['\n']⟩
  let doubled : Line := ⟨[.formula [.char '2', .char '*', .char 'm']], []⟩
  let upper : Template := ⟨.standard, [marked], [⟨['m'], .unconstrained, 1⟩], []⟩
  let lower : Template := ⟨.standard, [doubled], [], []⟩
  let both : Template := ⟨.standard, [marked, doubled], [⟨['m'], .unconstrained, 1⟩], []⟩
  have ends : Text.EndsLine "m $\x7bm\x7d\n".toList := by
    intro c last
    cases last
    rfl
  have upperRead : ofText? .standard "m $\x7bm\x7d\n".toList = .ok upper := by decide +kernel
  have lowerRead : ofText? .standard "@\x7b2*m\x7d".toList = .ok lower := by decide +kernel
  have bothRead : ofText? .standard "m $\x7bm\x7d\n@\x7b2*m\x7d".toList = .ok both := by decide +kernel
  have joined := (decks_behind_one_another ends "@\x7b2*m\x7d".toList).2 upper lower both
    upperRead lowerRead bothRead true (fun _ => some (.text ['U'])) (fun _ _ => rfl)
  have upperCompiled : upper.compile true (fun _ => some (.text ['U'])) = .ok "m U\n".toList := by
    decide +kernel
  have lowerFailed : lower.compile true (fun _ => some (.text ['U'])) =
      .error (.formula "2*m".toList 1 (.nonNumeric ['m'] ['U'])) := by decide +kernel
  refine ⟨upper, lower, both, ends, upperRead, lowerRead, bothRead, ?_⟩
  rw [joined, upperCompiled, lowerFailed]
  rfl

end Template

end InputDeck
