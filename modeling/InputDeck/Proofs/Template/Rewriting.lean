import InputDeck.Proofs.Template.Markers
import InputDeck.Proofs.Template.Splicing

/-!
# Rewriting by offsets

The text of a deck and the spans of its markers are enough to compile it. The new texts of all
gathered markers are sorted by where their markers begin and spliced into the text. Slices and
looked-up values might not exist, so this is partial, and it is proved to be compiling.
-/

namespace InputDeck

/-- The new text of every marker with the span it is for, or the first error. -/
def Marker.edits? (t : Text) (slots : List SlotOccurrence) (resolved : List (Text × Value))
    (bindings : Bindings) : List Marker → Option (Except TemplateError (List (Span × Text)))
  | [] => some (.ok [])
  | m :: rest =>
    match m.newText? t slots resolved bindings with
    | none => none
    | some (.error error) => some (.error error)
    | some (.ok new) =>
      (edits? t slots resolved bindings rest).map (Except.map ((m.span, new) :: ·))

/-- The deck compiled by offsets, unless a slice or a looked-up value does not exist. -/
def Template.rewrite? (template : Template) (useDefaults : Bool) (bindings : Bindings) :
    Option (Except TemplateError Text) :=
  match template.resolve useDefaults bindings with
  | .error error => some (.error error)
  | .ok resolved =>
    match Marker.edits? template.text template.slots resolved bindings template.gathered with
    | none => none
    | some (.error error) => some (.error error)
    | some (.ok edits) =>
      (template.text.splice? (Text.byteLength template.text) 0
        (edits.mergeSort fun first second => first.1.start ≤ second.1.start)).map .ok

/-- Markers with new texts become edits, unless there is an error; the first is returned. -/
theorem Marker.edits?_eq (t : Text) (slots : List SlotOccurrence)
    (resolved : List (Text × Value)) (bindings : Bindings) {ms : List Marker}
    (made : ∀ m ∈ ms, (m.newText? t slots resolved bindings).isSome) :
    edits? t slots resolved bindings ms =
      some (outcomeOf (ms.findSome? fun m => failure? (m.newText? t slots resolved bindings))
        (ms.map fun m =>
          (m.span, (result? (m.newText? t slots resolved bindings)).getD []))) := by
  induction ms with
  | nil => rfl
  | cons m rest inductionHypothesis =>
    obtain ⟨outcome, first⟩ := Option.isSome_iff_exists.1 (made m List.mem_cons_self)
    have later := inductionHypothesis fun m member => made m (List.mem_cons_of_mem _ member)
    rw [edits?, first, later, List.findSome?_cons, List.map_cons, first]
    cases outcome with
    | error error => rfl
    | ok new => cases rest.findSome? _ <;> rfl

section Rows

variable (style : MarkerStyle) (resolved : List (Text × Value)) (bindings : Bindings)

/-- The pieces of a line with the texts that take their place. -/
def pieceRow (number : Nat) (pieces : List Piece) : List (Text × Option Text) :=
  pieces.map fun piece =>
    (piece.source style, result? (piece.compiled? style number resolved bindings))

/-- The lines of a deck as a row of texts, each with the text that takes its place if there is
one. -/
def lineRow : Nat → List Line → List (Text × Option Text)
  | _, [] => []
  | number, line :: rest =>
    pieceRow style resolved bindings number line.pieces
      ++ (line.ending, none) :: lineRow (number + 1) rest

/-- The edit of a located piece, if a text takes its place. -/
def editAt (found : Position × Piece) : Option (Span × Text) :=
  (result? (found.2.compiled? style found.1.line resolved bindings)).map
    (found.1.span (found.2.source style), ·)

/-- The row of a line holds the text of its pieces. -/
theorem flatMap_fst_pieceRow (number : Nat) (pieces : List Piece) :
    (pieceRow style resolved bindings number pieces).flatMap Prod.fst =
      pieces.flatMap (Piece.source style) := by
  rw [pieceRow, List.flatMap_map]

/-- The row of lines holds their text. -/
theorem flatMap_fst_lineRow (number : Nat) (lines : List Line) :
    (lineRow style resolved bindings number lines).flatMap Prod.fst =
      lines.flatMap (Line.source style) := by
  induction lines generalizing number with
  | nil => rfl
  | cons line rest inductionHypothesis =>
    rw [lineRow, List.flatMap_append, List.flatMap_cons, flatMap_fst_pieceRow,
      inductionHypothesis, List.flatMap_cons, Line.source, List.append_assoc]

/-- With the new texts the row of lines is their new text. -/
theorem flatMap_new_lineRow (number : Nat) (lines : List Line) :
    ((lineRow style resolved bindings number lines).flatMap fun part => part.2.getD part.1) =
      Template.newLines style resolved bindings number lines := by
  induction lines generalizing number with
  | nil => rfl
  | cons line rest inductionHypothesis =>
    rw [lineRow, List.flatMap_append, List.flatMap_cons, inductionHypothesis, pieceRow,
      List.flatMap_map, Template.newLines, Template.newPieces, List.append_assoc]
    rfl

/-- The edits of a line are those of its located pieces. -/
theorem rowEdits_pieceRow (place : Position) (pieces : List Piece) :
    rowEdits place.offset (pieceRow style resolved bindings place.line pieces) =
      (place.locate (Piece.source style) pieces).filterMap
        (editAt style resolved bindings) := by
  induction pieces generalizing place with
  | nil => rfl
  | cons piece rest inductionHypothesis =>
    have later := inductionHypothesis (place.advance (piece.source style))
    simp only [Position.locate, pieceRow, List.map_cons, List.filterMap_cons, editAt]
    cases result? (piece.compiled? style place.line resolved bindings) with
    | none => exact later
    | some new => exact congrArg (_ :: ·) later

/-- The edits of lines are those of their located pieces. -/
theorem rowEdits_lineRow (offset number : Nat) (lines : List Line) :
    rowEdits offset (lineRow style resolved bindings number lines) =
      (Line.located style offset number lines).filterMap (editAt style resolved bindings) := by
  induction lines generalizing offset number with
  | nil => rfl
  | cons line rest inductionHypothesis =>
    have first := rowEdits_pieceRow style resolved bindings ⟨offset, number, 1⟩ line.pieces
    rw [lineRow, rowEdits_append, first, rowEdits, flatMap_fst_pieceRow, inductionHypothesis,
      Line.located, List.filterMap_append, Line.source, Text.byteLength_append, Nat.add_assoc]

end Rows

namespace Template

variable {style : MarkerStyle} {t : Text} {template : Template} {useDefaults : Bool}
  {bindings : Bindings} {resolved : List (Text × Value)}

/-- The first gathered marker that has no new text is the first formula of no value: slots are
gathered behind the formulas, and none of them fails. -/
theorem Reads.findSome?_gathered (reads : template.Reads style t)
    (done : template.resolve useDefaults bindings = .ok resolved) :
    (template.gathered.findSome? fun m =>
        failure? (m.newText? template.text template.slots resolved bindings)) =
      template.located.findSome? fun found =>
        failure? (found.2.compiled? template.style found.1.line resolved bindings) := by
  have noSlot : (template.located.filterMap (slotMarker? template.style)).filterMap (fun m =>
      failure? (m.newText? template.text template.slots resolved bindings)) = [] := by
    rw [List.filterMap_filterMap, List.filterMap_eq_nil_iff]
    rintro ⟨place, piece⟩ member
    cases piece with
    | char c => rfl
    | formula parts => rfl
    | slot s => exact congrArg failure? (reads.newText?_eq done member rfl)
  rw [← List.head?_filterMap, ← List.head?_filterMap, gathered_eq, List.filterMap_append, noSlot,
    List.append_nil, List.filterMap_filterMap]
  refine congrArg List.head? (List.filterMap_congr ?_)
  rintro ⟨place, piece⟩ member
  cases piece with
  | char c => rfl
  | slot s => rfl
  | formula parts => exact congrArg failure? (reads.newText?_eq done member rfl)

/-- The text that takes the place of a marker, where there is one. -/
def newText (template : Template) (resolved : List (Text × Value)) (bindings : Bindings)
    (m : Marker) : Text :=
  (result? (m.newText? template.text template.slots resolved bindings)).getD []

/-- Every marker of a template has a new text or an error. -/
theorem Reads.isSome_newText? (reads : template.Reads style t)
    (done : template.resolve useDefaults bindings = .ok resolved) {found : Position × Piece}
    (member : found ∈ template.located) {m : Marker}
    (isMarker : marker? template.style found = some m) :
    (m.newText? template.text template.slots resolved bindings).isSome := by
  rw [reads.newText?_eq done member isMarker]
  obtain ⟨place, piece⟩ := found
  cases piece with
  | char c => cases isMarker
  | slot s => rfl
  | formula parts =>
    simp only [Piece.compiled?]
    cases Piece.evaluate resolved bindings parts <;> rfl

/-- Where no formula fails, every marker has a new text. -/
theorem Reads.newText?_eq_newText (reads : template.Reads style t)
    (done : template.resolve useDefaults bindings = .ok resolved)
    (passed : (template.located.findSome? fun found =>
      failure? (found.2.compiled? template.style found.1.line resolved bindings)) = none)
    {m : Marker} (member : m ∈ template.topMarkers) :
    m.newText? template.text template.slots resolved bindings =
      some (.ok (template.newText resolved bindings m)) := by
  rw [topMarkers_eq] at member
  obtain ⟨found, located, isMarker⟩ := List.mem_filterMap.1 member
  have noFailure := List.findSome?_eq_none_iff.1 passed found located
  rw [← reads.newText?_eq done located isMarker] at noFailure
  obtain ⟨outcome, made⟩ :=
    Option.isSome_iff_exists.1 (reads.isSome_newText? done located isMarker)
  rw [newText, made]
  rw [made] at noFailure
  cases outcome with
  | error error => cases noFailure
  | ok new => rfl

/-- Where no formula fails, the edits of the row of lines are the top markers with their new
texts. -/
theorem Reads.map_topMarkers (reads : template.Reads style t)
    (done : template.resolve useDefaults bindings = .ok resolved)
    (passed : (template.located.findSome? fun found =>
      failure? (found.2.compiled? template.style found.1.line resolved bindings)) = none) :
    template.topMarkers.map (fun m => (m.span, template.newText resolved bindings m)) =
      rowEdits 0 (lineRow template.style resolved bindings 1 template.lines) := by
  rw [rowEdits_lineRow, topMarkers_eq, List.map_filterMap]
  apply List.filterMap_congr
  intro found member
  cases isMarker : marker? template.style found with
  | none =>
    obtain ⟨place, piece⟩ := found
    cases piece <;> cases isMarker
    rfl
  | some m =>
    have top : m ∈ template.topMarkers := by
      rw [topMarkers_eq]
      exact List.mem_filterMap.2 ⟨found, member, isMarker⟩
    have made := reads.newText?_eq_newText done passed top
    rw [reads.newText?_eq done member isMarker] at made
    rw [editAt, made, Option.map_some, span_of_marker? _ isMarker]
    rfl

/-- The new text of the lines is the text of the template with the top markers exchanged. -/
theorem Reads.rewritten_topMarkers (reads : template.Reads style t)
    (done : template.resolve useDefaults bindings = .ok resolved)
    (passed : (template.located.findSome? fun found =>
      failure? (found.2.compiled? template.style found.1.line resolved bindings)) = none) :
    Text.Rewritten 0
      (template.topMarkers.map fun m => (m.span, template.newText resolved bindings m))
      template.text (newLines template.style resolved bindings 1 template.lines) := by
  have rewritten := rewritten_rowEdits
    (lineRow template.style resolved bindings 1 template.lines) 0 []
  rw [flatMap_fst_lineRow, flatMap_new_lineRow] at rewritten
  rw [reads.map_topMarkers done passed]
  exact rewritten

/-- Sorting edits by where they begin is sorting the markers they are for. -/
theorem mergeSort_edits (template : Template) (resolved : List (Text × Value))
    (bindings : Bindings) :
    ((template.gathered.map fun m => (m.span, template.newText resolved bindings m)).mergeSort
        fun first second => first.1.start ≤ second.1.start) =
      template.topMarkers.map fun m => (m.span, template.newText resolved bindings m) :=
  (List.map_mergeSort (f := fun m : Marker => (m.span, template.newText resolved bindings m))
    fun _ _ _ _ => rfl).symm

/-- Compiling by offsets needs no slice and no value that does not exist, and is compiling. -/
theorem Reads.rewrite?_eq (reads : template.Reads style t) (useDefaults : Bool)
    (bindings : Bindings) :
    template.rewrite? useDefaults bindings = some (template.compile useDefaults bindings) := by
  cases done : template.resolve useDefaults bindings with
  | error error => simp only [rewrite?, compile, done]
  | ok resolved =>
    have made : ∀ m ∈ template.gathered,
        (m.newText? template.text template.slots resolved bindings).isSome := by
      intro m member
      obtain ⟨found, located, isMarker⟩ :=
        List.mem_filterMap.1 (template.gathered_perm.mem_iff.1 member)
      exact reads.isSome_newText? done located isMarker
    have edits := Marker.edits?_eq _ _ _ _ made
    rw [reads.findSome?_gathered done] at edits
    simp only [rewrite?, compile_eq done, done, edits]
    cases passed : template.located.findSome? fun found =>
        failure? (found.2.compiled? template.style found.1.line resolved bindings) with
    | some error => rfl
    | none =>
      have spliced := Text.splice?_of_rewritten (reads.rewritten_topMarkers done passed) [] [] rfl
      rw [List.nil_append, List.append_nil, Nat.zero_add, ← mergeSort_edits] at spliced
      exact congrArg (Option.map Except.ok) spliced

/-- Where no formula fails, the edits of the row of lines are the top markers with what they
become. -/
theorem Reads.exists_edits (reads : template.Reads style t)
    (done : template.resolve useDefaults bindings = .ok resolved)
    (passed : (template.located.findSome? fun found =>
      failure? (found.2.compiled? template.style found.1.line resolved bindings)) = none) :
    ∃ edits : List (Marker × Text),
      edits.map Prod.fst = template.topMarkers ∧
      (∀ edit ∈ edits, Marker.Becomes t template.slots resolved bindings edit.1 edit.2) ∧
      edits.map (fun edit => (edit.1.span, edit.2)) =
        rowEdits 0 (lineRow template.style resolved bindings 1 template.lines) := by
  refine ⟨template.topMarkers.map fun m => (m, template.newText resolved bindings m), ?_, ?_, ?_⟩
  · rw [List.map_map]
    exact List.map_id _
  · intro edit member
    obtain ⟨m, top, rfl⟩ := List.mem_map.1 member
    rw [← reads.text_eq]
    exact becomes_of_newText? (reads.newText?_eq_newText done passed top)
  · rw [List.map_map]
    exact reads.map_topMarkers done passed

/-- A compiled deck is the text with the top markers exchanged for what they become. -/
theorem Reads.rewritten_of_compile (reads : template.Reads style t) {out : Text}
    (compiled : template.compile useDefaults bindings = .ok out) :
    ∃ (resolved : List (Text × Value)) (edits : List (Marker × Text)),
      template.resolve useDefaults bindings = .ok resolved ∧
      edits.map Prod.fst = template.topMarkers ∧
      (∀ edit ∈ edits, Marker.Becomes t template.slots resolved bindings edit.1 edit.2) ∧
      Text.Rewritten 0 (edits.map fun edit => (edit.1.span, edit.2)) t out := by
  cases done : template.resolve useDefaults bindings with
  | error error =>
    rw [compile, done] at compiled
    cases compiled
  | ok resolved =>
    rw [compile_eq done] at compiled
    cases passed : template.located.findSome? fun found =>
        failure? (found.2.compiled? template.style found.1.line resolved bindings) with
    | some error =>
      rw [passed] at compiled
      cases compiled
    | none =>
      rw [passed] at compiled
      cases compiled
      obtain ⟨edits, markers, become, row⟩ := reads.exists_edits done passed
      refine ⟨resolved, edits, rfl, markers, become, ?_⟩
      rw [row, ← reads.map_topMarkers done passed, ← reads.text_eq]
      exact reads.rewritten_topMarkers done passed

/-- Compiling a deck exchanges the markers that stand in no other marker for the text of their
values and copies everything between them. Checking and compiling can both be done by offsets:
whatever the text and the bindings, every slice and every looked-up value exists. -/
theorem compile_rewrites_topMarkers (style : MarkerStyle) (t : Text) :
    (∀ lines, scan style t = .ok lines →
      checkFormulas? t (Line.slots style lines) (Line.formulas style lines) =
        some (checkLines style 1 lines)) ∧
    ∀ template, ofText? style t = .ok template →
      (template.style = style ∧ scan style t = .ok template.lines) ∧
      ∀ useDefaults bindings,
        template.rewrite? useDefaults bindings =
          some (template.compile useDefaults bindings) ∧
        ∀ out, template.compile useDefaults bindings = .ok out →
          ∃ (resolved : List (Text × Value)) (edits : List (Marker × Text)),
            template.resolve useDefaults bindings = .ok resolved ∧
            edits.map Prod.fst = template.topMarkers ∧
            (∀ edit ∈ edits,
              Marker.Becomes t template.slots resolved bindings edit.1 edit.2) ∧
            Text.Rewritten 0 (edits.map fun edit => (edit.1.span, edit.2)) t out := by
  constructor
  · intro lines scanned
    have checked := checkFormulas?_eq style lines
    rwa [source_of_scan scanned] at checked
  · intro template read
    have reads := reads_of_ofText? read
    refine ⟨⟨reads.style_eq, reads.scanned⟩, fun useDefaults bindings => ⟨?_, ?_⟩⟩
    · exact reads.rewrite?_eq useDefaults bindings
    · intro out compiled
      exact reads.rewritten_of_compile compiled

/-- A slot inside a formula is no marker of its own, and a comment line is copied. -/
theorem rewritten_nested_deck :
    ∃ (template : Template) (edits : List (Marker × Text)),
      ofText? .standard "@\x7b2*$\x7br\x7d\x7d $\x7bs~8\x7d\n# $\x7bc\x7d".toList = .ok template ∧
      template.compile true .none = .ok "0 8\n# $\x7bc\x7d".toList ∧
      edits.map (fun edit => edit.1.span) = [⟨0, 9⟩, ⟨10, 16⟩] ∧
      Text.Rewritten 0 (edits.map fun edit => (edit.1.span, edit.2))
        "@\x7b2*$\x7br\x7d\x7d $\x7bs~8\x7d\n# $\x7bc\x7d".toList "0 8\n# $\x7bc\x7d".toList := by
  have deck : ∃ template : Template,
      ofText? .standard "@\x7b2*$\x7br\x7d\x7d $\x7bs~8\x7d\n# $\x7bc\x7d".toList = .ok template ∧
      template.compile true .none = .ok "0 8\n# $\x7bc\x7d".toList ∧
      template.topMarkers.map Marker.span = [⟨0, 9⟩, ⟨10, 16⟩] :=
    ⟨⟨.standard,
      [⟨[.formula [.char '2', .char '*', .slot ⟨['r'], ['r'], .unconstrained⟩], .char ' ',
        .slot ⟨['s', '~', '8'], ['s'], .fixed ['8']⟩], ['\n']⟩,
      ⟨"# $\x7bc\x7d".toList.map .char, []⟩],
      [⟨['r'], .unconstrained, 1⟩, ⟨['s'], .fixed ['8'], 1⟩], []⟩, by decide +kernel, by decide +kernel,
      by rw [topMarkers_eq]; decide +kernel⟩
  obtain ⟨template, read, compiled, spans⟩ := deck
  obtain ⟨-, rewrites⟩ := (compile_rewrites_topMarkers _ _).2 template read
  obtain ⟨resolved, edits, -, markers, -, rewritten⟩ := (rewrites true .none).2 _ compiled
  refine ⟨template, edits, read, compiled, ?_, rewritten⟩
  rw [← spans, ← markers, List.map_map]
  rfl

end Template

end InputDeck
