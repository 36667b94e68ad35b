import InputDeck.Proofs.Template.Concatenation
import InputDeck.Proofs.Template.Markers

/-!
# Decks that compile to themselves

Two characters begin a marker, so a text without markers can get one only at a seam: where the last
character of what stands before meets the first of what is put in, or the last of what is put in
the first of what follows. A new text that is not empty and holds neither prefix nor the opening
delimiter keeps both seams closed, and no line begins with what a line end was cut from. Comment
lines are copied whole and begin where a line ended, so they are comment lines again. A compiled
deck therefore has no markers, and compiling it changes nothing.
-/

namespace InputDeck

namespace MarkerStyle

/-- No marker begins in the text. -/
def Unmarked (style : MarkerStyle) (t : Text) : Prop :=
  ∀ before c after, t = before ++ c :: after → style.opening? c after = none

/-- A text that can take the place of a marker without becoming part of another. -/
structure Inert (style : MarkerStyle) (t : Text) : Prop where
  nonempty : t ≠ []
  plain : ∀ c ∈ t, c ≠ style.variableMark ∧ c ≠ style.formulaMark ∧ c ≠ style.openDelimiter

/-- No character that markers begin with ends a line. -/
structure OnOneLine (style : MarkerStyle) : Prop where
  variableMark : Text.isLineEnd style.variableMark = false
  formulaMark : Text.isLineEnd style.formulaMark = false
  openDelimiter : Text.isLineEnd style.openDelimiter = false

/-- On one line no prefix is a newline. -/
theorem OnOneLine.ne_newline {style : MarkerStyle} (oneLine : style.OnOneLine) {mark : Char}
    (isMark : mark = style.variableMark ∨ mark = style.formulaMark) : mark ≠ '\n' := by
  rintro rfl
  rcases isMark with same | same
  · have kept := oneLine.variableMark
    rw [← same] at kept
    cases kept
  · have kept := oneLine.formulaMark
    rw [← same] at kept
    cases kept

/-- Every line of the text is a comment line or has no markers. -/
def Settled (style : MarkerStyle) (t : Text) : Prop :=
  ∀ raw ∈ Text.rawLines t, style.isComment (Text.dropLineEnds raw) = true ∨ style.Unmarked raw

variable {style : MarkerStyle}

/-- Whether a marker begins at a character depends on the next character alone. -/
theorem opening?_eq_none_of_head? {c : Char} {rest rest' : Text}
    (none : style.opening? c rest = none)
    (head : rest'.head? = some style.openDelimiter → rest.head? = some style.openDelimiter) :
    style.opening? c rest' = .none := by
  rw [opening?_eq_none_iff] at none ⊢
  rintro inner rfl
  obtain ⟨tail, rfl⟩ := List.head?_eq_some_iff.1 (head rfl)
  exact none tail rfl

/-- No marker begins at the first character, and none behind it. -/
theorem unmarked_cons_iff (c : Char) (rest : Text) :
    style.Unmarked (c :: rest) ↔ style.opening? c rest = none ∧ style.Unmarked rest := by
  constructor
  · intro unmarked
    refine ⟨unmarked [] c rest rfl, ?_⟩
    rintro before d after rfl
    exact unmarked (c :: before) d after rfl
  · rintro ⟨plain, later⟩ before d after same
    rcases List.cons_eq_append_iff.1 same with ⟨rfl, here⟩ | ⟨before, rfl, behind⟩
    · cases here
      exact plain
    · exact later before d after behind

/-- A text without the opening delimiter has no markers. -/
theorem unmarked_of_not_mem {t : Text} (absent : style.openDelimiter ∉ t) :
    style.Unmarked t := by
  rintro before c after rfl
  rw [opening?_eq_none_iff]
  rintro inner rfl
  simp at absent

/-- A part of a text without markers has none. -/
theorem Unmarked.part {t part : Text} (unmarked : style.Unmarked t) (before after : Text)
    (split : t = before ++ (part ++ after)) : style.Unmarked part := by
  rintro earlier c later rfl
  refine opening?_eq_none_of_head? (unmarked (before ++ earlier) c (later ++ after) ?_) ?_
  · simp [split]
  · intro head
    simp [head]

/-- Texts without markers have none together if none begins where they meet. -/
theorem Unmarked.append {first second : Text} (unmarked : style.Unmarked first)
    (follows : style.Unmarked second)
    (seam : ∀ c, first.getLast? = some c → style.opening? c second = none) :
    style.Unmarked (first ++ second) := by
  induction first with
  | nil => exact follows
  | cons c rest inductionHypothesis =>
    obtain ⟨plain, later⟩ := (unmarked_cons_iff c rest).1 unmarked
    rw [List.cons_append, unmarked_cons_iff]
    cases rest with
    | nil => exact ⟨seam c rfl, follows⟩
    | cons next more =>
      refine ⟨opening?_eq_none_of_head? plain id, inductionHypothesis later ?_⟩
      intro last found
      apply seam
      rw [List.getLast?_cons, found]
      rfl

/-- A text that can take the place of a marker has none. -/
theorem Inert.unmarked {t : Text} (inert : style.Inert t) : style.Unmarked t :=
  unmarked_of_not_mem fun member => (inert.plain _ member).2.2 rfl

/-- No marker begins at the end of a text that can take the place of one. -/
theorem Inert.opening?_eq_none {t : Text} (inert : style.Inert t) {c : Char}
    (last : t.getLast? = some c) (following : Text) : style.opening? c following = none := by
  have plain := inert.plain c (List.mem_of_getLast? last)
  rw [opening?_eq_none_iff]
  exact fun _ _ => ⟨plain.1, plain.2.1⟩

/-- A text that can take the place of a marker begins with no opening delimiter. -/
theorem Inert.head?_append_ne {t : Text} (inert : style.Inert t) (following : Text) :
    (t ++ following).head? ≠ some style.openDelimiter := by
  cases t with
  | nil => exact absurd rfl inert.nonempty
  | cons c rest =>
    intro head
    exact (inert.plain c List.mem_cons_self).2.2 (Option.some.inj head)

/-- Settled texts are settled together if the first ends its line. -/
theorem Settled.append {first second : Text} (ends : first.EndsLine)
    (settled : style.Settled first) (follows : style.Settled second) :
    style.Settled (first ++ second) := by
  intro raw member
  rw [Text.rawLines_append ends, List.mem_append] at member
  exact member.elim (settled raw) (follows raw)

/-- A text without markers is settled. -/
theorem Unmarked.settled {t : Text} (unmarked : style.Unmarked t) : style.Settled t := by
  intro raw member
  obtain ⟨before, after, split⟩ := List.append_of_mem member
  refine .inr (unmarked.part before.flatten after.flatten ?_)
  rw [← Text.flatten_rawLines t, split]
  simp

end MarkerStyle

namespace Piece

variable {style : MarkerStyle} {resolved : List (Text × Value)} {bindings : Bindings}

/-- The new text of a piece does not depend on its line. -/
theorem compiled?_eq_some_ok {number : Nat} {piece : Piece} {new : Text}
    (made : piece.compiled? style number resolved bindings = some (.ok new)) (other : Nat) :
    piece.compiled? style other resolved bindings = some (.ok new) := by
  cases piece with
  | char c => cases made
  | slot s => exact made
  | formula parts =>
    simp only [compiled?] at made ⊢
    cases evaluated : evaluate resolved bindings parts with
    | error cause =>
      rw [evaluated] at made
      cases made
    | ok v =>
      rw [evaluated] at made
      exact made

/-- Characters of a text without markers are scanned. -/
theorem scanned_of_unmarked {t : Text} (unmarked : style.Unmarked t) :
    Scanned style (t.map .char) := by
  induction t with
  | nil => exact .nil
  | cons c rest inductionHypothesis =>
    obtain ⟨plain, later⟩ := (MarkerStyle.unmarked_cons_iff c rest).1 unmarked
    refine .char ?_ (inductionHypothesis later)
    rw [Line.flatMap_source_char]
    exact plain

end Piece

namespace Template

variable {style : MarkerStyle} {resolved : List (Text × Value)} {bindings : Bindings}

/-- A row of pieces compiles exactly where its first piece and the others do. -/
theorem compilePieces_cons_eq_ok_iff (number : Nat) (piece : Piece) (rest : List Piece)
    (out : Text) :
    compilePieces style number resolved bindings (piece :: rest) = .ok out ↔
      ∃ new later,
        (piece.compiled? style number resolved bindings).getD (.ok (piece.source style)) =
          .ok new ∧
        compilePieces style number resolved bindings rest = .ok later ∧ out = new ++ later := by
  rw [compilePieces_cons]
  cases (piece.compiled? style number resolved bindings).getD (.ok (piece.source style)) with
  | error error => simp
  | ok new =>
    simp only [map_eq_ok_iff, Except.ok.injEq]
    constructor
    · rintro ⟨later, compiled, rfl⟩
      exact ⟨new, later, rfl, compiled, rfl⟩
    · rintro ⟨_, later, rfl, compiled, rfl⟩
      exact ⟨later, compiled, rfl⟩

/-- Lines compile exactly where the first line and the others do. -/
theorem compileLines_cons_eq_ok_iff (number : Nat) (line : Line) (rest : List Line) (out : Text) :
    compileLines style resolved bindings number (line :: rest) = .ok out ↔
      ∃ new later, compilePieces style number resolved bindings line.pieces = .ok new ∧
        compileLines style resolved bindings (number + 1) rest = .ok later ∧
        out = new ++ line.ending ++ later := by
  rw [compileLines]
  cases compilePieces style number resolved bindings line.pieces with
  | error error => simp
  | ok new =>
    simp only [map_eq_ok_iff, Except.ok.injEq]
    constructor
    · rintro ⟨later, compiled, rfl⟩
      exact ⟨new, later, rfl, compiled, rfl⟩
    · rintro ⟨_, later, rfl, compiled, rfl⟩
      exact ⟨later, compiled, rfl⟩

/-- Characters compile to themselves. -/
theorem compilePieces_char (style : MarkerStyle) (resolved : List (Text × Value))
    (bindings : Bindings) (number : Nat) (t : Text) :
    compilePieces style number resolved bindings (t.map .char) = .ok t := by
  induction t with
  | nil => rfl
  | cons c rest inductionHypothesis =>
    rw [List.map_cons, compilePieces, inductionHypothesis]
    rfl

/-- A scanned row whose markers become inert texts compiles to a text without markers. Where this
text begins with the opening delimiter, the row does: so a prefix in front of it, being a character
of the deck, begins no marker with it. -/
theorem unmarked_of_compilePieces {number : Nat} {pieces : List Piece} {out : Text}
    (scanned : Piece.Scanned style pieces)
    (inert : ∀ piece ∈ pieces, ∀ new,
      piece.compiled? style number resolved bindings = some (.ok new) → style.Inert new)
    (compiled : compilePieces style number resolved bindings pieces = .ok out) :
    style.Unmarked out ∧ (out.head? = some style.openDelimiter →
      (pieces.flatMap (Piece.source style)).head? = some style.openDelimiter) := by
  have behind : ∀ {new later : Text}, style.Inert new → style.Unmarked later →
      style.Unmarked (new ++ later) ∧ ∀ {source : Text},
        (new ++ later).head? = some style.openDelimiter →
          source.head? = some style.openDelimiter := by
    intro new later newInert laterUnmarked
    refine ⟨newInert.unmarked.append laterUnmarked fun c last =>
      newInert.opening?_eq_none last later, ?_⟩
    intro source head
    exact absurd head (newInert.head?_append_ne later)
  induction scanned generalizing out with
  | nil =>
    cases compiled
    exact ⟨MarkerStyle.unmarked_of_not_mem (List.not_mem_nil), id⟩
  | char plain _ inductionHypothesis =>
    obtain ⟨new, later, same, laterCompiled, rfl⟩ :=
      (compilePieces_cons_eq_ok_iff _ _ _ _).1 compiled
    cases same
    obtain ⟨laterUnmarked, laterHead⟩ :=
      inductionHypothesis (fun piece member => inert piece (List.mem_cons_of_mem _ member))
        laterCompiled
    refine ⟨(MarkerStyle.unmarked_cons_iff _ _).2 ⟨?_, laterUnmarked⟩, id⟩
    exact MarkerStyle.opening?_eq_none_of_head? plain laterHead
  | @slot s pieces _ _ _ inductionHypothesis =>
    obtain ⟨new, later, made, laterCompiled, rfl⟩ :=
      (compilePieces_cons_eq_ok_iff _ _ _ _).1 compiled
    cases made
    have laterUnmarked := inductionHypothesis
      (fun piece member => inert piece (List.mem_cons_of_mem _ member)) laterCompiled
    obtain ⟨unmarked, head⟩ :=
      behind (inert (.slot s) List.mem_cons_self _ rfl) laterUnmarked.1
    exact ⟨unmarked, head⟩
  | @formula parts pieces _ _ _ _ inductionHypothesis =>
    obtain ⟨new, later, made, laterCompiled, rfl⟩ :=
      (compilePieces_cons_eq_ok_iff _ _ _ _).1 compiled
    have newInert : style.Inert new := by
      apply inert (.formula parts) List.mem_cons_self
      simp only [Piece.compiled?] at made ⊢
      cases evaluated : Piece.evaluate resolved bindings parts with
      | error cause =>
        rw [evaluated] at made
        cases made
      | ok v =>
        rw [evaluated] at made
        cases made
        rfl
    have laterUnmarked := inductionHypothesis
      (fun piece member => inert piece (List.mem_cons_of_mem _ member)) laterCompiled
    obtain ⟨unmarked, head⟩ := behind newInert laterUnmarked.1
    exact ⟨unmarked, head⟩

end Template

namespace Line

variable {style : MarkerStyle}

/-- What closes a scanned line is made of line ends. -/
theorem Scanned.isLineEnd_of_mem_ending {line : Line} (scanned : line.Scanned style) {c : Char}
    (member : c ∈ line.ending) : Text.isLineEnd c = true := by
  have ending : line.ending = (line.source style).drop (line.content style).length := by
    simp [source, content]
  rw [ending, scanned.cut] at member
  exact Text.inClass_of_mem_drop_dropEndWhile member

/-- A line that ends with a newline has it outside of its content, so that any text in the place of
the content ends its line as well. -/
theorem Scanned.endsLine {t : Text} {line : Line} (scanned : line.Scanned style)
    (raw : line.source style ∈ Text.rawLines t)
    (ends : (line.source style).getLast? = some '\n') (new : Text) :
    (new ++ line.ending).EndsLine := by
  have last : line.ending.getLast? = some '\n' := by
    cases empty : line.ending with
    | nil =>
      have unended : line.source style = line.content style := by
        rw [source, empty, List.append_nil]
        rfl
      have inside := List.mem_of_getLast? ends
      rw [unended, scanned.cut] at inside
      exact absurd inside (Text.newline_not_mem_dropLineEnds raw)
    | cons c rest =>
      rw [source, empty, List.getLast?_append_of_ne_nil _ (List.cons_ne_nil c rest)] at ends
      exact ends
  intro c found
  rw [List.getLast?_append, last] at found
  exact (Option.some.inj found).symm

/-- The line of a raw line that is taken as characters alone. -/
def plain (raw : Text) : Line :=
  ⟨(Text.dropLineEnds raw).map .char, raw.drop (Text.dropLineEnds raw).length⟩

/-- The content of a line of characters. -/
theorem content_plain (style : MarkerStyle) (raw : Text) :
    (plain raw).content style = Text.dropLineEnds raw :=
  flatMap_source_char style _

/-- A line of characters is the raw line. -/
theorem source_plain (style : MarkerStyle) (raw : Text) : (plain raw).source style = raw := by
  rw [source, plain, flatMap_source_char, Text.dropLineEnds_append_drop]

/-- A comment line, and a line without markers, is scanned as characters. -/
theorem scanned_plain {raw : Text}
    (settled : style.isComment (Text.dropLineEnds raw) = true ∨ style.Unmarked raw) :
    (plain raw).Scanned style := by
  refine ⟨?_, ?_, ?_⟩
  · rw [content_plain, source_plain]
  · intro _
    rw [content_plain]
    rfl
  · intro marked
    rw [content_plain] at marked
    rcases settled with comment | unmarked
    · rw [comment] at marked
      cases marked
    · exact Piece.scanned_of_unmarked
        (unmarked.part [] _ (Text.dropLineEnds_append_drop raw).symm)

/-- Lines of characters hold nothing but characters. -/
theorem eq_char_of_mem_located_plain {offset number : Nat} {raws : List Text}
    {found : Position × Piece}
    (member : found ∈ located style offset number (raws.map plain)) :
    ∃ c, found.2 = .char c := by
  have inside := List.mem_map_of_mem (f := Prod.snd) member
  rw [map_snd_located, List.mem_flatMap] at inside
  obtain ⟨line, lineMember, pieceMember⟩ := inside
  obtain ⟨raw, -, rfl⟩ := List.mem_map.1 lineMember
  obtain ⟨c, -, same⟩ := List.mem_map.1 pieceMember
  exact ⟨c, same.symm⟩

/-- Lines of characters have no markers. -/
theorem no_markers_plain (style : MarkerStyle) (raws : List Text) :
    slots style (raws.map plain) = [] ∧ formulas style (raws.map plain) = [] := by
  refine ⟨List.flatMap_eq_nil_iff.2 ?_, List.flatMap_eq_nil_iff.2 ?_⟩
  · rintro ⟨place, piece⟩ member
    obtain ⟨c, rfl⟩ := eq_char_of_mem_located_plain member
    rfl
  · rintro ⟨place, piece⟩ member
    obtain ⟨c, rfl⟩ := eq_char_of_mem_located_plain member
    rfl

end Line

namespace Template

variable {style : MarkerStyle} {resolved : List (Text × Value)} {bindings : Bindings}

/-- Lines of characters pass the check. -/
theorem checkLines_plain (style : MarkerStyle) (number : Nat) (raws : List Text) :
    checkLines style number (raws.map Line.plain) = .ok () := by
  rw [checkLines_eq style 0, List.findSome?_eq_none_iff.2]
  · rfl
  · rintro ⟨place, piece⟩ member
    obtain ⟨c, rfl⟩ := Line.eq_char_of_mem_located_plain member
    rfl

/-- Lines of characters compile to themselves. -/
theorem compileLines_plain (style : MarkerStyle) (resolved : List (Text × Value))
    (bindings : Bindings) (number : Nat) (raws : List Text) :
    compileLines style resolved bindings number (raws.map Line.plain) = .ok raws.flatten := by
  induction raws generalizing number with
  | nil => rfl
  | cons raw rest inductionHypothesis =>
    rw [List.map_cons, compileLines, inductionHypothesis, Line.plain, compilePieces_char]
    simp only [Except.map, Text.dropLineEnds_append_drop, List.flatten_cons]

/-- A settled deck is read without markers and compiles to itself. -/
theorem compile_of_settled {t : Text} (settled : style.Settled t) :
    ∃ template, ofText? style t = .ok template ∧ template.declared = [] ∧
      template.slots = [] ∧ template.formulas = [] ∧
      ∀ useDefaults bindings, template.compile useDefaults bindings = .ok t := by
  have scanned : scan style t = .ok ((Text.rawLines t).map Line.plain) := by
    rw [scan_eq_ok_iff, List.map_map]
    constructor
    · refine (List.map_congr_left fun raw _ => ?_).trans (List.map_id _)
      exact Line.source_plain style raw
    · intro line member
      obtain ⟨raw, rawMember, rfl⟩ := List.mem_map.1 member
      exact Line.scanned_plain (settled raw rawMember)
  obtain ⟨noSlots, noFormulas⟩ := Line.no_markers_plain style (Text.rawLines t)
  refine ⟨⟨style, (Text.rawLines t).map Line.plain, [], []⟩, ?_, rfl, noSlots, noFormulas, ?_⟩
  · rw [ofText?, scanned]
    simp only [noSlots, List.map_nil]
    rw [checkLines_plain]
    rfl
  · intro useDefaults bindings
    have resolved : resolve ⟨style, (Text.rawLines t).map Line.plain, [], []⟩ useDefaults bindings =
        .ok [] := rfl
    rw [compile, resolved]
    exact (compileLines_plain style [] bindings 1 _).trans
      (congrArg _ (Text.flatten_rawLines t))

/-- A line whose markers become inert texts is copied if it is a comment line, and has no markers
left if it is none. -/
theorem comment_or_unmarked_of_compilePieces (oneLine : style.OnOneLine) {number : Nat}
    {line : Line} {new : Text} (scanned : line.Scanned style)
    (inert : ∀ piece ∈ line.pieces, ∀ new,
      piece.compiled? style number resolved bindings = some (.ok new) → style.Inert new)
    (compiled : compilePieces style number resolved bindings line.pieces = .ok new) :
    style.isComment (line.content style) = true ∧ new ++ line.ending = line.source style ∨
      style.Unmarked (new ++ line.ending) := by
  cases comment : style.isComment (line.content style) with
  | true =>
    rw [scanned.comment comment, compilePieces_char] at compiled
    cases compiled
    exact .inl ⟨rfl, rfl⟩
  | false =>
    have absent : style.openDelimiter ∉ line.ending := by
      intro member
      have lineEnd := scanned.isLineEnd_of_mem_ending member
      rw [oneLine.openDelimiter] at lineEnd
      cases lineEnd
    refine .inr ((unmarked_of_compilePieces (scanned.marked comment) inert compiled).1.append
      (MarkerStyle.unmarked_of_not_mem absent) ?_)
    intro c last
    rw [MarkerStyle.opening?_eq_none_iff]
    intro inner begins
    rw [begins] at absent
    exact absurd List.mem_cons_self absent

/-- The lines of a text as they are scanned, with inert texts for their markers. -/
structure Quiet (style : MarkerStyle) (resolved : List (Text × Value)) (bindings : Bindings)
    (t : Text) (lines : List Line) : Prop where
  scanned : ∀ line ∈ lines, line.Scanned style
  raw : ∀ line ∈ lines, line.source style ∈ Text.rawLines t
  ends : ∀ line ∈ lines.dropLast, (line.source style).getLast? = some '\n'
  inert : ∀ line ∈ lines, ∀ piece ∈ line.pieces, ∀ number new,
    piece.compiled? style number resolved bindings = some (.ok new) → style.Inert new

/-- The lines behind a first line are quiet as well. -/
theorem Quiet.tail {t : Text} {line : Line} {rest : List Line}
    (quiet : Quiet style resolved bindings t (line :: rest)) :
    Quiet style resolved bindings t rest := by
  refine ⟨fun line member => quiet.scanned line (List.mem_cons_of_mem _ member),
    fun line member => quiet.raw line (List.mem_cons_of_mem _ member), ?_,
    fun line member => quiet.inert line (List.mem_cons_of_mem _ member)⟩
  cases rest with
  | nil => simp
  | cons second more =>
    exact fun line member => quiet.ends line (List.mem_cons_of_mem _ member)

/-- A first line that others follow ends its line, whatever takes the place of its markers. -/
theorem Quiet.endsLine {t : Text} {line : Line} {rest : List Line}
    (quiet : Quiet style resolved bindings t (line :: rest)) (follow : rest ≠ []) (new : Text) :
    (new ++ line.ending).EndsLine := by
  refine (quiet.scanned line List.mem_cons_self).endsLine (quiet.raw line List.mem_cons_self) ?_ new
  apply quiet.ends
  rw [List.dropLast_cons_of_ne_nil follow]
  exact List.mem_cons_self

/-- Quiet lines compile to a settled text. -/
theorem settled_of_compileLines (oneLine : style.OnOneLine) {t : Text} {number : Nat}
    {lines : List Line} {out : Text} (quiet : Quiet style resolved bindings t lines)
    (compiled : compileLines style resolved bindings number lines = .ok out) :
    style.Settled out := by
  induction lines generalizing number out with
  | nil =>
    cases compiled
    exact (MarkerStyle.unmarked_of_not_mem List.not_mem_nil).settled
  | cons line rest inductionHypothesis =>
    obtain ⟨new, later, newCompiled, laterCompiled, rfl⟩ :=
      (compileLines_cons_eq_ok_iff _ _ _ _).1 compiled
    have first : style.Settled (new ++ line.ending) := by
      rcases comment_or_unmarked_of_compilePieces oneLine
        (quiet.scanned line List.mem_cons_self)
        (fun piece member => quiet.inert line List.mem_cons_self piece member number)
        newCompiled with ⟨comment, same⟩ | unmarked
      · intro raw member
        rw [same, Text.rawLines_of_mem (quiet.raw line List.mem_cons_self),
          List.mem_singleton] at member
        rw [member, ← (quiet.scanned line List.mem_cons_self).cut]
        exact .inl comment
      · exact unmarked.settled
    have others := inductionHypothesis quiet.tail laterCompiled
    cases rest with
    | nil =>
      cases laterCompiled
      rwa [List.append_nil]
    | cons second more =>
      exact first.append (quiet.endsLine (List.cons_ne_nil _ _) new) others

/-- What stands between the two texts in the compiled lines stands in the copy of a comment line. -/
def WithinComment (style : MarkerStyle) (resolved : List (Text × Value)) (bindings : Bindings)
    (number : Nat) (lines : List Line) (before part after : Text) : Prop :=
  ∃ earlier line later above left right below,
    lines = earlier ++ line :: later ∧ style.isComment (line.content style) = true ∧
    line.source style = left ++ part ++ right ∧
    compileLines style resolved bindings number earlier = .ok above ∧ before = above ++ left ∧
    compileLines style resolved bindings (number + earlier.length + 1) later = .ok below ∧
    after = right ++ below

/-- What stands in the copy of a comment line stands there behind any other line. -/
theorem WithinComment.cons {number : Nat} {line : Line} {rest : List Line}
    {new before part after : Text}
    (within : WithinComment style resolved bindings (number + 1) rest before part after)
    (compiled : compilePieces style number resolved bindings line.pieces = .ok new) :
    WithinComment style resolved bindings number (line :: rest) (new ++ line.ending ++ before)
      part after := by
  obtain ⟨earlier, found, later, above, left, right, below, rfl, comment, source, aboveCompiled,
    rfl, belowCompiled, rfl⟩ := within
  refine ⟨line :: earlier, found, later, new ++ line.ending ++ above, left, right, below, rfl,
    comment, source, ?_, (List.append_assoc _ _ _).symm, ?_, rfl⟩
  · exact (compileLines_cons_eq_ok_iff _ _ _ _).2 ⟨new, above, compiled, aboveCompiled, rfl⟩
  · rw [List.length_cons, ← Nat.add_assoc, Nat.add_right_comm number]
    exact belowCompiled

/-- Where a prefix stands before an opening delimiter in what quiet lines compile to, it does so in
the copy of a comment line: a line that is none has no markers left, and a line that another
follows ends with a newline, which is no prefix. -/
theorem withinComment_of_compileLines (oneLine : style.OnOneLine) {t : Text} {number : Nat}
    {lines : List Line} {out before after : Text} {mark : Char}
    (quiet : Quiet style resolved bindings t lines)
    (compiled : compileLines style resolved bindings number lines = .ok out)
    (isMark : mark = style.variableMark ∨ mark = style.formulaMark)
    (written : out = before ++ ([mark, style.openDelimiter] ++ after)) :
    WithinComment style resolved bindings number lines before [mark, style.openDelimiter]
      after := by
  induction lines generalizing number out before with
  | nil =>
    cases compiled
    simp at written
  | cons line rest inductionHypothesis =>
    obtain ⟨new, later, newCompiled, laterCompiled, rfl⟩ :=
      (compileLines_cons_eq_ok_iff _ _ _ _).1 compiled
    have behind : ∀ before', later = before' ++ ([mark, style.openDelimiter] ++ after) →
        WithinComment style resolved bindings number (line :: rest)
          (new ++ line.ending ++ before') [mark, style.openDelimiter] after :=
      fun before' laterWritten =>
        (inductionHypothesis quiet.tail laterCompiled laterWritten).cons newCompiled
    rcases List.append_eq_append_iff.1 written with ⟨middle, rfl, laterWritten⟩ |
      ⟨middle, firstWritten, split⟩
    · exact behind middle laterWritten
    · cases middle with
      | nil =>
        rw [List.append_nil] at firstWritten
        subst firstWritten
        have within := behind [] split.symm
        rwa [List.append_nil] at within
      | cons first middle =>
        obtain ⟨rfl, others⟩ := List.cons_eq_cons.1 split
        cases middle with
        | nil =>
          -- the line would have to end with the prefix
          have follow : rest ≠ [] := by
            rintro rfl
            cases laterCompiled
            cases others
          have newline := quiet.endsLine follow new mark (by rw [firstWritten]; simp)
          exact absurd newline (oneLine.ne_newline isMark)
        | cons second right =>
          obtain ⟨rfl, rfl⟩ := List.cons_eq_cons.1 others
          rcases comment_or_unmarked_of_compilePieces oneLine
            (quiet.scanned line List.mem_cons_self)
            (fun piece member => quiet.inert line List.mem_cons_self piece member number)
            newCompiled with ⟨comment, same⟩ | unmarked
          · refine ⟨[], line, rest, [], before, right, later, rfl, comment, ?_, rfl, rfl,
              laterCompiled, rfl⟩
            rw [← same, firstWritten]
            simp
          · have plain := unmarked before mark (style.openDelimiter :: right) firstWritten
            rw [MarkerStyle.opening?_eq_none_iff] at plain
            obtain ⟨notVariable, notFormula⟩ := plain right rfl
            exact (isMark.elim notVariable notFormula).elim

/-- The lines of a template are quiet where everything that takes the place of one of its markers is
inert. -/
theorem quiet_of_inert {t : Text} {template : Template} {useDefaults : Bool}
    (read : ofText? style t = .ok template)
    (done : template.resolve useDefaults bindings = .ok resolved)
    (inert : ∀ m ∈ template.topMarkers, ∀ new,
      m.Becomes t template.slots resolved bindings new → style.Inert new) :
    Quiet style resolved bindings t template.lines := by
  have reads := reads_of_ofText? read
  obtain ⟨sources, scanned⟩ := (scan_eq_ok_iff _ _ _).1 reads.scanned
  refine ⟨scanned, ?_, ?_, ?_⟩
  · intro line member
    rw [← sources]
    exact List.mem_map_of_mem member
  · intro line member
    apply Text.getLast?_of_mem_dropLast_rawLines (t := t)
    rw [← sources, ← List.map_dropLast]
    exact List.mem_map_of_mem member
  · intro line lineMember piece pieceMember number new made
    have inside : piece ∈ (Line.located template.style 0 1 template.lines).map Prod.snd := by
      rw [Line.map_snd_located]
      exact List.mem_flatMap_of_mem lineMember pieceMember
    obtain ⟨⟨place, same⟩, located, rfl⟩ := List.mem_map.1 inside
    cases isMarker : marker? template.style (place, same) with
    | none =>
      cases same with
      | char c => cases made
      | slot s => cases isMarker
      | formula parts => cases isMarker
    | some m =>
      have top : m ∈ template.topMarkers := by
        rw [topMarkers_eq]
        exact List.mem_filterMap.2 ⟨_, located, isMarker⟩
      have here := reads.newText?_eq done located isMarker
      rw [reads.style_eq, Piece.compiled?_eq_some_ok made, reads.text_eq] at here
      exact inert m top new (becomes_of_newText? here)

/-- A compiled deck is final where the characters that markers begin with end no line and every
text that takes the place of a marker is inert. A prefix stands before an opening delimiter only in
the copies of comment lines, and reading the compiled deck gives a template without variables,
slots and formulas that compiles to it whatever the bindings. -/
theorem compiled_deck_is_settled {style : MarkerStyle} {t out : Text} {template : Template}
    {useDefaults : Bool} {bindings : Bindings} (oneLine : style.OnOneLine)
    (read : ofText? style t = .ok template)
    (compiled : template.compile useDefaults bindings = .ok out)
    (inert : ∀ resolved, template.resolve useDefaults bindings = .ok resolved →
      ∀ m ∈ template.topMarkers, ∀ new,
        m.Becomes t template.slots resolved bindings new → style.Inert new) :
    ∃ resolved, template.resolve useDefaults bindings = .ok resolved ∧
      (∀ mark, mark = style.variableMark ∨ mark = style.formulaMark →
        ∀ before after, out = before ++ ([mark, style.openDelimiter] ++ after) →
          WithinComment style resolved bindings 1 template.lines before
            [mark, style.openDelimiter] after) ∧
      ∃ settled, ofText? style out = .ok settled ∧ settled.declared = [] ∧
        settled.slots = [] ∧ settled.formulas = [] ∧
        ∀ useDefaults bindings, settled.compile useDefaults bindings = .ok out := by
  cases done : template.resolve useDefaults bindings with
  | error error =>
    rw [compile, done] at compiled
    cases compiled
  | ok resolved =>
    rw [compile, done, (reads_of_ofText? read).style_eq] at compiled
    have quiet := quiet_of_inert read done (inert resolved done)
    refine ⟨resolved, rfl, ?_, compile_of_settled (settled_of_compileLines oneLine quiet compiled)⟩
    intro mark isMark before after written
    exact withinComment_of_compileLines oneLine quiet compiled isMark written

/-- A lone prefix before a slot and a name in a comment line begin no marker in a compiled deck. -/
theorem settled_behind_lone_prefix :
    ∃ template settled : Template,
      ofText? .standard "# $\x7bc\x7d\n$$\x7bs~8\x7d\x7b @\x7b2*s\x7d".toList = .ok template ∧
      template.compile true .none = .ok "# $\x7bc\x7d\n$8\x7b 16".toList ∧
      ofText? .standard "# $\x7bc\x7d\n$8\x7b 16".toList = .ok settled ∧
      settled.slots = [] ∧ settled.formulas = [] ∧
      settled.compile false .none = .ok "# $\x7bc\x7d\n$8\x7b 16".toList := by
  let deck : Template := ⟨.standard,
      [⟨"# $\x7bc\x7d".toList.map .char, ['\n']⟩,
        ⟨[.char '$', .slot ⟨['s', '~', '8'], ['s'], .fixed ['8']⟩, .char '\x7b', .char ' ',
          .formula [.char '2', .char '*', .char 's']], []⟩],
      [⟨['s'], .fixed ['8'], 2⟩], []⟩
  have read :
      ofText? .standard "# $\x7bc\x7d\n$$\x7bs~8\x7d\x7b @\x7b2*s\x7d".toList = .ok deck := by decide +kernel
  have compiled : deck.compile true .none = .ok "# $\x7bc\x7d\n$8\x7b 16".toList := by decide +kernel
  have values : deck.resolve true .none = .ok [(['s'], .int 8)] := by decide +kernel
  have inert : ∀ resolved, deck.resolve true .none = .ok resolved →
      ∀ m ∈ deck.topMarkers, ∀ new,
        m.Becomes "# $\x7bc\x7d\n$$\x7bs~8\x7d\x7b @\x7b2*s\x7d".toList deck.slots resolved .none
          new → MarkerStyle.Inert .standard new := by
    intro resolved done m member new becomes
    rw [values] at done
    cases done
    have markers : deck.topMarkers = [.slot ⟨['s'], ⟨8, 14⟩, .fixed ['8'], 2, 2⟩,
        .formula ⟨"2*s".toList, ⟨16, 22⟩, ⟨18, 21⟩, 2, 10⟩] := by
      rw [topMarkers_eq]
      rfl
    rw [markers, List.mem_cons, List.mem_singleton] at member
    have eight : MarkerStyle.Inert .standard ['8'] :=
      ⟨List.cons_ne_nil _ _, by simp [MarkerStyle.standard]⟩
    have sixteen : MarkerStyle.Inert .standard ['1', '6'] :=
      ⟨List.cons_ne_nil _ _, by simp [MarkerStyle.standard]⟩
    rcases member with rfl | rfl
    · obtain ⟨found⟩ := becomes
      cases found
      exact eight
    · obtain - | @⟨_, source, v, filled, evaluated⟩ := becomes
      have content : some (Except.ok source) = some (.ok ['2', '*', 's']) :=
        filled.symm.trans (by decide +kernel)
      cases content
      have value : Except.ok v = Except.ok (Value.int 16) := evaluated.symm.trans (by decide +kernel)
      cases value
      exact sixteen
  obtain ⟨_, _, _, settled, readAgain, _, noSlots, noFormulas, fixed⟩ :=
    compiled_deck_is_settled ⟨rfl, rfl, rfl⟩ read compiled inert
  exact ⟨deck, settled, read, compiled, readAgain, noSlots, noFormulas, fixed false .none⟩

end Template

end InputDeck
