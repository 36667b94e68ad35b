import InputDeck.Proofs.Template.BareMarks
import InputDeck.Proofs.Template.Settled
import InputDeck.Proofs.Text.Trimming

/-!
# Places inside a formula

A deck with a hole is a deck without some parts of one of its formulas. A text can stand in the hole
as characters where it begins no marker, keeps the delimiters of the formula balanced and makes no
comment of the line. The deck with this text is then scanned as the deck with these characters:
what stands around the hole is taken apart as before.
-/

namespace InputDeck

/-- A place among the parts of a formula of a deck: the lines around the line of the formula, what
stands around the formula on its line, and the parts around the place. -/
structure Hole where
  earlier : List Line
  before : List Piece
  front : List Part
  back : List Part
  after : List Piece
  ending : Text
  later : List Line

namespace Hole

variable (hole : Hole) (style : MarkerStyle)

/-- The formula with these parts in the place. -/
def parts (inner : List Part) : List Part := hole.front ++ inner ++ hole.back

/-- The line of the formula. -/
def line (inner : List Part) : Line :=
  ⟨hole.before ++ .formula (hole.parts inner) :: hole.after, hole.ending⟩

/-- The lines of the deck. -/
def lines (inner : List Part) : List Line := hole.earlier ++ hole.line inner :: hole.later

/-- The text of the line before the place. -/
def left : Text :=
  hole.before.flatMap (Piece.source style) ++
    style.formulaMark :: style.openDelimiter :: Piece.body style hole.front

/-- The text of the line behind the place, without what closes the line. -/
def right : Text :=
  Piece.body style hole.back ++
    style.closeDelimiter :: hole.after.flatMap (Piece.source style)

/-- The text of the deck before the place. -/
def above : Text := hole.earlier.flatMap (Line.source style) ++ hole.left style

/-- The text of the deck behind the place. -/
def below : Text := hole.right style ++ hole.ending ++ hole.later.flatMap (Line.source style)

variable (inner : List Part)

/-- The text of the line. -/
theorem content_line :
    (hole.line inner).content style =
      hole.left style ++ Piece.body style inner ++ hole.right style := by
  simp [Line.content, line, left, right, parts, Piece.source, Piece.body]

/-- The text of the deck. -/
theorem source_lines :
    (hole.lines inner).flatMap (Line.source style) =
      hole.above style ++ Piece.body style inner ++ hole.below style := by
  have source :
      (hole.line inner).source style = (hole.line inner).content style ++ hole.ending := rfl
  simp [lines, source, content_line, above, below]

/-- The slots of the formula are slots of the deck. -/
theorem mem_slotNames_lines {name : Text}
    (member : name ∈ (Piece.formula (hole.parts inner)).slotNames) :
    name ∈ Line.slotNames (hole.lines inner) := by
  simp only [Line.slotNames, lines, line, List.flatMap_append, List.flatMap_cons, List.mem_append]
  exact .inr (.inl (.inr (.inl member)))

end Hole

/-- A text can stand between these texts of a formula as characters: the delimiters are balanced,
and no marker begins in the text or at the character before it. -/
structure MarkerStyle.StandsBetween (style : MarkerStyle) (t before after : Text) : Prop where
  balanced : style.Balanced (before ++ t ++ after)
  seam : ∀ c, before.getLast? = some c → style.opening? c (t ++ after) = none
  plain : ∀ earlier c later, t = earlier ++ c :: later → style.opening? c (later ++ after) = none

/-- A text that can take the place of a marker stands anywhere as characters where the delimiters
are balanced. -/
theorem MarkerStyle.Inert.standsBetween {style : MarkerStyle} {t before after : Text}
    (inert : style.Inert t) (balanced : style.Balanced (before ++ t ++ after)) :
    style.StandsBetween t before after := by
  refine ⟨balanced, ?_, ?_⟩
  · intro c _
    rw [opening?_eq_none_iff]
    intro inner begins
    have head := inert.head?_append_ne after
    rw [begins] at head
    exact absurd rfl head
  · rintro earlier c later rfl
    rw [opening?_eq_none_iff]
    intro inner _
    have plain := inert.plain c (by simp)
    exact ⟨plain.1, plain.2.1⟩

namespace Part

variable {style : MarkerStyle}

/-- No part is empty. -/
theorem source_ne_nil (style : MarkerStyle) (part : Part) : part.source style ≠ [] := by
  cases part <;> exact List.cons_ne_nil _ _

/-- The text of parts one behind the other. -/
theorem body_append (style : MarkerStyle) (first second : List Part) :
    Piece.body style (first ++ second) = Piece.body style first ++ Piece.body style second :=
  List.flatMap_append

/-- Characters are their own text. -/
theorem body_char (style : MarkerStyle) (t : Text) : Piece.body style (t.map .char) = t := by
  induction t with
  | nil => rfl
  | cons c rest inductionHypothesis => exact congrArg (c :: ·) inductionHypothesis

/-- Characters that begin no marker are scanned before scanned parts. -/
theorem scanned_char_append {t : Text} {parts : List Part} (scanned : Scanned style parts)
    (plain : ∀ earlier c later, t = earlier ++ c :: later →
      style.opening? c (later ++ Piece.body style parts) = none) :
    Scanned style (t.map .char ++ parts) := by
  induction t with
  | nil => exact scanned
  | cons c rest inductionHypothesis =>
    have later := inductionHypothesis fun earlier d behind same =>
      plain (c :: earlier) d behind (congrArg (c :: ·) same)
    have here := plain [] c rest rfl
    rw [← body_char style rest, ← body_append] at here
    exact .char here later

/-- Behind scanned parts other scanned parts can follow, if no marker begins where they meet. -/
theorem scanned_exchange {first second second' : List Part}
    (scanned : Scanned style (first ++ second)) (follows : Scanned style second')
    (seam : ∀ c, (Piece.body style first).getLast? = some c →
      style.opening? c (Piece.body style second') = none) :
    Scanned style (first ++ second') := by
  induction first with
  | nil => exact follows
  | cons part rest inductionHypothesis =>
    have seamBehind : ∀ c, (Piece.body style rest).getLast? = some c →
        style.opening? c (Piece.body style second') = none := by
      intro c last
      apply seam
      rw [Piece.body, List.flatMap_cons, ← Piece.body, List.getLast?_append, last, Option.some_or]
    cases scanned with
    | @char c _ plain later =>
      refine .char ?_ (inductionHypothesis later seamBehind)
      cases rest with
      | nil => exact seam c rfl
      | cons next more =>
        refine MarkerStyle.opening?_eq_none_of_head? plain ?_
        obtain ⟨d, _, source⟩ := List.exists_cons_of_ne_nil (source_ne_nil style next)
        simp [Piece.body, source]
    | slot balanced declared later =>
      exact .slot balanced declared (inductionHypothesis later seamBehind)

/-- Parts behind scanned parts are scanned themselves. -/
theorem Scanned.of_append {first second : List Part} (scanned : Scanned style (first ++ second)) :
    Scanned style second := by
  induction first with
  | nil => exact scanned
  | cons part rest inductionHypothesis =>
    cases scanned with
    | char _ later => exact inductionHypothesis later
    | slot _ _ later => exact inductionHypothesis later

end Part

namespace Piece

variable {style : MarkerStyle}

/-- Pieces behind scanned pieces are scanned themselves. -/
theorem Scanned.of_append {first second : List Piece} (scanned : Scanned style (first ++ second)) :
    Scanned style second := by
  induction first with
  | nil => exact scanned
  | cons piece rest inductionHypothesis =>
    cases scanned with
    | char _ later => exact inductionHypothesis later
    | slot _ _ later => exact inductionHypothesis later
    | formula _ _ _ later => exact inductionHypothesis later

/-- Scanned pieces stay scanned before others that begin with the same character. -/
theorem scanned_exchange {first second second' : List Piece}
    (scanned : Scanned style (first ++ second)) (follows : Scanned style second')
    (head : (second'.flatMap (source style)).head? = (second.flatMap (source style)).head?) :
    Scanned style (first ++ second') := by
  induction first with
  | nil => exact follows
  | cons piece rest inductionHypothesis =>
    have headBehind : ((rest ++ second').flatMap (source style)).head? =
        ((rest ++ second).flatMap (source style)).head? := by
      rw [List.flatMap_append, List.flatMap_append, List.head?_append, List.head?_append, head]
    cases scanned with
    | char plain later =>
      refine .char ?_ (inductionHypothesis later)
      exact MarkerStyle.opening?_eq_none_of_head? plain fun found => headBehind ▸ found
    | slot balanced declared later => exact .slot balanced declared (inductionHypothesis later)
    | formula balanced notBlank inside later =>
      exact .formula balanced notBlank inside (inductionHypothesis later)

end Piece

namespace Hole

variable {hole : Hole} {style : MarkerStyle}

/-- The formula of a scanned line is scanned, and the line is no comment. -/
theorem marked_of_scanned {inner : List Part} (scanned : (hole.line inner).Scanned style) :
    Piece.Scanned style (hole.line inner).pieces := by
  apply scanned.marked
  apply Bool.eq_false_iff.2
  intro comment
  have formula : Piece.formula (hole.parts inner) ∈ (hole.line inner).pieces := by simp [line]
  rw [scanned.comment comment] at formula
  obtain ⟨c, -, impossible⟩ := List.mem_map.1 formula
  cases impossible

/-- A text that can stand in a place of a formula is scanned there. -/
theorem scanned_parts {inner : List Part} {t : Text}
    (scanned : Part.Scanned style (hole.parts inner))
    (stands : style.StandsBetween t (Piece.body style hole.front) (Piece.body style hole.back)) :
    Part.Scanned style (hole.parts (t.map .char)) := by
  rw [parts, List.append_assoc] at scanned ⊢
  refine Part.scanned_exchange scanned ?_ ?_
  · exact Part.scanned_char_append scanned.of_append.of_append stands.plain
  · rw [Part.body_append, Part.body_char]
    exact stands.seam

/-- With a visible text that can stand in a place of a formula, the line of the formula is scanned
if it is no comment. -/
theorem scanned_line {inner : List Part} {t : Text} {c : Char}
    (scanned : (hole.line inner).Scanned style) (member : c ∈ t) (visible : Text.isBlank c = false)
    (stands : style.StandsBetween t (Piece.body style hole.front) (Piece.body style hole.back))
    (noComment : style.isComment ((hole.line (t.map .char)).content style) = false) :
    (hole.line (t.map .char)).Scanned style := by
  have marked := marked_of_scanned scanned
  have body : Piece.body style (hole.parts (t.map .char)) =
      Piece.body style hole.front ++ t ++ Piece.body style hole.back := by
    rw [parts, Part.body_append, Part.body_append, Part.body_char]
  refine ⟨?_, ?_, fun _ => ?_⟩
  · have nonempty : hole.right style ≠ [] := by simp [right]
    have outside : ∀ d, (hole.right style).getLast? = some d → Text.isLineEnd d = false := by
      intro d last
      have cut := scanned.cut
      rw [content_line] at cut
      apply Text.not_inClass_of_getLast_dropEndWhile
      change (Text.dropLineEnds ((hole.line inner).source style)).getLast? = some d
      rw [← cut, List.getLast?_append, last, Option.some_or]
    have kept : Text.dropLineEnds (hole.left style ++ t ++ hole.right style ++ hole.ending) =
        hole.left style ++ t ++ hole.right style :=
      Text.dropEndWhile_append_of_outside nonempty outside fun d =>
        scanned.isLineEnd_of_mem_ending
    rw [Line.source, ← Line.content, content_line, Part.body_char]
    exact kept.symm
  · intro comment
    rw [noComment] at comment
    cases comment
  · cases marked.of_append with
    | formula balanced notBlank inside later =>
      refine Piece.scanned_exchange marked ?_ rfl
      refine .formula ?_ ?_ (scanned_parts inside stands) later
      · rw [body]
        exact stands.balanced
      · rw [body]
        apply Text.trim_ne_nil (c := c) _ visible
        simp [member]

/-- With a text that holds no newline in a place of a formula, a raw line is one raw line. -/
theorem rawLines_line {inner : List Part} {t deck : Text}
    (scanned : (hole.line inner).Scanned style)
    (raw : (hole.line inner).source style ∈ Text.rawLines deck) (noNewline : '\n' ∉ t) :
    Text.rawLines ((hole.line (t.map .char)).source style) =
      [(hole.line (t.map .char)).source style] := by
  have inside := Text.newline_not_mem_dropLineEnds raw
  rw [← scanned.cut, content_line, List.mem_append, List.mem_append, not_or, not_or] at inside
  have absent : '\n' ∉ (hole.line (t.map .char)).content style := by
    rw [content_line, Part.body_char, List.mem_append, List.mem_append, not_or, not_or]
    exact ⟨⟨inside.1.1, noNewline⟩, inside.2⟩
  have written : (hole.line (t.map .char)).source style =
      (hole.line (t.map .char)).content style ++ hole.ending := rfl
  apply Text.rawLines_eq_singleton
  · rw [written, content_line]
    simp [right]
  · rw [written]
    by_cases empty : hole.ending = []
    · rw [empty, List.append_nil]
      exact fun member => absent ((List.dropLast_sublist _).subset member)
    · have ends := (Text.mem_rawLines raw).2
      have source : (hole.line inner).source style =
          (hole.line inner).content style ++ hole.ending := rfl
      rw [source, List.dropLast_append_of_ne_nil empty, List.mem_append, not_or] at ends
      rw [List.dropLast_append_of_ne_nil empty, List.mem_append, not_or]
      exact ⟨absent, ends.2⟩

/-- A deck is scanned with a text that can stand in a place of a formula as characters there. -/
theorem scan_char {inner : List Part} {t deck : Text}
    (scanned : scan style deck = .ok (hole.lines inner))
    (lineScanned : (hole.line (t.map .char)).Scanned style) (noNewline : '\n' ∉ t) :
    scan style (hole.above style ++ t ++ hole.below style) = .ok (hole.lines (t.map .char)) := by
  obtain ⟨sources, wellScanned⟩ := (scan_eq_ok_iff _ _ _).1 scanned
  rw [lines, List.map_append, List.map_cons] at sources
  have here := wellScanned (hole.line inner) (by simp [lines])
  have raw : (hole.line inner).source style ∈ Text.rawLines deck := by
    rw [← sources]
    simp
  have text := hole.source_lines style (t.map .char)
  rw [Part.body_char] at text
  rw [← text]
  refine (scan_eq_ok_iff _ _ _).2 ⟨?_, ?_⟩
  · rw [List.flatMap_def, lines, List.map_append, List.map_cons]
    symm
    apply Text.rawLines_exchange sources.symm (rawLines_line here raw noNewline)
    exact fun ends => here.endsLine raw ends ((hole.line (t.map .char)).content style)
  · intro line lineMember
    rcases List.mem_append.1 lineMember with before | behind
    · exact wellScanned line (List.mem_append_left _ before)
    · rcases List.mem_cons.1 behind with rfl | later
      · exact lineScanned
      · exact wellScanned line (List.mem_append_right _ (List.mem_cons_of_mem _ later))

/-- The number of the line of the formula. -/
def number (hole : Hole) : Nat := 1 + hole.earlier.length

/-- What is declared before the place. -/
def declaredAbove (hole : Hole) : List Declaration :=
  Line.declarations 1 hole.earlier ++ (hole.before.flatMap (Piece.declarations hole.number) ++
    hole.front.filterMap (Part.declaration? hole.number))

/-- What is declared behind the place. -/
def declaredBelow (hole : Hole) : List Declaration :=
  hole.back.filterMap (Part.declaration? hole.number) ++
    (hole.after.flatMap (Piece.declarations hole.number) ++
      Line.declarations (hole.number + 1) hole.later)

/-- What the deck declares. -/
theorem declarations_lines (inner : List Part) :
    Line.declarations 1 (hole.lines inner) =
      hole.declaredAbove ++ inner.filterMap (Part.declaration? hole.number) ++
        hole.declaredBelow := by
  simp [lines, Line.declarations_append, Line.declarations, line, parts, Piece.declarations,
    declaredAbove, declaredBelow, number]

end Hole

end InputDeck
