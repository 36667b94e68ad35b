import InputDeck.Text.Slices
import InputDeck.Template.Occurrence

/-!
# Splicing

Text is put in the place of spans by slicing: what lies between two spans is copied, and a span is
passed over. Where the spans are those of marks that follow one another in the text, every slice
exists, and the result is the text with the marks exchanged and all else kept.
-/

namespace InputDeck

namespace Text

/-- The text from an offset up to `stop` with new text in the place of spans, unless a slice
between two of them does not exist. -/
def splice? (t : Text) (stop : Nat) : Nat → List (Span × Text) → Option Text
  | last, [] => t.slice? last stop
  | last, (span, new) :: rest =>
    match t.slice? last span.start with
    | none => none
    | some gap => (splice? t stop span.stop rest).map (gap ++ new ++ ·)

/-- The text is a row of gaps and marks, the first gap beginning at the offset and the marks
standing at the spans; the result is that row with new text for the marks. -/
inductive Rewritten : Nat → List (Span × Text) → Text → Text → Prop
  | last (offset : Nat) (gap : Text) : Rewritten offset [] gap gap
  | mark {offset : Nat} {span : Span} {edits : List (Span × Text)} {t result : Text}
      (gap old new : Text) (start : span.start = offset + byteLength gap)
      (stop : span.stop = span.start + byteLength old)
      (later : Rewritten span.stop edits t result) :
      Rewritten offset ((span, new) :: edits) (gap ++ old ++ t) (gap ++ new ++ result)

/-- Splicing follows the row of gaps and marks, wherever it stands in a text. -/
theorem splice?_of_rewritten {offset : Nat} {edits : List (Span × Text)} {t result : Text}
    (rewritten : Rewritten offset edits t result) (before behind : Text)
    (placed : offset = byteLength before) :
    splice? (before ++ t ++ behind) (offset + byteLength t) offset edits = some result := by
  induction rewritten generalizing before with
  | last offset gap =>
    exact (slice?_eq_some_iff _ _ _ _).2 ⟨before, behind, rfl, placed, by rw [placed]⟩
  | @mark offset span edits t result gap old new start stop _ inductionHypothesis =>
    have outer : slice? (before ++ (gap ++ old ++ t) ++ behind) offset span.start = some gap :=
      (slice?_eq_some_iff _ _ _ _).2 ⟨before, old ++ t ++ behind, by simp, placed, by omega⟩
    have inner := inductionHypothesis (before ++ gap ++ old) (by
      simp only [byteLength_append]
      omega)
    have sameText : before ++ gap ++ old ++ t ++ behind =
        before ++ (gap ++ old ++ t) ++ behind := by simp
    have sameStop : offset + byteLength (gap ++ old ++ t) = span.stop + byteLength t := by
      simp only [byteLength_append]
      omega
    rw [sameText, ← sameStop] at inner
    simp only [splice?, outer, inner, Option.map_some]

end Text

/-- A row of texts, some of them with a text to put in their place, as edits of the whole row
where it stands at an offset. -/
def rowEdits : Nat → List (Text × Option Text) → List (Span × Text)
  | _, [] => []
  | offset, (old, none) :: rest => rowEdits (offset + Text.byteLength old) rest
  | offset, (old, some new) :: rest =>
    (⟨offset, offset + Text.byteLength old⟩, new) :: rowEdits (offset + Text.byteLength old) rest

/-- The edits of two rows, one behind the other. -/
theorem rowEdits_append (offset : Nat) (first second : List (Text × Option Text)) :
    rowEdits offset (first ++ second) = rowEdits offset first ++
      rowEdits (offset + Text.byteLength (first.flatMap Prod.fst)) second := by
  induction first generalizing offset with
  | nil => rfl
  | cons part rest inductionHypothesis =>
    obtain ⟨old, new⟩ := part
    cases new <;> simp [rowEdits, inductionHypothesis, Text.byteLength_append, Nat.add_assoc]

/-- The edits of a row exchange what is to be exchanged and keep the rest. What is copied before
the row joins the first gap. -/
theorem rewritten_rowEdits (row : List (Text × Option Text)) (offset : Nat) (copied : Text) :
    Text.Rewritten offset (rowEdits (offset + Text.byteLength copied) row)
      (copied ++ row.flatMap Prod.fst) (copied ++ row.flatMap fun part => part.2.getD part.1) := by
  induction row generalizing offset copied with
  | nil => exact .last offset _
  | cons part rest inductionHypothesis =>
    obtain ⟨old, new⟩ := part
    cases new with
    | none =>
      have later := inductionHypothesis offset (copied ++ old)
      rw [Text.byteLength_append, ← Nat.add_assoc] at later
      simpa [rowEdits] using later
    | some new =>
      have later := inductionHypothesis
        (offset + Text.byteLength copied + Text.byteLength old) []
      simp only [Text.byteLength, Nat.add_zero, List.nil_append] at later
      have marked : Text.Rewritten offset (rowEdits (offset + Text.byteLength copied)
          ((old, some new) :: rest)) (copied ++ old ++ rest.flatMap Prod.fst)
          (copied ++ new ++ rest.flatMap fun part => part.2.getD part.1) :=
        .mark copied old new rfl rfl later
      simpa using marked

end InputDeck
