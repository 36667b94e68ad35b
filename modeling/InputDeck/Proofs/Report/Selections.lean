import InputDeck.Proofs.Outcome
import InputDeck.Proofs.Text.Searching
import InputDeck.Report.Stage

/-!
# Cutting, replacing and selecting

Cutting and replacing are two views of one split. The fields of a text are what stands between the
occurrences of a delimiter, from the left and without overlap, so the delimiter joins them to the
text again. A cut takes one of them by its index, and a replacement joins all of them with the new
text instead.

Selecting searches twice, for the start in the text and for the end in what follows the start. Either
mark may be empty and they may overlap in the text: the second search never reaches back over the
start.
-/

namespace InputDeck

namespace Text

/-- These are the fields of a text. No one of them has the delimiter inside, and none but the last
has one that begins there and goes on into the delimiter behind it. -/
structure SplitInto (delimiter t : Text) (fields : List Text) : Prop where
  nonempty : fields ≠ []
  joined : join delimiter fields = t
  absent : ∀ field ∈ fields, ¬delimiter <:+: field
  ends : ∀ field ∈ fields.dropLast, OccursFirst delimiter (field ++ delimiter) field []

/-- Joining puts the separator behind a part that is not the last one. -/
theorem join_cons {separator first : Text} {rest : List Text} (more : rest ≠ []) :
    join separator (first :: rest) = first ++ separator ++ join separator rest := by
  obtain ⟨second, others, rfl⟩ := List.exists_cons_of_ne_nil more
  rfl

/-- A text without the delimiter is its only field. -/
theorem SplitInto.whole {delimiter t : Text} (absent : ¬delimiter <:+: t) :
    SplitInto delimiter t [t] where
  nonempty := List.cons_ne_nil t []
  joined := rfl
  absent := by simpa using absent
  ends := by simp

/-- The text before the first delimiter is a field in front of those behind it. -/
theorem SplitInto.cons {delimiter t before following : Text} {fields : List Text}
    (nonempty : delimiter ≠ []) (occurs : OccursFirst delimiter t before following)
    (later : SplitInto delimiter following fields) : SplitInto delimiter t (before :: fields) where
  nonempty := List.cons_ne_nil before fields
  joined := by rw [join_cons later.nonempty, later.joined, occurs.written]
  absent := List.forall_mem_cons.2 ⟨occurs.not_contained nonempty, later.absent⟩
  ends := by
    rw [List.dropLast_cons_of_ne_nil later.nonempty]
    exact List.forall_mem_cons.2 ⟨occurs.at_end, later.ends⟩

/-- A text is split into its fields. -/
theorem splitInto_fields {delimiter : Text} (nonempty : delimiter ≠ []) (t : Text) :
    SplitInto delimiter t (fields delimiter t) := by
  fun_induction fields delimiter t with
  | case1 t empty => exact absurd empty nonempty
  | case2 t _ whole => exact .whole ((splitFirst_eq_none_iff delimiter t).1 whole)
  | case3 t _ before following split _ inductionHypothesis =>
    exact inductionHypothesis.cons nonempty (splitFirst_eq_some_iff.1 split)

/-- Replacing a text joins the fields between its occurrences with the new one. -/
theorem replaceAll_eq_join {old : Text} (nonempty : old ≠ []) (new t : Text) :
    replaceAll old new t = join new (fields old t) := by
  fun_induction fields old t with
  | case1 t empty => exact absurd empty nonempty
  | case2 t _ whole =>
    rw [replaceAll, dif_neg nonempty]
    split
    · rfl
    · rename_i split
      rw [whole] at split
      cases split
  | case3 t _ before following split _ inductionHypothesis =>
    rw [replaceAll, dif_neg nonempty]
    split
    · rename_i whole
      rw [split] at whole
      cases whole
    · rename_i same
      rw [split] at same
      cases same
      rw [inductionHypothesis, join_cons (splitInto_fields nonempty following).nonempty]

/-- The text stands between the first start and the first end behind it. -/
def StandsBetween (start stop t inside : Text) : Prop :=
  ∃ before behind, OccursFirst start t before (inside ++ stop ++ behind) ∧
    OccursFirst stop (inside ++ stop ++ behind) inside behind

/-- One text at most stands between them. -/
theorem StandsBetween.unique {start stop t inside other : Text}
    (stands : StandsBetween start stop t inside) (otherStands : StandsBetween start stop t other) :
    inside = other := by
  obtain ⟨before, behind, first, second⟩ := stands
  obtain ⟨before', behind', first', second'⟩ := otherStands
  obtain ⟨-, same⟩ := first.unique first'
  rw [← same] at second'
  exact (second.unique second').1

end Text

/-! ## Fields of a text -/

/-- The item with an index from zero on is found. -/
theorem item?_eq_some {α : Type} {items : List α} {index : Int64} (i : Fin items.length)
    (isIndex : index.toInt = i) : item? items index = some items[i] := by
  rw [item?, if_neg (by omega), isIndex]
  simp

/-- There is no item with a negative index, and none behind the last one. -/
theorem item?_eq_none {α : Type} {items : List α} {index : Int64}
    (outside : index.toInt < 0 ∨ items.length ≤ index.toInt) : item? items index = none := by
  unfold item?
  split
  · rfl
  · rw [List.getElem?_eq_none_iff]
    omega

/-- A text has at least one field for a delimiter that is not empty, and the delimiter joins its
fields to the text. A cut takes the field with its index and fails for any other index, and a
replacement of the delimiter joins the same fields with the new text. -/
theorem cut_and_replace_share_fields {delimiter : Text} (nonempty : delimiter ≠ []) (t : Text) :
    ∃ fields : List Text, Text.SplitInto delimiter t fields ∧ ∀ engine workdir,
      (∀ (index : Int64) (i : Fin fields.length), index.toInt = i →
        (Operation.cut delimiter index).run engine workdir (.text t) = .ok (.text fields[i])) ∧
      (∀ index : Int64, index.toInt < 0 ∨ fields.length ≤ index.toInt →
        (Operation.cut delimiter index).run engine workdir (.text t) =
          .error (.indexOutOfRange .cut index fields.length)) ∧
      ∀ new, (Operation.replace delimiter new).run engine workdir (.text t) =
        .ok (.text (Text.join new fields)) := by
  have cut (engine : Engine) (workdir : Workdir) (index : Int64) :
      (Operation.cut delimiter index).run engine workdir (.text t) =
        (cutField delimiter index t).map .text := rfl
  refine ⟨Text.fields delimiter t, Text.splitInto_fields nonempty t,
    fun engine workdir => ⟨?_, ?_, ?_⟩⟩
  · intro index i isIndex
    rw [cut, cutField, item?_eq_some i isIndex]
    rfl
  · intro index outside
    rw [cut, cutField, item?_eq_none outside]
    rfl
  · intro new
    rw [← Text.replaceAll_eq_join nonempty]
    rfl

/-- A delimiter that overlaps itself is taken from the left, and the last field may be empty. -/
theorem fields_of_overlapping_delimiter :
    "aa".toList ≠ [] ∧ ∃ fields : List Text, Text.SplitInto "aa".toList "xaaaéaa".toList fields ∧
      Text.join "-".toList fields = "x-aé-".toList ∧
      ∀ engine workdir, (Operation.cut "aa".toList (-1)).run engine workdir
        (.text "xaaaéaa".toList) = .error (.indexOutOfRange .cut (-1) fields.length) := by
  have nonempty : "aa".toList ≠ [] := by decide
  obtain ⟨fields, split, results⟩ := cut_and_replace_share_fields nonempty "xaaaéaa".toList
  have replaced : Text.replaceAll "aa".toList "-".toList "xaaaéaa".toList =
      Text.join "-".toList fields :=
    Stage.text.inj (Except.ok.inj ((results ⟨fun _ => none⟩ .missing).2.2 "-".toList))
  exact ⟨nonempty, fields, split, replaced.symm.trans (by decide +kernel),
    fun engine workdir => (results engine workdir).2.1 (-1) (.inl (by decide))⟩

/-! ## Text between marks -/

section

variable {start stop t : Text}

/-- What is selected stands between the marks. -/
theorem between_eq_ok_iff {inside : Text} :
    between start stop t = .ok inside ↔ Text.StandsBetween start stop t inside := by
  constructor
  · intro selected
    rw [between] at selected
    split at selected
    · cases selected
    · rename_i before rest first
      split at selected
      · cases selected
      · rename_i found behind second
        cases selected
        have starts := Text.splitFirst_eq_some_iff.1 first
        have stops := Text.splitFirst_eq_some_iff.1 second
        rw [stops.written] at starts stops
        exact ⟨before, behind, starts, stops⟩
  · rintro ⟨before, behind, starts, stops⟩
    rw [between, Text.splitFirst_eq_some_iff.2 starts]
    simp only [Text.splitFirst_eq_some_iff.2 stops]

/-- Without a start nothing is selected. -/
theorem between_of_no_start (absent : ¬start <:+: t) :
    between start stop t = .error (.markerNotFound start) := by
  rw [between, (Text.splitFirst_eq_none_iff start t).2 absent]

/-- Without an end behind the first start nothing is selected. -/
theorem between_of_no_stop {before rest : Text} (starts : Text.OccursFirst start t before rest)
    (absent : ¬stop <:+: rest) : between start stop t = .error (.markerNotFound stop) := by
  rw [between, Text.splitFirst_eq_some_iff.2 starts]
  simp only [(Text.splitFirst_eq_none_iff stop rest).2 absent]

end

/-- Selecting gives the text between the first start and the first end behind it, and there is but
one such text. It fails for the start if that does not occur, and otherwise for the end if that does
not occur behind the first start. -/
theorem substring_stands_between (engine : Engine) (workdir : Workdir) (start stop t : Text) :
    (∀ inside, (Operation.substring start stop).run engine workdir (.text t) = .ok (.text inside) ↔
        Text.StandsBetween start stop t inside) ∧
      (∀ inside other, Text.StandsBetween start stop t inside →
        Text.StandsBetween start stop t other → inside = other) ∧
      (¬start <:+: t → (Operation.substring start stop).run engine workdir (.text t) =
        .error (.markerNotFound start)) ∧
      (start <:+: t → ∃ before rest, Text.OccursFirst start t before rest ∧
        (¬stop <:+: rest → (Operation.substring start stop).run engine workdir (.text t) =
          .error (.markerNotFound stop))) := by
  have select : (Operation.substring start stop).run engine workdir (.text t) =
      (between start stop t).map .text := rfl
  rw [select]
  refine ⟨fun inside => ?_, fun _ _ => Text.StandsBetween.unique, fun absent => ?_, fun occurs => ?_⟩
  · rw [map_eq_ok_iff, ← between_eq_ok_iff]
    constructor
    · rintro ⟨found, selected, same⟩
      cases same
      exact selected
    · intro selected
      exact ⟨inside, selected, rfl⟩
  · rw [map_eq_error_iff]
    exact between_of_no_start absent
  · obtain ⟨before, rest, starts⟩ := Text.exists_occursFirst occurs
    refine ⟨before, rest, starts, fun absent => ?_⟩
    rw [map_eq_error_iff]
    exact between_of_no_stop starts absent

end InputDeck
