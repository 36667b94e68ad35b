import InputDeck.Proofs.Value.FiniteNumbers
import InputDeck.Proofs.Value.PrintedNumbers
import InputDeck.Sweep

/-!
# Labels of cases

The label of a case writes every name with its value, and a comma between neighbours. Names are not
protected, so they may look like a part of a label themselves. A number is printed without a comma,
and different numbers are printed differently; so behind the same name the same number stands, and
what follows it begins at the same place.
-/

namespace InputDeck

/-- A printed number is read as the number. -/
theorem Value.FiniteNumber.ofLiteral_render {v : Value} (number : v.FiniteNumber) :
    Value.ofLiteral v.render = v := by
  cases number with
  | int n => exact ofLiteral_renderInt n
  | real finite => exact ofLiteral_renderDeckReal finite

/-- A number is printed as a numeral. -/
theorem Value.FiniteNumber.isSigned_render {v : Value} (number : v.FiniteNumber) :
    IsSigned v.render := by
  cases number with
  | int n => exact isSigned_renderInt n.toInt
  | real finite => exact isSigned_renderDeckReal finite

/-- A number is printed without a comma. -/
theorem Value.FiniteNumber.ne_comma {v : Value} (number : v.FiniteNumber) :
    ∀ c ∈ v.render, (c != ',') = true := by
  intro c member
  have looks := looksNumeric_of_isSigned number.isSigned_render
  simp only [Value.looksNumeric, Bool.and_eq_true, List.all_eq_true] at looks
  have numeric := looks.2 c member
  refine bne_iff_ne.2 ?_
  rintro rfl
  cases numeric

namespace Case

/-- What stands behind the first value in a label. -/
def labelBehind : Case → Text
  | [] => []
  | next :: later => ',' :: label (next :: later)

/-- Behind a comma stand the next name and its value. -/
theorem labelBehind_cons (name : Text) (value : Value) (later : Case) :
    labelBehind ((name, value) :: later) =
      ',' :: (name ++ '=' :: (value.render ++ labelBehind later)) := by
  cases later with
  | nil => simp [label, labelBehind, Text.join]
  | cons next later => simp [label, labelBehind, Text.join]

/-- A number reaches as far as there is no comma, because a label ends behind it or goes on with
one. -/
theorem spanWhile_render {value : Value} (number : value.FiniteNumber) (later : Case) :
    Text.spanWhile (· != ',') (value.render ++ labelBehind later) =
      (value.render, labelBehind later) := by
  refine Text.spanWhile_append_of_ends number.ne_comma fun c rest begins => ?_
  cases later with
  | nil => cases begins
  | cons next later =>
    cases begins
    rfl

/-- Where two labels go on in the same way with a number, it is the same number, and they go on in
the same way behind it. -/
theorem render_append_inj {value other : Value} (number : value.FiniteNumber)
    (otherNumber : other.FiniteNumber) {later others : Case}
    (same : value.render ++ labelBehind later = other.render ++ labelBehind others) :
    value = other ∧ labelBehind later = labelBehind others := by
  have spans := congrArg (Text.spanWhile (· != ',')) same
  rw [spanWhile_render number, spanWhile_render otherNumber, Prod.mk.injEq] at spans
  refine ⟨?_, spans.2⟩
  rw [← number.ofLiteral_render, spans.1, otherNumber.ofLiteral_render]

/-- The rest of a label tells the numbers in it. -/
theorem eq_of_labelBehind_eq {first second : Case}
    (names : first.map Prod.fst = second.map Prod.fst)
    (numbers : ∀ pair ∈ first, pair.2.FiniteNumber)
    (otherNumbers : ∀ pair ∈ second, pair.2.FiniteNumber)
    (same : labelBehind first = labelBehind second) : first = second := by
  induction first generalizing second with
  | nil => exact (List.map_eq_nil_iff.1 names.symm).symm
  | cons pair later inductionHypothesis =>
    cases second with
    | nil => cases names
    | cons other others =>
      obtain ⟨name, value⟩ := pair
      obtain ⟨otherName, otherValue⟩ := other
      obtain ⟨rfl, laterNames⟩ : name = otherName ∧ later.map Prod.fst = others.map Prod.fst := by
        simpa using names
      obtain ⟨number, laterNumbers⟩ := List.forall_mem_cons.1 numbers
      obtain ⟨otherNumber, laterOthers⟩ := List.forall_mem_cons.1 otherNumbers
      rw [labelBehind_cons, labelBehind_cons, List.cons_inj_right, List.append_cancel_left_eq,
        List.cons_inj_right] at same
      obtain ⟨rfl, laterSame⟩ := render_append_inj number otherNumber same
      rw [inductionHypothesis laterNames laterNumbers laterOthers laterSame]

/-- Cases of numbers with the same names in the same order have the same label only if they are the
same case, with every number of the same kind. -/
theorem label_tells_numbers_apart {first second : Case}
    (names : first.map Prod.fst = second.map Prod.fst)
    (numbers : ∀ pair ∈ first, pair.2.FiniteNumber)
    (otherNumbers : ∀ pair ∈ second, pair.2.FiniteNumber) :
    first.label = second.label ↔ first = second := by
  refine ⟨fun same => eq_of_labelBehind_eq names numbers otherNumbers ?_, congrArg label⟩
  cases first with
  | nil => rw [List.map_eq_nil_iff.1 names.symm]
  | cons pair later =>
    cases second with
    | nil => cases names
    | cons other others => rw [labelBehind, labelBehind, same]

/-- A whole number behind a name that looks like a label itself, and another variable. -/
def withWholeNumber : Case := [("a=1,b".toList, .int 1), ("c".toList, .int 2)]

/-- The same case with a real number in the place of the whole one. -/
def withRealNumber : Case := [("a=1,b".toList, .real 1), ("c".toList, .int 2)]

/-- A whole number and the real number of the same size have different labels, also between a name
that looks like a label and a comma. -/
theorem label_tells_kinds_apart :
    withWholeNumber.map Prod.fst = withRealNumber.map Prod.fst ∧
      (∀ pair ∈ withWholeNumber, pair.2.FiniteNumber) ∧
      (∀ pair ∈ withRealNumber, pair.2.FiniteNumber) ∧
      withWholeNumber.label = "a=1,b=1,c=2".toList ∧
      withWholeNumber.label ≠ withRealNumber.label := by
  have names : withWholeNumber.map Prod.fst = withRealNumber.map Prod.fst := rfl
  have numbers : ∀ pair ∈ withWholeNumber, pair.2.FiniteNumber := by
    simpa [withWholeNumber] using And.intro (Value.FiniteNumber.int 1) (.int 2)
  have otherNumbers : ∀ pair ∈ withRealNumber, pair.2.FiniteNumber := by
    simpa [withRealNumber] using And.intro (Value.FiniteNumber.real (by decide +kernel)) (.int 2)
  refine ⟨names, numbers, otherNumbers, by decide +kernel, fun same => ?_⟩
  have equal := (label_tells_numbers_apart names numbers otherNumbers).1 same
  simp [withWholeNumber, withRealNumber] at equal

end Case

end InputDeck
