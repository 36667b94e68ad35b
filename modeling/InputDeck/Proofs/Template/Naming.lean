import InputDeck.Proofs.Formula.Printed
import InputDeck.Proofs.Template.Substitution

/-!
# A name in the place of its number

A slot of a formula is filled with a number in parentheses. With the name of its variable in the
parentheses instead, the formula reads just where it did, and it has the same value: the number and
the name are both sums of their own, and both have the number for value.
-/

namespace InputDeck

open Formula

/-- A text in parentheses, as parts of a formula. -/
def Part.parenthesized (t : Text) : List Part := ('(' :: (t ++ [')'])).map .char

/-- A text that is a sum and no call of a function. -/
def Formula.IsPlainSum (t : Text) : Prop :=
  ∃ e, IsSum t e ∧ ∀ function arguments, e ≠ .call function arguments

namespace Piece

variable {inner inner' : Text → Text} {parts parts' : List Part}

/-- Parts are filled one behind the other. -/
theorem spliced_append (inner : Text → Text) (first second : List Part) :
    spliced inner (first ++ second) = spliced inner first ++ spliced inner second := by
  induction first with
  | nil => rfl
  | cons part rest inductionHypothesis =>
    cases part with
    | char c => simp [spliced, inductionHypothesis]
    | slot s => simp [spliced, inductionHypothesis]

/-- Characters are filled with nothing. -/
theorem spliced_char (inner : Text → Text) (t : Text) : spliced inner (t.map .char) = t := by
  induction t with
  | nil => rfl
  | cons c rest inductionHypothesis => simpa [spliced] using inductionHypothesis

/-- A text in parentheses stands for a slot that is filled with it. -/
theorem spliced_parenthesized (inner : Text → Text) (before after : List Part) (s : Slot) :
    spliced inner (before ++ Part.parenthesized (inner s.name) ++ after) =
      spliced inner (before ++ .slot s :: after) := by
  simp [spliced_append, Part.parenthesized, spliced_char, spliced]

/-- Parts are filled one behind the other, and the first slot without a filling counts. -/
theorem fill_append (fillSlot : Text → Except EvalError Text) (first second : List Part) :
    fill fillSlot (first ++ second) =
      match fill fillSlot first with
      | .error cause => .error cause
      | .ok t => (fill fillSlot second).map (t ++ ·) := by
  induction first with
  | nil =>
    simp only [List.nil_append, fill]
    cases fill fillSlot second <;> rfl
  | cons part rest inductionHypothesis =>
    cases part with
    | char c =>
      simp only [List.cons_append, fill, inductionHypothesis]
      cases fill fillSlot rest with
      | error cause => rfl
      | ok t => cases fill fillSlot second <;> rfl
    | slot s =>
      simp only [List.cons_append, fill, inductionHypothesis]
      cases fillSlot s.name with
      | error cause => rfl
      | ok filling =>
        cases fill fillSlot rest with
        | error cause => rfl
        | ok t => cases fill fillSlot second <;> simp [Except.map]

/-- Characters are filled with nothing. -/
theorem fill_char (fillSlot : Text → Except EvalError Text) (t : Text) :
    fill fillSlot (t.map .char) = .ok t := by
  induction t with
  | nil => rfl
  | cons c rest inductionHypothesis =>
    rw [List.map_cons, fill, inductionHypothesis]
    rfl

/-- A text in parentheses can be filled where a slot that has a filling can, and else fails
alike. -/
theorem fill_parenthesized {fillSlot : Text → Except EvalError Text} {s : Slot} {filling : Text}
    (filled : fillSlot s.name = .ok filling) (before after : List Part) (t : Text) :
    Alike Eq (fun _ _ => True) (fill fillSlot (before ++ .slot s :: after))
      (fill fillSlot (before ++ Part.parenthesized t ++ after)) := by
  rw [List.append_assoc, fill_append, fill_append, fill_append, Part.parenthesized, fill_char, fill,
    filled]
  cases fill fillSlot before with
  | error cause => exact .error rfl
  | ok first =>
    cases fill fillSlot after with
    | error cause => exact .error rfl
    | ok second => exact .ok trivial

/-- A formula reads or does not read whatever plain sums its slots are filled with. -/
theorem parses_spliced_iff
    (plain : ∀ s, .slot s ∈ parts → IsPlainSum (inner s.name) ∧ IsPlainSum (inner' s.name)) :
    (∃ e, parse (Text.trim (spliced inner parts)) = .ok e) ↔
      ∃ e, parse (Text.trim (spliced inner' parts)) = .ok e := by
  have forth : ∀ {inner inner' : Text → Text},
      (∀ s, .slot s ∈ parts → IsPlainSum (inner s.name) ∧ IsPlainSum (inner' s.name)) →
      (∃ e, parse (Text.trim (spliced inner parts)) = .ok e) →
        ∃ e, parse (Text.trim (spliced inner' parts)) = .ok e := by
    rintro inner inner' plain ⟨e, read⟩
    have noCall : ∀ function arguments, ∀ _ : Expr,
        ¬∀ f a, Expr.call function arguments ≠ .call f a :=
      fun function arguments _ differs => differs function arguments rfl
    obtain ⟨e', read', -⟩ :=
      parse_spliced (R := fun e _ => ∀ f a, e ≠ .call f a) inner inner' noCall
        (fun s member => by
          obtain ⟨⟨e, isSum, notCall⟩, ⟨e', isSum', -⟩⟩ := plain s member
          exact ⟨e, e', isSum, isSum', notCall⟩) read
    exact ⟨e', read'⟩
  exact ⟨forth plain, forth fun s member => (plain s member).symm⟩

/-! ## The name of one variable -/

/-- What fills a slot: the name itself for the one variable, and for others what it says. -/
def named (name : Text) (inner : Text → Text) (other : Text) : Text :=
  if other = name then name else inner other

/-- The one variable is filled with its name. -/
theorem named_self (name : Text) (inner : Text → Text) : named name inner name = name :=
  if_pos rfl

variable {name : Text}

/-- A formula is checked with zeros. -/
theorem checked_eq (parts : List Part) :
    checked parts =
      (parse (Text.trim (spliced (fun _ => ['0']) parts))).mapError .malformed := by
  have zeros : fill (fun _ => .ok ['(', '0', ')']) parts = .ok (spliced (fun _ => ['0']) parts) :=
    fill_eq_spliced fun _ _ => rfl
  rw [checked, zeros]

/-- A formula passes the check just where it reads with the name of a variable in the place of its
slots. -/
theorem checked_iff_named (isName : IsPlainSum name) (parts : List Part) :
    (∃ e, checked parts = .ok e) ↔
      ∃ e, parse (Text.trim (spliced (named name fun _ => ['0']) parts)) = .ok e := by
  have zero : IsPlainSum ['0'] := ⟨_, isSum_zero, by simp⟩
  simp only [checked_eq, mapError_eq_ok_iff]
  apply parses_spliced_iff
  intro s _
  refine ⟨zero, ?_⟩
  by_cases own : s.name = name
  · rwa [named, if_pos own]
  · rwa [named, if_neg own]

/-- A check fails only with a malformed formula. -/
theorem malformed_of_checked {cause : EvalError} (failed : checked parts = .error cause) :
    ∃ fault, cause = .malformed fault := by
  rw [checked_eq] at failed
  cases read : parse (Text.trim (spliced (fun _ => ['0']) parts)) with
  | ok e =>
    rw [read] at failed
    cases failed
  | error fault =>
    rw [read] at failed
    cases failed
    exact ⟨fault, rfl⟩

variable {resolved : List (Text × Value)} {bindings : Bindings} {bound v : Value}

/-- A formula that is filled with numbers has the value that it has with the name in the place of
the number of a variable. -/
theorem evaluate_eq_named (isName : IsSum name (.reference name))
    (isBound : Bindings.ofList resolved name = some bound) (numeric : bound.toNumeric? = some v)
    (finite : v.isNonFinite = false) (notLeast : v ≠ .int Int64.minValue) {e : Expr}
    (readable : checked parts = .ok e) {t : Text}
    (filled : fill (fun other =>
      fillNumber other ((Bindings.ofList resolved other).getD default)) parts = .ok t) :
    evaluate resolved bindings parts =
      Formula.evaluate (Text.trim (spliced (named name fun other =>
          numberText ((Bindings.ofList resolved other).getD default)) parts))
        ((Bindings.ofList resolved).layered bindings) := by
  let numbers : Text → Text := fun other =>
    numberText ((Bindings.ofList resolved other).getD default)
  let scope := (Bindings.ofList resolved).layered bindings
  let sameValue : Expr → Expr → Prop := fun e e' => IsNumber e ∧ e.eval scope = e'.eval scope
  obtain ⟨written, signed⟩ := spliced_of_fillNumber filled
  have each : ∀ s, .slot s ∈ parts → ∃ e e', IsSum (numbers s.name) e ∧
      IsSum (named name numbers s.name) e' ∧ sameValue e e' := by
    intro s member
    by_cases own : s.name = name
    · obtain ⟨e, isSum, number, value⟩ :=
        isSum_render (Value.ne_text_of_toNumeric? numeric) finite notLeast
      have scopeBound : scope name = some bound := by
        simp only [scope, Bindings.layered, isBound, Option.some_or]
      have here : numbers name = v.render := by
        simp only [numbers, isBound, Option.getD_some, numberText, numeric]
      rw [own, named_self, here]
      refine ⟨e, .reference name, isSum, isName, number, ?_⟩
      rw [value, eval_reference scopeBound numeric finite]
    · obtain ⟨e, isSum, number⟩ := isSum_of_isSigned (signed s member)
      rw [named, if_neg own]
      exact ⟨e, e, isSum, isSum, number, rfl⟩
  have noCall : ∀ function arguments e', ¬sameValue (.call function arguments) e' := by
    rintro function arguments e' ⟨number, -⟩
    cases number
  obtain ⟨filledTree, read, -⟩ := parse_of_checked readable filled
  rw [written] at read
  obtain ⟨namedTree, readNamed, exchanged⟩ :=
    parse_spliced numbers (named name numbers) noCall each read
  have values : filledTree.eval scope = namedTree.eval scope :=
    exchanged.eval_eq fun e e' related => related.2
  rw [evaluate, filled]
  simp only [Formula.evaluate]
  rw [written, read, readNamed]
  exact values

/-- Two formulas that can both be read or are both malformed. -/
def ReadAlike (parts parts' : List Part) : Prop :=
  Alike (fun cause cause' => (∃ fault, cause = .malformed fault) ∧
    ∃ fault, cause' = .malformed fault) (fun _ _ => True) (checked parts) (checked parts')

/-- In the place of a slot, the name of its variable in parentheses keeps a formula readable, or
keeps it malformed. -/
theorem readAlike_parenthesized (isName : IsSum name (.reference name)) {s : Slot}
    (names : s.name = name) (before after : List Part) :
    ReadAlike (before ++ .slot s :: after) (before ++ Part.parenthesized name ++ after) := by
  subst names
  have plain : IsPlainSum s.name := ⟨_, isName, by simp⟩
  have same := spliced_parenthesized (named s.name fun _ => ['0']) before after s
  rw [named_self] at same
  have both := checked_iff_named plain (before ++ .slot s :: after)
  rw [← same, ← checked_iff_named plain] at both
  unfold ReadAlike
  cases found : checked (before ++ .slot s :: after) with
  | ok e =>
    obtain ⟨e', found'⟩ := both.1 ⟨e, found⟩
    rw [found']
    exact .ok trivial
  | error cause =>
    cases found' : checked (before ++ Part.parenthesized s.name ++ after) with
    | ok e' =>
      obtain ⟨e, impossible⟩ := both.2 ⟨e', found'⟩
      rw [found] at impossible
      cases impossible
    | error cause' => exact .error ⟨malformed_of_checked found, malformed_of_checked found'⟩

/-- In the place of a slot, the name of its variable in parentheses has the same value, and where
the formula has none, the same reason for it. -/
theorem evaluate_parenthesized (isName : IsSum name (.reference name)) {s : Slot}
    (names : s.name = name) (isBound : Bindings.ofList resolved name = some bound)
    (numeric : bound.toNumeric? = some v) (finite : v.isNonFinite = false)
    (notLeast : v ≠ .int Int64.minValue) {before after : List Part} {e : Expr}
    (readable : checked (before ++ .slot s :: after) = .ok e) :
    evaluate resolved bindings (before ++ .slot s :: after) =
      evaluate resolved bindings (before ++ Part.parenthesized name ++ after) := by
  subst names
  let fillSlot : Text → Except EvalError Text := fun other =>
    fillNumber other ((Bindings.ofList resolved other).getD default)
  have own : fillSlot s.name = .ok ('(' :: (v.render ++ [')'])) := by
    simp [fillSlot, isBound, fillNumber, numeric, finite]
  rcases (fill_parenthesized own before after s.name).cases with
    ⟨t, t', filled, filled', -⟩ | ⟨cause, _, failed, failed', rfl⟩
  · obtain ⟨e', readable'⟩ : ∃ e',
        checked (before ++ Part.parenthesized s.name ++ after) = .ok e' := by
      rcases (readAlike_parenthesized isName rfl before after).cases with
        ⟨_, e', -, found, -⟩ | ⟨_, _, impossible, -⟩
      · exact ⟨e', found⟩
      · rw [readable] at impossible
        cases impossible
    have same := spliced_parenthesized (named s.name fun other =>
      numberText ((Bindings.ofList resolved other).getD default)) before after s
    rw [named_self] at same
    rw [evaluate_eq_named isName isBound numeric finite notLeast readable filled,
      evaluate_eq_named isName isBound numeric finite notLeast readable' filled', same]
  · simp only [fillSlot] at failed failed'
    rw [evaluate, evaluate, failed, failed']

end Piece

end InputDeck
