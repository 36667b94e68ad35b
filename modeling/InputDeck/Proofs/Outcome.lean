import Mathlib.Control.Monad.Basic

/-!
# Outcomes

A mapped outcome succeeds where the outcome does and fails with the same error. Two outcomes are
alike where both are results or both are errors, and these are related.
-/

namespace InputDeck

variable {ε α β : Type}

/-- A mapped outcome is a result exactly when the outcome is one. -/
@[simp]
theorem map_eq_ok_iff (outcome : Except ε α) (f : α → β) (b : β) :
    outcome.map f = .ok b ↔ ∃ a, outcome = .ok a ∧ f a = b := by
  cases outcome <;> simp [Except.map]

/-- A mapped outcome is an error exactly when the outcome is that error. -/
@[simp]
theorem map_eq_error_iff (outcome : Except ε α) (f : α → β) (error : ε) :
    outcome.map f = .error error ↔ outcome = .error error := by
  cases outcome <;> simp [Except.map]

/-- A step behind an outcome gives a result exactly when the outcome is one and the step gives the
result for it. -/
theorem bind_eq_ok_iff (outcome : Except ε α) (step : α → Except ε β) (b : β) :
    (outcome >>= step) = .ok b ↔ ∃ a, outcome = .ok a ∧ step a = .ok b := by
  cases outcome <;> simp [bind, Except.bind]

/-- An outcome with its error mapped is a result exactly when the outcome is that result. -/
@[simp]
theorem mapError_eq_ok_iff {ε' : Type} (outcome : Except ε α) (f : ε → ε') (a : α) :
    outcome.mapError f = .ok a ↔ outcome = .ok a := by
  cases outcome with
  | error error =>
    constructor
    · intro impossible
      cases impossible
    · intro impossible
      cases impossible
  | ok result =>
    constructor
    · intro same
      cases same
      rfl
    · intro same
      cases same
      rfl

/-- An outcome without its error is a result exactly when the outcome is that result. -/
theorem toOption_eq_some_iff (outcome : Except ε α) (a : α) :
    outcome.toOption = some a ↔ outcome = .ok a := by
  cases outcome <;> simp [Except.toOption]

/-- Two results that are related, or two errors that are. -/
inductive Alike (K : ε → ε → Prop) (R : α → β → Prop) : Except ε α → Except ε β → Prop
  | ok {a : α} {b : β} (related : R a b) : Alike K R (.ok a) (.ok b)
  | error {error error' : ε} (related : K error error') :
      Alike K R (.error error) (.error error')

namespace Alike

variable {K : ε → ε → Prop} {R : α → β → Prop} {α' β' : Type} {R' : α' → β' → Prop}

/-- Every outcome is alike to itself. -/
theorem refl {R : α → α → Prop} (errors : ∀ error, K error error) (results : ∀ a, R a a)
    (outcome : Except ε α) : Alike K R outcome outcome := by
  cases outcome with
  | error error => exact .error (errors error)
  | ok a => exact .ok (results a)

/-- Outcomes that are alike are both results or both errors. -/
theorem cases {outcome : Except ε α} {outcome' : Except ε β} (alike : Alike K R outcome outcome') :
    (∃ a b, outcome = .ok a ∧ outcome' = .ok b ∧ R a b) ∨
      ∃ error error', outcome = .error error ∧ outcome' = .error error' ∧ K error error' := by
  cases alike with
  | ok related => exact .inl ⟨_, _, rfl, rfl, related⟩
  | error related => exact .inr ⟨_, _, rfl, rfl, related⟩

/-- Outcomes that are alike stay so when their results are mapped to related ones. -/
theorem map {outcome : Except ε α} {outcome' : Except ε β} (alike : Alike K R outcome outcome')
    {f : α → α'} {g : β → β'} (mapped : ∀ a b, R a b → R' (f a) (g b)) :
    Alike K R' (outcome.map f) (outcome'.map g) := by
  cases alike with
  | ok related => exact .ok (mapped _ _ related)
  | error related => exact .error related

end Alike

end InputDeck
