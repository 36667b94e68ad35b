import InputDeck.Proofs.Number.Comparison
import InputDeck.Proofs.Value.Literals
import InputDeck.Proofs.Template.WrittenDomains

/-!
# Domains hold their defaults

What a slot declares is well formed: literals are neither empty nor have white space at their ends,
there is at least one of them in a set, and an interval has two ends in order and a default between
them. Whoever checks a value finds the default of a well-formed domain inside of it, since a literal
stands for the same value there, and since no number that is written is NaN, the one number that is
not in order with itself.
-/

namespace InputDeck

namespace Domain

/-- Literals are visible, and an interval is in order. -/
inductive WellFormed : Domain → Prop
  | unconstrained : WellFormed .unconstrained
  | fixed {literal : Text} (nonempty : literal ≠ []) (trimmed : Text.trim literal = literal) :
      WellFormed (.fixed literal)
  | range {low high : Float} {preset : Option Float}
      (noNaN : ∀ x ∈ numbers (.range low high preset), x.isNaN = false) (ordered : low ≤ high)
      (within : ∀ x ∈ preset, low ≤ x ∧ x ≤ high) : WellFormed (.range low high preset)
  | set {items : List Text} (nonempty : items ≠ [])
      (visible : ∀ item ∈ items, item ≠ [] ∧ Text.trim item = item) : WellFormed (.set items)

/-- No number of an interval is NaN. -/
theorem isNaN_of_reads {parts : List Text} {xs : List Float}
    (reads : List.Forall₂ (fun part x => Slot.rangePart? part = .ok x) parts xs) :
    ∀ x ∈ xs, x.isNaN = false := by
  induction reads with
  | nil => simp
  | cons read _ inductionHypothesis =>
    exact List.forall_mem_cons.2 ⟨(Slot.status_rangePart? read).1, inductionHypothesis⟩

/-- A domain that is read from a declaration without white space at its ends is well formed. -/
theorem WrittenAs.wellFormed {declaration : Text} {domain : Domain}
    (written : domain.WrittenAs declaration) (nonempty : declaration ≠ [])
    (trimmed : Text.trim declaration = declaration) : domain.WellFormed := by
  cases written with
  | fixed => exact .fixed nonempty trimmed
  | @range content low high preset reads ordered within =>
    have noNaN := isNaN_of_reads reads
    have lowNumber : low.isNaN = false := noNaN low (by simp [numbers])
    have highNumber : high.isNaN = false := noNaN high (by simp [numbers])
    refine .range noNaN (float_le_of_not_lt lowNumber highNumber ordered) fun x isPreset => ?_
    have number : x.isNaN = false := noNaN x (by simp [numbers, Option.mem_def.1 isPreset])
    obtain ⟨notBelow, notAbove⟩ := within x isPreset
    exact ⟨float_le_of_not_lt lowNumber number notBelow,
      float_le_of_not_lt number highNumber notAbove⟩
  | set each =>
    exact .set (Slot.elements_ne_nil _) fun item member =>
      ⟨each item member, Slot.trim_of_mem_elements member⟩

/-- A slot has a name without white space at its ends and declares a well-formed domain. -/
theorem wellFormed_of_declared {style : MarkerStyle} {slot : Slot}
    (declared : slot.Declared style) : slot.domain.WellFormed := by
  rcases declared.name_and_domain.2 with bare | ⟨_, _, -, -, nonempty, written⟩
  · rw [bare]
    exact .unconstrained
  · exact written.wellFormed nonempty (Text.trim_trim _)

/-- A literal stands for the same value whenever it is read. -/
theorem same_ofLiteral (literal : Text) :
    (Value.ofLiteral literal).same (Value.ofLiteral literal) = true := by
  have noNaN := (Value.status_ofLiteral literal).1
  cases value : Value.ofLiteral literal with
  | int n => simp [Value.same]
  | real x => exact float_beq_self (noNaN x value)
  | text t => simp [Value.same]

/-- An interval holds a number between its ends. -/
theorem contains_real {low high x : Float} (preset : Option Float) (above : low ≤ x)
    (below : x ≤ high) : (range low high preset).contains (.real x) = true := by
  simp [contains, bounds?, Value.toReal?, above, below]

/-- A well-formed domain holds its default. -/
theorem WellFormed.contains_defaultValue {domain : Domain} (wellFormed : domain.WellFormed) :
    domain.contains domain.defaultValue = true := by
  cases wellFormed with
  | unconstrained => decide +kernel
  | fixed => rfl
  | @range low high preset noNaN ordered within =>
    cases preset with
    | some x =>
      obtain ⟨above, below⟩ := within x rfl
      exact contains_real _ above below
    | none =>
      rw [defaultValue]
      split
      · rename_i zero
        exact contains_real _ zero.1 zero.2
      · have number : low.isNaN = false := noNaN low (by simp [numbers])
        exact contains_real _ (float_le_refl number) ordered
  | @set items nonempty _ =>
    obtain ⟨first, others, rfl⟩ := List.exists_cons_of_ne_nil nonempty
    simp [contains, defaultValue, same_ofLiteral]

/-- An interval without a default of its own that holds zero defaults to it. -/
theorem defaultValue_of_contains_zero {low high : Float}
    (zero : (range low high none).contains (.real 0) = true) :
    (range low high none).defaultValue = .real 0 := by
  have inside : low ≤ 0 ∧ 0 ≤ high := by
    simpa [contains, bounds?, Value.toReal?] using zero
  exact if_pos inside

/-- A domain with the content of an interval without a default is such an interval. -/
theorem eq_range_of_same {domain : Domain} {low high : Float}
    (alike : domain.same (.range low high none) = true) :
    ∃ low' high', domain = .range low' high' none := by
  cases domain with
  | range low' high' preset =>
    cases preset with
    | none => exact ⟨low', high', rfl⟩
    | some x => simp [same] at alike
  | _ => simp [same] at alike

end Domain

namespace Template

/-- Every slot of a deck has a name without white space at its ends and declares a well-formed
domain: a literal that is not empty, a set of at least one such literal, or an interval whose ends
are in order and hold a default of its own between them, none of them NaN. Every variable of a deck
that is read finds its default in its domain, and the default is zero for an interval that holds
zero and has no default of its own. -/
theorem domains_hold_defaults (style : MarkerStyle) (t : Text) :
    (∀ lines, scan style t = .ok lines → ∀ s ∈ Line.slots style lines,
      s.name ≠ [] ∧ Text.trim s.name = s.name ∧ s.domain.WellFormed) ∧
    ∀ template, ofText? style t = .ok template → ∀ v ∈ template.declared,
      v.domain.WellFormed ∧ v.domain.contains v.domain.defaultValue = true ∧
        ∀ low high, v.domain = .range low high none → v.domain.contains (.real 0) = true →
          v.domain.defaultValue = .real 0 := by
  have slots : ∀ lines, scan style t = .ok lines → ∀ s ∈ Line.slots style lines,
      s.name ≠ [] ∧ Text.trim s.name = s.name ∧ s.domain.WellFormed := by
    intro lines scanned s member
    obtain ⟨place, slot, rfl, -, declared⟩ := Line.exists_declared_slot scanned member
    obtain ⟨named, trimmed⟩ := declared.name_and_domain.1
    exact ⟨named, trimmed, Domain.wellFormed_of_declared declared⟩
  refine ⟨slots, fun template read v member => ?_⟩
  have wellFormed : v.domain.WellFormed := by
    rcases exists_declaring_slot read member with bare | ⟨s, slot, -, same⟩
    · rw [bare]
      exact .unconstrained
    · have reads := reads_of_ofText? read
      rw [Template.slots, reads.style_eq] at slot
      rw [← same]
      exact (slots template.lines reads.scanned s slot).2.2
  refine ⟨wellFormed, wellFormed.contains_defaultValue, fun low high isRange zero => ?_⟩
  rw [isRange] at zero ⊢
  exact Domain.defaultValue_of_contains_zero zero

/-- An interval may reach down to an infinity, and a set may begin with one. -/
theorem infinite_domains_hold_defaults :
    ∃ template : Template,
      ofText? .standard "$\x7bh~[-1e999,2]\x7d $\x7bs~\x7b1e999, off\x7d\x7d".toList =
        .ok template ∧
      (∀ s ∈ Line.slots .standard template.lines,
        s.name ≠ [] ∧ Text.trim s.name = s.name ∧ s.domain.WellFormed) ∧
      (∀ v ∈ template.declared, v.domain.contains v.domain.defaultValue = true) ∧
      ∃ v ∈ template.declared, v.name = ['h'] ∧ v.domain.contains (.int (-7)) = true ∧
        v.domain.defaultValue = .real 0 := by
  have evaluated :
      ((ofText? .standard "$\x7bh~[-1e999,2]\x7d $\x7bs~\x7b1e999, off\x7d\x7d".toList).toOption.any
        fun template => template.declared.any fun v =>
          v.name == ['h'] && v.domain.same (.range (-1 / 0) 2 none) &&
            v.domain.contains (.int (-7)) && v.domain.contains (.real 0)) = true := by
    decide +kernel
  obtain ⟨slots, declared⟩ := domains_hold_defaults .standard
    "$\x7bh~[-1e999,2]\x7d $\x7bs~\x7b1e999, off\x7d\x7d".toList
  obtain ⟨template, result, holds⟩ := (Option.any_eq_true _ _).1 evaluated
  obtain ⟨v, member, interval⟩ := List.any_eq_true.1 holds
  simp only [Bool.and_eq_true, beq_iff_eq] at interval
  obtain ⟨⟨⟨name, same⟩, seven⟩, zero⟩ := interval
  have read := (toOption_eq_some_iff _ _).1 result
  have holds := declared template read
  obtain ⟨low, high, isRange⟩ := Domain.eq_range_of_same same
  exact ⟨template, read, slots template.lines (reads_of_ofText? read).scanned,
    fun v member => (holds v member).2.1, v, member, name, seven,
    (holds v member).2.2 low high isRange zero⟩

end Template

end InputDeck
