import InputDeck.Proofs.Formula.Evaluation
import InputDeck.Proofs.Template.Filling
import InputDeck.Proofs.Template.Substitution

/-!
# Why compiling a template fails

Reading a template has checked its markers, its declarations and, with zeros in the place of the
slots, its formulas. Nothing of this can go wrong again when the template is compiled: what fails
then is a variable or a name without a value, text where a number is needed, or a calculation.
-/

namespace InputDeck

namespace Piece

/-- A formula that reads with zeros in the place of its slots has a value, or its values explain
why it has none. -/
theorem explains_of_evaluate {resolved : List (Text × Value)} {bindings : Bindings}
    {parts : List Part} {e : Formula.Expr} {cause : Formula.EvalError}
    (readable : Piece.checked parts = .ok e)
    (failed : evaluate resolved bindings parts = .error cause) :
    Formula.Explains ((Bindings.ofList resolved).layered bindings) e.names cause := by
  unfold evaluate at failed
  simp only at failed
  split at failed
  · rename_i fillFailed
    cases failed
    obtain ⟨s, -, slotFailed⟩ := exists_slot_of_fill fillFailed
    rcases cause_of_fillNumber slotFailed with ⟨fault, rfl⟩ | ⟨name, content, rfl⟩
    · exact .arithmetic fault
    · exact .nonNumeric name content
  · rename_i t filled
    obtain ⟨filledTree, read, sameNames⟩ := parse_of_checked readable filled
    rw [Formula.evaluate, read] at failed
    rw [← sameNames]
    exact ((Formula.callable_of_parse read).blames failed).explains

/-- The only pieces that fail are formulas. -/
theorem exists_formula_of_failure? {style : MarkerStyle} {number : Nat}
    {resolved : List (Text × Value)} {bindings : Bindings} {piece : Piece} {error : TemplateError}
    (failed : failure? (piece.compiled? style number resolved bindings) = some error) :
    ∃ parts cause, piece = .formula parts ∧ evaluate resolved bindings parts = .error cause ∧
      error = Template.formulaError style number parts cause := by
  cases piece with
  | char c => cases failed
  | slot s => cases failed
  | formula parts =>
    simp only [compiled?] at failed
    cases evaluated : evaluate resolved bindings parts with
    | error cause =>
      rw [evaluated] at failed
      cases failed
      exact ⟨parts, cause, rfl, evaluated, rfl⟩
    | ok v =>
      rw [evaluated] at failed
      cases failed

end Piece

namespace Template

variable {style : MarkerStyle} {t : Text} {template : Template} {useDefaults : Bool}
  {bindings : Bindings} {resolved : List (Text × Value)} {error : TemplateError}

/-- Every formula of a template that has been read reads with zeros in the place of its slots. -/
theorem Reads.readable (reads : template.Reads style t) {place : Position} {parts : List Part}
    (member : (place, .formula parts) ∈ template.located) : ∃ e, Piece.checked parts = .ok e := by
  obtain ⟨earlier, line, later, before, after, lines, pieces, -⟩ :=
    (Line.mem_located_iff _ _ _ _ _ _).1 member
  exact reads.checked line (by rw [lines]; simp) parts (by rw [pieces]; simp)

/-- With its variables resolved, a template that has been read fails with a formula, for a reason
that the values of the formula explain. -/
theorem Reads.exists_formula_of_compile (reads : template.Reads style t)
    (done : template.resolve useDefaults bindings = .ok resolved)
    (failed : template.compile useDefaults bindings = .error error) :
    ∃ place parts e cause, (place, .formula parts) ∈ template.located ∧
      Piece.checked parts = .ok e ∧
      error = formulaError template.style place.line parts cause ∧
      Formula.Explains ((Bindings.ofList resolved).layered bindings) e.names cause := by
  rw [compile_eq done] at failed
  cases first : template.located.findSome? (fun found =>
      failure? (found.2.compiled? template.style found.1.line resolved bindings)) with
  | none =>
    rw [first] at failed
    cases failed
  | some firstError =>
    rw [first] at failed
    cases failed
    obtain ⟨⟨place, piece⟩, member, pieceFailed⟩ := List.exists_of_findSome?_eq_some first
    obtain ⟨parts, cause, rfl, evaluateFailed, rfl⟩ := Piece.exists_formula_of_failure? pieceFailed
    obtain ⟨e, readable⟩ := reads.readable member
    exact ⟨place, parts, e, cause, member, readable, rfl,
      Piece.explains_of_evaluate readable evaluateFailed⟩

/-- A template that has been read compiles, or has a variable or a name without a value, or one of
its formulas meets text or cannot be calculated. -/
theorem Reads.compile_cases (reads : template.Reads style t) (useDefaults : Bool)
    (bindings : Bindings) :
    (∃ out, template.compile useDefaults bindings = .ok out) ∨
      (∃ name, template.compile useDefaults bindings = .error (.unresolved name)) ∨
      ∃ f ∈ template.formulas, ∃ cause,
        template.compile useDefaults bindings = .error (.formula f.expression f.line cause) ∧
        ((∃ fault, cause = .arithmetic fault) ∨
          ∃ name content, cause = .nonNumeric name content) := by
  cases compiled : template.compile useDefaults bindings with
  | ok out => exact .inl ⟨out, rfl⟩
  | error error =>
    apply Or.inr
    cases done : template.resolve useDefaults bindings with
    | error resolveError =>
      rw [compile, done] at compiled
      cases compiled
      obtain ⟨name, rfl⟩ := unresolved_of_resolveAll done
      exact .inl ⟨name, rfl⟩
    | ok resolved =>
      obtain ⟨place, parts, e, cause, member, -, rfl, explains⟩ :=
        reads.exists_formula_of_compile done compiled
      have formulaMember := formulaOccurrence_mem member
      cases explains with
      | unbound named missing => exact .inl ⟨_, rfl⟩
      | arithmetic fault =>
        exact .inr ⟨_, formulaMember, _, rfl, .inl ⟨fault, rfl⟩⟩
      | nonNumeric name content =>
        exact .inr ⟨_, formulaMember, _, rfl, .inr ⟨name, content, rfl⟩⟩

/-- With defaults only a name of a formula can be without a value, and it is bound to nothing. -/
theorem Reads.unbound_of_unresolved (reads : template.Reads style t) {name : Text}
    (failed : template.compile true bindings = .error (.unresolved name)) :
    name ∉ Variable.names template.declared ∧ bindings name = none ∧
      ∃ place parts e, (place, .formula parts) ∈ template.located ∧
        Piece.checked parts = .ok e ∧ name ∈ e.references := by
  obtain ⟨resolved, done⟩ := resolveAll_defaults bindings template.declared
  obtain ⟨place, parts, e, cause, member, readable, same, explains⟩ :=
    reads.exists_formula_of_compile done failed
  cases explains with
  | arithmetic fault => cases same
  | nonNumeric other content => cases same
  | unbound named missing =>
    cases same
    obtain ⟨unresolved, unbound⟩ := Option.or_eq_none_iff.1 missing
    have undeclared : name ∉ Variable.names template.declared := by
      intro declared
      obtain ⟨v, listed⟩ := exists_resolved done declared
      rw [listed] at unresolved
      cases unresolved
    have referenced : name ∈ e.references := List.mem_eraseDups.2 named
    exact ⟨undeclared, unbound, place, parts, e, member, readable, referenced⟩

/-- Once a template has been read, values are all that can keep it from being compiled: a variable
or a name without one, text where a number is needed, or a calculation. The check with zeros in the
place of the slots is enough for every number that may come there. With defaults, what has no value
is a name that stands in a formula and is neither a variable nor bound. -/
theorem compile_fails_on_values {style : MarkerStyle} {t : Text} {template : Template}
    (read : ofText? style t = .ok template) (bindings : Bindings) :
    (∀ useDefaults,
      (∃ out, template.compile useDefaults bindings = .ok out) ∨
      (∃ name, template.compile useDefaults bindings = .error (.unresolved name)) ∨
      ∃ f ∈ template.formulas, ∃ cause,
        template.compile useDefaults bindings = .error (.formula f.expression f.line cause) ∧
        ((∃ fault, cause = .arithmetic fault) ∨
          ∃ name content, cause = .nonNumeric name content)) ∧
    (∀ place parts, (place, .formula parts) ∈ template.located →
      ∀ (values : Text → Value) filled,
        Piece.fill (fun name => Piece.fillNumber name (values name)) parts =
          .ok filled →
        ∃ e, Formula.parse (Text.trim filled) = .ok e) ∧
    ∀ name, template.compile true bindings = .error (.unresolved name) →
      name ∉ Variable.names template.declared ∧ bindings name = none ∧
        ∃ place parts e, (place, .formula parts) ∈ template.located ∧
          Piece.checked parts = .ok e ∧ name ∈ e.references := by
  have reads := reads_of_ofText? read
  refine ⟨?_, ?_, ?_⟩
  · intro useDefaults
    exact reads.compile_cases useDefaults bindings
  · intro place parts member values filled done
    obtain ⟨zeros, readable⟩ := reads.readable member
    obtain ⟨e, readNumbers, -⟩ := Piece.parse_of_checked readable done
    exact ⟨e, readNumbers⟩
  · intro name failed
    exact reads.unbound_of_unresolved failed

/-- A name beside a slot is missed only when the deck is compiled. -/
theorem unbound_name_in_deck :
    ∃ template : Template,
      ofText? .standard "@\x7b$\x7br\x7d*k\x7d".toList = .ok template ∧
      template.compile true .none = .error (.unresolved ['k']) ∧
      ['k'] ∉ Variable.names template.declared ∧
      ∃ e, Formula.parse "(-5)*k".toList = .ok e := by
  have deck : ∃ template : Template,
      ofText? .standard "@\x7b$\x7br\x7d*k\x7d".toList = .ok template ∧
      template.compile true .none = .error (.unresolved ['k']) ∧
      template.located =
        [(⟨0, 1, 1⟩, .formula [.slot ⟨['r'], ['r'], .unconstrained⟩, .char '*', .char 'k'])] :=
    ⟨⟨.standard,
      [⟨[.formula [.slot ⟨['r'], ['r'], .unconstrained⟩, .char '*', .char 'k']], []⟩],
      [⟨['r'], .unconstrained, 1⟩], []⟩, by decide +kernel, by decide +kernel, by decide +kernel⟩
  obtain ⟨template, read, failed, located⟩ := deck
  obtain ⟨-, reparses, unbound⟩ := compile_fails_on_values read .none
  refine ⟨template, read, failed, (unbound _ failed).1, ?_⟩
  exact reparses _ _ (by rw [located]; exact List.mem_singleton_self _)
    (fun _ => .int (-5)) "(-5)*k".toList (by decide +kernel)

end Template

end InputDeck
