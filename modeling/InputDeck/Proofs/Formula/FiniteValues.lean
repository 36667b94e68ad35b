import InputDeck.Proofs.Formula.Evaluation
import InputDeck.Proofs.Formula.Grammar
import InputDeck.Proofs.Value.FiniteNumbers

/-!
# Values of formulas are finite numbers

A formula is read with numbers for literals, and a name is looked up as a number or not at all. An
operation never makes text, a function gives a real number or one of its arguments back, and what is
not finite is an error where it arises. So no operator and no function ever meets text, an infinity
or NaN, whatever the names stand for. Without names that stand for no number, only a calculation
can fail.
-/

namespace InputDeck.Formula

/-! ## Parts -/

/-- The tree itself, or a part of it at any depth. -/
inductive Expr.Within (part : Expr) : Expr → Prop
  | self : Within part part
  | neg {e : Expr} (inner : part.Within e) : Within part (.neg e)
  | left (operator : Operator) {e : Expr} (other : Expr) (inner : part.Within e) :
      Within part (.binary operator e other)
  | right (operator : Operator) (other : Expr) {e : Expr} (inner : part.Within e) :
      Within part (.binary operator other e)
  | argument (function : Text) {e : Expr} {arguments : List Expr} (member : e ∈ arguments)
      (inner : part.Within e) : Within part (.call function arguments)

/-- The parts of a part are parts. -/
theorem Expr.Within.trans {first second third : Expr} (inner : first.Within second)
    (outer : second.Within third) : first.Within third := by
  induction outer with
  | self => exact inner
  | neg _ inductionHypothesis => exact .neg inductionHypothesis
  | left operator other _ inductionHypothesis => exact .left operator other inductionHypothesis
  | right operator other _ inductionHypothesis => exact .right operator other inductionHypothesis
  | argument function member _ inductionHypothesis =>
    exact .argument function member inductionHypothesis

/-- The parts of a callable tree are callable. -/
theorem Expr.Callable.within {part e : Expr} (callable : e.Callable) (within : part.Within e) :
    part.Callable := by
  induction within with
  | self => exact callable
  | neg _ inductionHypothesis =>
    cases callable with
    | neg inner => exact inductionHypothesis inner
  | left _ _ _ inductionHypothesis =>
    cases callable with
    | binary _ first _ => exact inductionHypothesis first
  | right _ _ _ inductionHypothesis =>
    cases callable with
    | binary _ _ second => exact inductionHypothesis second
  | argument _ member _ inductionHypothesis =>
    cases callable with
    | call _ each => exact inductionHypothesis (each _ member)

/-- The arguments of a row have the values in the row of their values. -/
theorem exists_value_of_mem {bindings : Bindings} {arguments : List Expr} {values : List Value}
    (evaluated : evalArguments bindings arguments = .ok values) {e : Expr}
    (member : e ∈ arguments) : ∃ v, e.eval bindings = .ok v := by
  obtain ⟨index, bound, rfl⟩ := List.getElem_of_mem member
  have row := (evalArguments_eq_ok_iff _ _ _).1 evaluated
  exact ⟨_, row.get bound (row.length_eq ▸ bound)⟩

/-- The values of a row are values of the arguments. -/
theorem exists_argument_of_mem {bindings : Bindings} {arguments : List Expr} {values : List Value}
    (evaluated : evalArguments bindings arguments = .ok values) {v : Value}
    (member : v ∈ values) : ∃ e ∈ arguments, e.eval bindings = .ok v := by
  obtain ⟨index, bound, rfl⟩ := List.getElem_of_mem member
  have row := (evalArguments_eq_ok_iff _ _ _).1 evaluated
  have bound' : index < arguments.length := row.length_eq ▸ bound
  exact ⟨_, List.getElem_mem bound', row.get bound' bound⟩

/-- A tree has a value only if its parts have values. -/
theorem Expr.Within.exists_value {part e : Expr} (within : part.Within e) {bindings : Bindings}
    {v : Value} (evaluated : e.eval bindings = .ok v) : ∃ w, part.eval bindings = .ok w := by
  induction within generalizing v with
  | self => exact ⟨v, evaluated⟩
  | neg _ inductionHypothesis =>
    obtain ⟨_, inner, _⟩ := (eval_neg_eq_ok_iff _ _ _).1 evaluated
    exact inductionHypothesis inner
  | left _ _ _ inductionHypothesis =>
    obtain ⟨_, _, first, _⟩ := (eval_binary_eq_ok_iff _ _ _ _ _).1 evaluated
    exact inductionHypothesis first
  | right _ _ _ inductionHypothesis =>
    obtain ⟨_, _, _, second, _⟩ := (eval_binary_eq_ok_iff _ _ _ _ _).1 evaluated
    exact inductionHypothesis second
  | argument _ member _ inductionHypothesis =>
    obtain ⟨_, row, _⟩ := (eval_call_eq_ok_iff _ _ _ _).1 evaluated
    obtain ⟨_, inner⟩ := exists_value_of_mem row member
    exact inductionHypothesis inner

/-! ## No text -/

/-- The literals of a formula are numbers. -/
theorem Derives.notText_literal {level : Level} {tokens : List Token} {e : Expr}
    (derives : Derives level tokens e) {v : Value} (within : (Expr.literal v).Within e) :
    v.NotText := by
  induction derives with
  | ofProduct _ inner | ofSigned _ inner | plus _ inner | ofPower _ inner | ofOperand _ inner
  | call _ _ inner | group _ inner => exact inner within
  | sum _ _ _ first second | product _ _ _ first second | raised _ _ first second =>
    cases within with
    | left _ _ inner => exact first inner
    | right _ _ inner => exact second inner
  | minus _ inner =>
    cases within with
    | neg part => exact inner part
  | whole n =>
    cases within
    exact Value.notText_int n
  | real x =>
    cases within
    exact Value.notText_real x
  | reference _ => cases within
  | argument _ _ inner =>
    cases within with
    | argument _ member part =>
      cases List.mem_singleton.1 member
      exact inner part
  | arguments _ _ first others =>
    cases within with
    | argument _ member part =>
      rcases List.mem_cons.1 member with rfl | later
      · exact first part
      · exact others (.argument _ later part)

/-- A name is looked up as a number or not at all. -/
theorem notText_of_lookUp {bindings : Bindings} {name : Text} {v : Value}
    (found : lookUp bindings name = .ok v) : v.NotText := by
  unfold lookUp at found
  split at found
  · cases found
  · split at found
    · cases found
    · rename_i numeric
      cases found
      exact Value.ne_text_of_toNumeric? numeric

/-- An operation does not give text. -/
theorem notText_of_apply {operator : Operator} {left right v : Value}
    (result : apply operator left right = .ok v) : v.NotText := by
  cases operator with
  | div =>
    unfold apply Value.div? at result
    simp only at result
    split at result
    · cases result
    · rename_i quotient divided
      cases result
      split at divided
      · cases divided
      · cases divided
        exact Value.notText_real _
  | _ =>
    cases result
    exact Value.notText_calculate _ _ _ _

/-- The absolute value is no text. -/
theorem notText_absolute (v : Value) : (absolute v).NotText := by
  unfold absolute
  split
  · split
    · exact Value.notText_int _
    · exact Value.notText_real _
  · exact Value.notText_real _

/-- A function of one argument gives no text. -/
theorem notText_of_callUnary {function : Text} {argument v : Value}
    (result : callUnary function argument = .ok v) : v.NotText := by
  unfold callUnary at result
  split at result
  · cases result
    exact notText_absolute _
  · split at result
    · cases result
      exact Value.notText_real _
    · cases result

/-- A function of two arguments gives no text for numbers: the lesser and the greater one are
arguments. -/
theorem notText_of_callBinary {function : Text} {first second v : Value}
    (firstNumber : first.NotText) (secondNumber : second.NotText)
    (result : callBinary function first second = .ok v) : v.NotText := by
  unfold callBinary at result
  split at result
  · cases result
    split <;> assumption
  · split at result
    · cases result
      split <;> assumption
    · split at result
      · cases result
        exact Value.notText_calculate _ _ _ _
      · cases result

/-- A function gives no text for numbers. -/
theorem notText_of_applyFunction {function : Text} {arguments : List Value} {v : Value}
    (numbers : ∀ w ∈ arguments, w.NotText) (result : applyFunction function arguments = .ok v) :
    v.NotText := by
  unfold applyFunction at result
  split at result
  · cases result
  · split at result
    · exact notText_of_callUnary result
    · exact notText_of_callBinary (numbers _ (by simp)) (numbers _ (by simp)) result
    · cases result

/-- A tree whose literals are numbers has no text for value. -/
theorem Expr.Callable.notText_of_eval {e : Expr} (callable : e.Callable) {bindings : Bindings}
    {v : Value} (literals : ∀ w, (Expr.literal w).Within e → w.NotText)
    (evaluated : e.eval bindings = .ok v) : v.NotText := by
  -- Operations give numbers whatever they meet; the induction is for functions, which may give an
  -- argument back.
  induction callable generalizing v with
  | literal w =>
    obtain ⟨rfl, -⟩ := (eval_literal_eq_ok_iff _ _ _).1 evaluated
    exact literals v .self
  | reference name =>
    obtain ⟨found, -⟩ := (eval_reference_eq_ok_iff _ _ _).1 evaluated
    exact notText_of_lookUp found
  | neg _ _ =>
    obtain ⟨w, _, rfl, -⟩ := (eval_neg_eq_ok_iff _ _ _).1 evaluated
    exact Value.notText_neg w
  | binary _ _ _ _ _ =>
    obtain ⟨_, _, _, _, result, -⟩ := (eval_binary_eq_ok_iff _ _ _ _ _).1 evaluated
    exact notText_of_apply result
  | call _ _ inductionHypothesis =>
    obtain ⟨values, row, result, -⟩ := (eval_call_eq_ok_iff _ _ _ _).1 evaluated
    refine notText_of_applyFunction ?_ result
    intro w inRow
    obtain ⟨argument, member, value⟩ := exists_argument_of_mem row inRow
    exact inductionHypothesis argument member
      (fun u within => literals u (.argument _ member within)) value

/-! ## Finite numbers -/

/-- A part of a formula has a finite number for value, if it has a value. -/
theorem finiteNumber_of_eval {t : Text} {e part : Expr} (read : parse t = .ok e)
    (within : part.Within e) {bindings : Bindings} {v : Value}
    (evaluated : part.eval bindings = .ok v) : v.FiniteNumber := by
  have callable := (callable_of_parse read).within within
  have literals : ∀ w, (Expr.literal w).Within part → w.NotText := by
    intro w inPart
    unfold parse at read
    split at read
    · cases read
    · have derives := (ofTokens?_eq_ok_iff_derives _ _).1 read
      exact derives.notText_literal (inPart.trans within)
  exact (Value.finiteNumber_iff v).2
    ⟨callable.notText_of_eval literals evaluated, isNonFinite_of_eval evaluated⟩

/-- The value of a formula that reads is that of its tree. -/
theorem evaluate_of_parse {t : Text} {e : Expr} (read : parse t = .ok e) (bindings : Bindings) :
    evaluate t bindings = e.eval bindings := by
  rw [evaluate, read]

/-- Only a formula that does not read is malformed. -/
theorem exists_tree_of_evaluate {t : Text} {bindings : Bindings}
    {outcome : Except EvalError Value} (evaluated : evaluate t bindings = outcome)
    (wellFormed : ∀ fault, outcome ≠ .error (.malformed fault)) :
    ∃ e, parse t = .ok e ∧ e.eval bindings = outcome := by
  unfold evaluate at evaluated
  split at evaluated
  · exact absurd evaluated.symm (wellFormed _)
  · rename_i e read
    exact ⟨e, read, evaluated⟩

/-- What keeps a formula that reads from having a value. -/
theorem blames_of_evaluate {t : Text} {e : Expr} {bindings : Bindings} {cause : EvalError}
    (read : parse t = .ok e) (failed : e.eval bindings = .error cause) :
    Blames bindings e.references cause := by
  refine ((callable_of_parse read).blames failed).mono ?_
  intro name named
  exact List.mem_eraseDups.2 named

/-- Whatever the names stand for, text, infinities and NaN included: a formula that has a value has
a finite number for value, and so has each of its parts; in a formula without value so has each
part that has a value. When every name of a formula stands for a number, or for text that looks
like one, only a calculation fails. A name is reported as unbound, or as standing for text that
looks like no number, when it is a name of the formula and this is so. -/
theorem formula_values_are_finite_numbers (t : Text) (bindings : Bindings) :
    (∀ v, evaluate t bindings = .ok v → v.FiniteNumber ∧ ∃ e, parse t = .ok e ∧
      ∀ part : Expr, part.Within e → ∃ w, part.eval bindings = .ok w ∧ w.FiniteNumber) ∧
    (∀ e, parse t = .ok e →
      (∀ (part : Expr) (w : Value), part.Within e → part.eval bindings = .ok w →
        w.FiniteNumber) ∧
      ((∀ name ∈ e.references, ∃ number, (bindings name).bind Value.toNumeric? = some number) →
        ∀ cause, evaluate t bindings = .error cause → ∃ fault, cause = .arithmetic fault)) ∧
    (∀ name, evaluate t bindings = .error (.unbound name) →
      ∃ e, parse t = .ok e ∧ name ∈ e.references ∧ bindings name = none) ∧
    ∀ name content, evaluate t bindings = .error (.nonNumeric name content) →
      ∃ e, parse t = .ok e ∧ name ∈ e.references ∧ bindings name = some (.text content) ∧
        (Value.text content).toNumeric? = none := by
  refine ⟨?values, ?trees, ?unbound, ?nonNumeric⟩
  case values =>
    intro v evaluated
    obtain ⟨e, read, value⟩ := exists_tree_of_evaluate evaluated (by simp)
    refine ⟨finiteNumber_of_eval read .self value, e, read, ?_⟩
    intro part within
    obtain ⟨w, partValue⟩ := within.exists_value value
    exact ⟨w, partValue, finiteNumber_of_eval read within partValue⟩
  case trees =>
    intro e read
    refine ⟨fun part w within => finiteNumber_of_eval read within, ?_⟩
    intro numeric cause failed
    rw [evaluate_of_parse read] at failed
    cases blames_of_evaluate read failed with
    | arithmetic fault => exact ⟨fault, rfl⟩
    | unbound named missing =>
      obtain ⟨number, found⟩ := numeric _ named
      simp [missing] at found
    | nonNumeric named bound noNumber =>
      obtain ⟨number, found⟩ := numeric _ named
      simp [bound, noNumber] at found
  case unbound =>
    intro name failed
    obtain ⟨e, read, value⟩ := exists_tree_of_evaluate failed (by simp)
    cases blames_of_evaluate read value with
    | unbound named missing => exact ⟨e, read, named, missing⟩
  case nonNumeric =>
    intro name content failed
    obtain ⟨e, read, value⟩ := exists_tree_of_evaluate failed (by simp)
    cases blames_of_evaluate read value with
    | nonNumeric named bound noNumber => exact ⟨e, read, named, bound, noNumber⟩

/-- A name that the value would not need is still reported when it stands for no number. -/
example :
    evaluate "0 * rate".toList (Bindings.ofList [("rate".toList, .text "high".toList)]) =
      .error (.nonNumeric "rate".toList "high".toList) := by
  decide +kernel

end InputDeck.Formula
