import Mathlib.Data.List.Forall2
import InputDeck.Formula.Eval
import InputDeck.Proofs.Formula.Exchange

/-!
# What the value of a formula depends on

The value of a formula depends on what its names are bound to and on nothing else. A formula that
reads calls known functions with as many arguments as they take, so its evaluation never finds it
malformed. It fails with a name of the formula that is bound to nothing, with a name that stands
for text, or with a calculation without finite result.
-/

namespace InputDeck.Formula

/-- Every call in the tree is of a known function with as many arguments as it takes. -/
inductive Expr.Callable : Expr → Prop
  | literal (v : Value) : Callable (.literal v)
  | reference (name : Text) : Callable (.reference name)
  | neg {e : Expr} (inner : e.Callable) : Callable (.neg e)
  | binary (operator : Operator) {left right : Expr} (first : left.Callable)
      (second : right.Callable) : Callable (.binary operator left right)
  | call {function : Text} {arguments : List Expr}
      (known : arity? function = some arguments.length)
      (each : ∀ e ∈ arguments, e.Callable) : Callable (.call function arguments)

/-- What is callable in the tree of a phrase: for the arguments of a call, each of them. -/
def Phrase.Callable : Phrase → Expr → Prop
  | .arguments _, e => ∃ function arguments, e = .call function arguments ∧
      ∀ argument ∈ arguments, argument.Callable
  | .argumentsTail _ _, e => ∃ function arguments, e = .call function arguments ∧
      ∀ argument ∈ arguments, argument.Callable
  | _, e => e.Callable

/-- What has been read of a phrase is callable. -/
def Phrase.BeginsCallable : Phrase → Prop
  | .sumTail left => left.Callable
  | .productTail left => left.Callable
  | .argumentsTail _ reversed => ∀ e ∈ reversed, e.Callable
  | _ => True

/-- Trees that are read are callable. -/
theorem callable_of_reads {phrase : Phrase} {tokens behind : List Token} {e : Expr}
    (reads : Reads phrase tokens e behind) (begins : phrase.BeginsCallable) :
    phrase.Callable e := by
  induction reads with
  | sum _ _ headCallable tailCallable => exact tailCallable (headCallable trivial)
  | sumStop _ => exact begins
  | sumMore _ _ _ headCallable tailCallable =>
    exact tailCallable (.binary _ begins (headCallable trivial))
  | product _ _ headCallable tailCallable => exact tailCallable (headCallable trivial)
  | productStop _ => exact begins
  | productMore _ _ _ headCallable tailCallable =>
    exact tailCallable (.binary _ begins (headCallable trivial))
  | minus _ innerCallable => exact .neg (innerCallable trivial)
  | plus _ innerCallable => exact innerCallable trivial
  | unsigned _ _ innerCallable => exact innerCallable trivial
  | raised _ _ headCallable innerCallable =>
    exact .binary _ (headCallable trivial) (innerCallable trivial)
  | unraised _ _ headCallable => exact headCallable trivial
  | whole n after => exact .literal _
  | real x after => exact .literal _
  | reference _ => exact .reference _
  | call _ known innerCallable =>
    obtain ⟨_, _, same, each⟩ := innerCallable trivial
    cases same
    exact .call known each
  | group _ innerCallable => exact innerCallable trivial
  | noArguments function after => exact ⟨function, [], rfl, by simp⟩
  | someArguments _ _ _ headCallable tailCallable =>
    exact tailCallable (List.forall_mem_singleton.2 (headCallable trivial))
  | nextArgument _ _ headCallable tailCallable =>
    exact tailCallable (List.forall_mem_cons.2 ⟨headCallable trivial, begins⟩)
  | lastArgument function reversed after =>
    refine ⟨function, reversed.reverse, rfl, ?_⟩
    intro e member
    exact begins e (List.mem_reverse.1 member)

/-- A formula that reads is callable. -/
theorem callable_of_parse {t : Text} {e : Expr} (read : parse t = .ok e) : e.Callable := by
  unfold parse at read
  split at read
  · cases read
  · exact callable_of_reads ((ofTokens?_eq_ok_iff _ _).1 read) trivial

/-- A function is listed with the number of arguments it takes. -/
theorem listed_of_arity? {function : Text} {expected : Nat}
    (known : arity? function = some expected) :
    (expected = 1 ∧ ∃ name ∈ unaryFunctions, name.toList = function) ∨
      expected = 2 ∧ ∃ name ∈ binaryFunctions, name.toList = function := by
  unfold arity? at known
  split at known
  · rename_i unary
    cases known
    exact .inl ⟨rfl, by simpa using unary⟩
  · split at known
    · rename_i binary
      cases known
      exact .inr ⟨rfl, by simpa using binary⟩
    · cases known

/-- Functions of one argument have results. -/
theorem callUnary_eq_ok (argument : Value) :
    ∀ name ∈ unaryFunctions, ∃ v, callUnary name.toList argument = .ok v := by
  simp only [unaryFunctions, List.forall_mem_cons, List.not_mem_nil, false_imp_iff, implies_true,
    and_true]
  exact ⟨⟨_, rfl⟩, ⟨_, rfl⟩, ⟨_, rfl⟩, ⟨_, rfl⟩, ⟨_, rfl⟩, ⟨_, rfl⟩, ⟨_, rfl⟩, ⟨_, rfl⟩,
    ⟨_, rfl⟩⟩

/-- Functions of two arguments have results. -/
theorem callBinary_eq_ok (first second : Value) :
    ∀ name ∈ binaryFunctions, ∃ v, callBinary name.toList first second = .ok v := by
  simp only [binaryFunctions, List.forall_mem_cons, List.not_mem_nil, false_imp_iff, implies_true,
    and_true]
  exact ⟨⟨_, rfl⟩, ⟨_, rfl⟩, ⟨_, rfl⟩⟩

/-- A known function with as many arguments as it takes has a result. -/
theorem applyFunction_eq_ok {function : Text} {arguments : List Value}
    (known : arity? function = some arguments.length) :
    ∃ v, applyFunction function arguments = .ok v := by
  rcases listed_of_arity? known with ⟨one, name, listed, rfl⟩ | ⟨two, name, listed, rfl⟩
  · obtain ⟨argument, rfl⟩ := List.length_eq_one_iff.1 one
    obtain ⟨v, result⟩ := callUnary_eq_ok argument name listed
    exact ⟨v, by rw [applyFunction, known]; exact result⟩
  · obtain ⟨first, second, rfl⟩ := List.length_eq_two.1 two
    obtain ⟨v, result⟩ := callBinary_eq_ok first second name listed
    exact ⟨v, by rw [applyFunction, known]; exact result⟩

/-- A row of arguments has the values of the arguments. -/
theorem evalArguments_eq_ok_iff (bindings : Bindings) (arguments : List Expr)
    (values : List Value) :
    evalArguments bindings arguments = .ok values ↔
      List.Forall₂ (fun e v => e.eval bindings = .ok v) arguments values := by
  induction arguments generalizing values with
  | nil => simp [evalArguments, @eq_comm _ _ values]
  | cons first rest inductionHypothesis =>
    rw [List.forall₂_cons_left_iff, evalArguments]
    simp only [← inductionHypothesis]
    cases first.eval bindings with
    | error cause => simp
    | ok v =>
      cases evalArguments bindings rest with
      | error cause => simp
      | ok later => simp [eq_comm]

/-- As many values as arguments. -/
theorem length_of_evalArguments {bindings : Bindings} {arguments : List Expr} {values : List Value}
    (evaluated : evalArguments bindings arguments = .ok values) :
    values.length = arguments.length :=
  ((evalArguments_eq_ok_iff _ _ _).1 evaluated).length_eq.symm

/-- A row of arguments fails with one of the arguments. -/
theorem exists_of_evalArguments {bindings : Bindings} {arguments : List Expr} {cause : EvalError}
    (failed : evalArguments bindings arguments = .error cause) :
    ∃ e ∈ arguments, e.eval bindings = .error cause := by
  induction arguments with
  | nil => cases failed
  | cons first rest inductionHypothesis =>
    unfold evalArguments at failed
    split at failed
    · rename_i firstFailed
      cases failed
      exact ⟨first, List.mem_cons_self, firstFailed⟩
    · split at failed
      · rename_i laterFailed
        cases failed
        obtain ⟨e, member, eFailed⟩ := inductionHypothesis laterFailed
        exact ⟨e, List.mem_cons_of_mem _ member, eFailed⟩
      · cases failed

/-- The names of an argument are names of the arguments. -/
theorem mem_argumentNames {name : Text} {e : Expr} {arguments : List Expr}
    (member : e ∈ arguments) (named : name ∈ e.names) : name ∈ argumentNames arguments := by
  induction arguments with
  | nil => cases member
  | cons first rest inductionHypothesis =>
    rw [argumentNames, List.mem_append]
    rcases List.mem_cons.1 member with rfl | later
    · exact .inl named
    · exact .inr (inductionHypothesis later)

mutual

/-- Bindings that agree on the names in a tree give it the same value. -/
theorem Expr.eval_congr {bindings bindings' : Bindings} :
    (e : Expr) → (∀ name ∈ e.names, bindings name = bindings' name) →
      e.eval bindings = e.eval bindings'
  | .literal _, _ => by rw [Expr.eval, Expr.eval]
  | .reference name, agree => by
    have same := agree name (List.mem_singleton_self name)
    simp only [Expr.eval, lookUp, same]
  | .neg operand, agree => by
    have inner := operand.eval_congr agree
    simp only [Expr.eval, inner]
  | .binary _ left right, agree => by
    have first := left.eval_congr fun name named =>
      agree name (List.mem_append_left right.names named)
    have second := right.eval_congr fun name named =>
      agree name (List.mem_append_right left.names named)
    simp only [Expr.eval, first, second]
  | .call _ arguments, agree => by
    have inner := evalArguments_congr arguments agree
    simp only [Expr.eval, inner]

/-- Bindings that agree on the names in a row of arguments give them the same values. -/
theorem evalArguments_congr {bindings bindings' : Bindings} :
    (arguments : List Expr) → (∀ name ∈ argumentNames arguments, bindings name = bindings' name) →
      evalArguments bindings arguments = evalArguments bindings' arguments
  | [], _ => rfl
  | first :: rest, agree => by
    have here := first.eval_congr fun name named =>
      agree name (List.mem_append_left (argumentNames rest) named)
    have later := evalArguments_congr rest fun name named =>
      agree name (List.mem_append_right first.names named)
    simp only [evalArguments, here, later]

end

/-! ## Values -/

/-- What passes as finite is the value itself, neither an infinity nor NaN. -/
theorem finite_eq_ok_iff (v w : Value) :
    finite v = .ok w ↔ w = v ∧ v.isNonFinite = false := by
  unfold finite
  split
  · rename_i nonFinite
    simp [nonFinite]
  · rename_i isFinite
    simp [Bool.eq_false_iff.2 isFinite, eq_comm]

namespace Expr

variable (bindings : Bindings) (v : Value)

/-- A literal has itself for value. -/
theorem eval_literal_eq_ok_iff (w : Value) :
    (literal w).eval bindings = .ok v ↔ v = w ∧ w.isNonFinite = false := by
  rw [eval, finite_eq_ok_iff]

/-- A name has the number for value that it stands for. -/
theorem eval_reference_eq_ok_iff (name : Text) :
    (reference name).eval bindings = .ok v ↔
      lookUp bindings name = .ok v ∧ v.isNonFinite = false := by
  rw [eval]
  cases lookUp bindings name with
  | error cause => simp
  | ok found =>
    simp only [finite_eq_ok_iff, Except.ok.injEq]
    constructor
    · rintro ⟨rfl, isFinite⟩
      exact ⟨rfl, isFinite⟩
    · rintro ⟨rfl, isFinite⟩
      exact ⟨rfl, isFinite⟩

/-- An opposite has the opposite of the value of its operand. -/
theorem eval_neg_eq_ok_iff (operand : Expr) :
    (neg operand).eval bindings = .ok v ↔
      ∃ w, operand.eval bindings = .ok w ∧ v = w.neg ∧ v.isNonFinite = false := by
  rw [eval]
  cases operand.eval bindings with
  | error cause => simp
  | ok w =>
    simp only [finite_eq_ok_iff, Except.ok.injEq, exists_eq_left']
    exact and_congr_right fun same => by rw [same]

/-- An operation has the result for value that the values of its operands have. -/
theorem eval_binary_eq_ok_iff (operator : Operator) (left right : Expr) :
    (binary operator left right).eval bindings = .ok v ↔
      ∃ first second, left.eval bindings = .ok first ∧ right.eval bindings = .ok second ∧
        apply operator first second = .ok v ∧ v.isNonFinite = false := by
  rw [eval]
  cases left.eval bindings with
  | error cause => simp
  | ok first =>
    cases right.eval bindings with
    | error cause => simp
    | ok second =>
      simp only [Except.ok.injEq, exists_and_left, exists_eq_left']
      cases apply operator first second with
      | error cause => simp
      | ok w =>
        simp only [finite_eq_ok_iff, Except.ok.injEq, @eq_comm _ w v]
        exact and_congr_right fun same => by rw [same]

/-- A call has the result for value that the values of its arguments have. -/
theorem eval_call_eq_ok_iff (function : Text) (arguments : List Expr) :
    (call function arguments).eval bindings = .ok v ↔
      ∃ values, evalArguments bindings arguments = .ok values ∧
        applyFunction function values = .ok v ∧ v.isNonFinite = false := by
  rw [eval]
  cases evalArguments bindings arguments with
  | error cause => simp
  | ok values =>
    simp only [Except.ok.injEq, exists_eq_left']
    cases applyFunction function values with
    | error cause => simp
    | ok w =>
      simp only [finite_eq_ok_iff, Except.ok.injEq, @eq_comm _ w v]
      exact and_congr_right fun same => by rw [same]

end Expr

/-- The value of a tree is neither an infinity nor NaN. -/
theorem isNonFinite_of_eval {bindings : Bindings} {e : Expr} {v : Value}
    (evaluated : e.eval bindings = .ok v) : v.isNonFinite = false := by
  cases e with
  | literal w =>
    obtain ⟨rfl, isFinite⟩ := (Expr.eval_literal_eq_ok_iff _ _ _).1 evaluated
    exact isFinite
  | reference name => exact ((Expr.eval_reference_eq_ok_iff _ _ _).1 evaluated).2
  | neg operand =>
    obtain ⟨_, _, _, isFinite⟩ := (Expr.eval_neg_eq_ok_iff _ _ _).1 evaluated
    exact isFinite
  | binary operator left right =>
    obtain ⟨_, _, _, _, _, isFinite⟩ := (Expr.eval_binary_eq_ok_iff _ _ _ _ _).1 evaluated
    exact isFinite
  | call function arguments =>
    obtain ⟨_, _, _, isFinite⟩ := (Expr.eval_call_eq_ok_iff _ _ _ _).1 evaluated
    exact isFinite

/-- The value of a formula is neither an infinity nor NaN. -/
theorem isNonFinite_of_evaluate {bindings : Bindings} {t : Text} {v : Value}
    (evaluated : evaluate t bindings = .ok v) : v.isNonFinite = false := by
  unfold evaluate at evaluated
  split at evaluated
  · cases evaluated
  · exact isNonFinite_of_eval evaluated

/-! ## Failures -/

/-- Why a tree with these names has no value: a calculation, one of the names that is bound to
nothing, or one that is bound to text that looks like no number. -/
inductive Blames (bindings : Bindings) (names : List Text) : EvalError → Prop
  | arithmetic (fault : ArithmeticError) : Blames bindings names (.arithmetic fault)
  | unbound {name : Text} (named : name ∈ names) (missing : bindings name = none) :
      Blames bindings names (.unbound name)
  | nonNumeric {name content : Text} (named : name ∈ names)
      (bound : bindings name = some (.text content))
      (noNumber : (Value.text content).toNumeric? = none) :
      Blames bindings names (.nonNumeric name content)

/-- With more names there is more to blame. -/
theorem Blames.mono {bindings : Bindings} {names more : List Text} {cause : EvalError}
    (blames : Blames bindings names cause) (subset : ∀ name ∈ names, name ∈ more) :
    Blames bindings more cause := by
  cases blames with
  | arithmetic fault => exact .arithmetic fault
  | unbound named missing => exact .unbound (subset _ named) missing
  | nonNumeric named bound noNumber => exact .nonNumeric (subset _ named) bound noNumber

/-- Only a calculation makes a value not finite. -/
theorem blames_of_finite {bindings : Bindings} {names : List Text} {v : Value}
    {cause : EvalError} (failed : finite v = .error cause) : Blames bindings names cause := by
  unfold finite at failed
  split at failed
  · cases failed
    exact .arithmetic _
  · cases failed

/-- A name fails when it is bound to nothing or to text that looks like no number. -/
theorem blames_of_lookUp {bindings : Bindings} {name : Text} {cause : EvalError}
    (failed : lookUp bindings name = .error cause) : Blames bindings [name] cause := by
  have named := List.mem_singleton_self name
  unfold lookUp at failed
  split at failed
  · rename_i missing
    cases failed
    exact .unbound named missing
  · rename_i v bound
    split at failed
    · rename_i noNumber
      cases failed
      cases v with
      | int n => cases noNumber
      | real x => cases noNumber
      | text content => exact .nonNumeric named bound noNumber
    · cases failed

/-- An operation fails only as a calculation. -/
theorem blames_of_apply {bindings : Bindings} {names : List Text} {operator : Operator}
    {left right : Value} {cause : EvalError} (failed : apply operator left right = .error cause) :
    Blames bindings names cause := by
  cases operator with
  | div =>
    unfold apply at failed
    simp only at failed
    split at failed
    · cases failed
      exact .arithmetic _
    · cases failed
  | _ => cases failed

/-- The failure of a callable tree is blamed on its names or on a calculation. -/
theorem Expr.Callable.blames {e : Expr} (callable : e.Callable) {bindings : Bindings}
    {cause : EvalError} (failed : e.eval bindings = .error cause) :
    Blames bindings e.names cause := by
  induction callable generalizing cause with
  | literal v => exact blames_of_finite failed
  | reference name =>
    unfold Expr.eval at failed
    split at failed
    · rename_i lookUpFailed
      cases failed
      exact blames_of_lookUp lookUpFailed
    · exact blames_of_finite failed
  | neg _ innerBlames =>
    unfold Expr.eval at failed
    split at failed
    · rename_i innerFailed
      cases failed
      exact innerBlames innerFailed
    · exact blames_of_finite failed
  | binary operator _ _ firstBlames secondBlames =>
    unfold Expr.eval at failed
    split at failed
    · rename_i firstFailed
      cases failed
      exact (firstBlames firstFailed).mono fun _ => List.mem_append_left _
    · split at failed
      · rename_i secondFailed
        cases failed
        exact (secondBlames secondFailed).mono fun _ => List.mem_append_right _
      · split at failed
        · rename_i applyFailed
          cases failed
          exact blames_of_apply applyFailed
        · exact blames_of_finite failed
  | @call function arguments known _ eachBlames =>
    unfold Expr.eval at failed
    split at failed
    · rename_i argumentsFailed
      cases failed
      obtain ⟨e, member, eFailed⟩ := exists_of_evalArguments argumentsFailed
      exact (eachBlames e member eFailed).mono fun _ => mem_argumentNames member
    · rename_i values evaluated
      rw [← length_of_evalArguments evaluated] at known
      obtain ⟨v, result⟩ := applyFunction_eq_ok known
      rw [result] at failed
      exact blames_of_finite failed

/-- Why a formula with these names has no value, where slots may stand for text as well: a
calculation, a name that stands for text, or one of the names that is bound to nothing. -/
inductive Explains (bindings : Bindings) (names : List Text) : EvalError → Prop
  | arithmetic (fault : ArithmeticError) : Explains bindings names (.arithmetic fault)
  | nonNumeric (name content : Text) : Explains bindings names (.nonNumeric name content)
  | unbound {name : Text} (named : name ∈ names) (missing : bindings name = none) :
      Explains bindings names (.unbound name)

/-- What is blamed on names explains a failure. -/
theorem Blames.explains {bindings : Bindings} {names : List Text} {cause : EvalError}
    (blames : Blames bindings names cause) : Explains bindings names cause := by
  cases blames with
  | arithmetic fault => exact .arithmetic fault
  | unbound named missing => exact .unbound named missing
  | nonNumeric named bound noNumber => exact .nonNumeric _ _

end InputDeck.Formula
