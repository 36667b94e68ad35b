import InputDeck.Proofs.Formula.FiniteValues
import InputDeck.Proofs.Formula.Numbers
import InputDeck.Proofs.Value.WholeNumbers

/-!
# Formulas of whole numbers

A formula of whole numbers, sums, differences, products, opposites and absolute values has an exact
value among the integers. If it evaluates to a whole number, that is the exact value; and it does
exactly if no part of it has an exact value out of the range of words. Where some part has, the
calculation goes on with real numbers and never comes back to whole ones.
-/

namespace InputDeck.Formula

/-- The operation on integers that an operator stands for, where the result is an integer. -/
def Operator.onIntegers? : Operator → Option (Int → Int → Int)
  | .add => some (· + ·)
  | .sub => some (· - ·)
  | .mul => some (· * ·)
  | .div | .pow => none

/-- The exact value of a formula of whole numbers, wherever it lies. A numeral that is too long for
a word has the value of its digits, though the tree holds a real number in its place. -/
inductive Expr.Exact (bindings : Bindings) : Expr → Int → Prop
  | whole (n : Int64) : Exact bindings (.literal (.int n)) n.toInt
  | large {digits : Text} {x : Float} (allDigits : Numeral.Digits digits)
      (token : numberToken ⟨digits, none, none⟩ = .real x) :
      Exact bindings (.literal (.real x)) (digitsValue digits)
  | reference {name : Text} {n : Int64} (found : lookUp bindings name = .ok (.int n)) :
      Exact bindings (.reference name) n.toInt
  | neg {e : Expr} {m : Int} (inner : e.Exact bindings m) : Exact bindings (.neg e) (-m)
  | binary {operator : Operator} {operation : Int → Int → Int}
      (operates : operator.onIntegers? = some operation) {left right : Expr} {m n : Int}
      (first : left.Exact bindings m) (second : right.Exact bindings n) :
      Exact bindings (.binary operator left right) (operation m n)
  | absolute {e : Expr} {m : Int} (inner : e.Exact bindings m) :
      Exact bindings (.call "abs".toList [e]) |m|

/-- The exact values of all parts are in the range of words. -/
def Expr.Fits (bindings : Bindings) (e : Expr) : Prop :=
  ∀ (part : Expr) (m : Int), part.Within e → part.Exact bindings m → IsWord m

/-- The parts of what fits fit. -/
theorem Expr.Fits.within {bindings : Bindings} {part e : Expr} (fits : e.Fits bindings)
    (within : part.Within e) : part.Fits bindings :=
  fun inner m innerWithin => fits inner m (innerWithin.trans within)

/-! ## Operations -/

/-- An operation gives a whole number exactly as the operation on whole numbers does. -/
theorem apply_eq_int_iff {operator : Operator} {operation : Int → Int → Int}
    (operates : operator.onIntegers? = some operation) (left right : Value) (result : Int64) :
    apply operator left right = .ok (.int result) ↔
      ∃ m n, left = .int m ∧ right = .int n ∧ result.toInt = operation m.toInt n.toInt := by
  cases operator with
  | add =>
    cases operates
    rw [apply, Except.ok.injEq, Value.add_eq_int_iff]
  | sub =>
    cases operates
    rw [apply, Except.ok.injEq, Value.sub_eq_int_iff]
  | mul =>
    cases operates
    rw [apply, Except.ok.injEq, Value.mul_eq_int_iff]
  | div | pow => cases operates

/-- An absolute value is a whole number exactly as the absolute value of a whole number. -/
theorem absolute_eq_int_iff (v : Value) (result : Int64) :
    absolute v = .int result ↔ ∃ n, v = .int n ∧ result.toInt = |n.toInt| := by
  simp only [Int.abs_eq_natAbs, ← wordOfInt?_eq_some_iff]
  constructor
  · intro calculated
    unfold absolute at calculated
    split at calculated
    · rename_i n
      split at calculated
      · rename_i found
        cases calculated
        exact ⟨n, rfl, found⟩
      · cases calculated
    · cases calculated
  · rintro ⟨n, rfl, found⟩
    simp only [absolute, found]

/-- The absolute value is a function of one argument. -/
theorem applyFunction_abs (v : Value) : applyFunction "abs".toList [v] = .ok (absolute v) := rfl

/-- A numeral that is a whole number has the value of its digits. -/
theorem toInt_of_token {digits : Text} {n : Int64}
    (token : numberToken ⟨digits, none, none⟩ = .whole n) : n.toInt = digitsValue digits := by
  unfold numberToken at token
  split at token
  · rename_i found
    cases token
    exact (wordOfInt?_eq_some_iff _ _).1 found
  · cases token

/-- A numeral of digits alone is a real number only if its value is no word. -/
theorem not_isWord_of_token {digits : Text} {x : Float}
    (token : numberToken ⟨digits, none, none⟩ = .real x) : ¬IsWord (digitsValue digits) := by
  rw [← wordOfInt?_eq_none_iff]
  unfold numberToken at token
  split at token
  · cases token
  · rename_i noWord
    simpa [Numeral.isWhole] using noWord

namespace Expr

variable {bindings : Bindings}

/-! ## Whole values -/

/-- An opposite evaluates to a whole number exactly as that of a whole number does. -/
theorem eval_neg_eq_int_iff (operand : Expr) (result : Int64) :
    (neg operand).eval bindings = .ok (.int result) ↔
      ∃ n, operand.eval bindings = .ok (.int n) ∧ result.toInt = -n.toInt := by
  rw [eval_neg_eq_ok_iff]
  constructor
  · rintro ⟨v, value, negated, -⟩
    obtain ⟨n, rfl, opposite⟩ := (Value.neg_eq_int_iff _ _).1 negated.symm
    exact ⟨n, value, opposite⟩
  · rintro ⟨n, value, opposite⟩
    exact ⟨_, value, ((Value.neg_eq_int_iff _ _).2 ⟨n, rfl, opposite⟩).symm, rfl⟩

/-- An operation evaluates to a whole number exactly as the operation on whole numbers does. -/
theorem eval_binary_eq_int_iff {operator : Operator} {operation : Int → Int → Int}
    (operates : operator.onIntegers? = some operation) (left right : Expr) (result : Int64) :
    (binary operator left right).eval bindings = .ok (.int result) ↔
      ∃ m n, left.eval bindings = .ok (.int m) ∧ right.eval bindings = .ok (.int n) ∧
        result.toInt = operation m.toInt n.toInt := by
  rw [eval_binary_eq_ok_iff]
  constructor
  · rintro ⟨_, _, first, second, applied, -⟩
    obtain ⟨m, n, rfl, rfl, calculated⟩ := (apply_eq_int_iff operates _ _ _).1 applied
    exact ⟨m, n, first, second, calculated⟩
  · rintro ⟨m, n, first, second, calculated⟩
    exact ⟨_, _, first, second, (apply_eq_int_iff operates _ _ _).2 ⟨m, n, rfl, rfl, calculated⟩,
      rfl⟩

/-- A call of the absolute value takes the value of its argument. -/
theorem eval_absolute_eq_ok_iff (argument : Expr) (v : Value) :
    (call "abs".toList [argument]).eval bindings = .ok v ↔
      ∃ w, argument.eval bindings = .ok w ∧ absolute w = v ∧ v.isNonFinite = false := by
  simp only [eval_call_eq_ok_iff, evalArguments_eq_ok_iff, List.forall₂_cons_left_iff,
    List.forall₂_nil_left_iff]
  constructor
  · rintro ⟨_, ⟨w, _, value, rfl, rfl⟩, applied, isFinite⟩
    exact ⟨w, value, Except.ok.inj applied, isFinite⟩
  · rintro ⟨w, value, rfl, isFinite⟩
    exact ⟨_, ⟨w, [], value, rfl, rfl⟩, applyFunction_abs w, isFinite⟩

/-- An absolute value evaluates to a whole number exactly as that of a whole number does. -/
theorem eval_absolute_eq_int_iff (argument : Expr) (result : Int64) :
    (call "abs".toList [argument]).eval bindings = .ok (.int result) ↔
      ∃ n, argument.eval bindings = .ok (.int n) ∧ result.toInt = |n.toInt| := by
  rw [eval_absolute_eq_ok_iff]
  constructor
  · rintro ⟨w, value, calculated, -⟩
    obtain ⟨n, rfl, size⟩ := (absolute_eq_int_iff _ _).1 calculated
    exact ⟨n, value, size⟩
  · rintro ⟨n, value, size⟩
    exact ⟨_, value, (absolute_eq_int_iff _ _).2 ⟨n, rfl, size⟩, rfl⟩

/-! ## Exact values -/

variable {e : Expr} {m : Int}

/-- A whole value is the exact value. -/
theorem Exact.toInt_eq (exact : e.Exact bindings m) {n : Int64}
    (evaluated : e.eval bindings = .ok (.int n)) : n.toInt = m := by
  induction exact generalizing n with
  | whole own =>
    obtain ⟨same, -⟩ := (eval_literal_eq_ok_iff _ _ _).1 evaluated
    cases same
    rfl
  | large _ _ =>
    obtain ⟨same, -⟩ := (eval_literal_eq_ok_iff _ _ _).1 evaluated
    cases same
  | reference found =>
    obtain ⟨value, -⟩ := (eval_reference_eq_ok_iff _ _ _).1 evaluated
    rw [found] at value
    cases value
    rfl
  | neg _ inductionHypothesis =>
    obtain ⟨own, value, opposite⟩ := (eval_neg_eq_int_iff _ _).1 evaluated
    rw [opposite, inductionHypothesis value]
  | binary operates _ _ firstExact secondExact =>
    obtain ⟨_, _, first, second, calculated⟩ :=
      (eval_binary_eq_int_iff operates _ _ _).1 evaluated
    rw [calculated, firstExact first, secondExact second]
  | absolute _ inductionHypothesis =>
    obtain ⟨own, value, size⟩ := (eval_absolute_eq_int_iff _ _).1 evaluated
    rw [size, inductionHypothesis value]

/-- What has an exact value and a whole one has whole values in every part. -/
theorem Exact.whole_within (exact : e.Exact bindings m) {n : Int64}
    (evaluated : e.eval bindings = .ok (.int n)) {part : Expr} (within : part.Within e) :
    ∃ k, part.eval bindings = .ok (.int k) := by
  induction exact generalizing n with
  | whole _ | large _ _ | reference _ =>
    cases within
    exact ⟨n, evaluated⟩
  | neg _ inductionHypothesis =>
    cases within with
    | self => exact ⟨n, evaluated⟩
    | neg inner =>
      obtain ⟨_, value, -⟩ := (eval_neg_eq_int_iff _ _).1 evaluated
      exact inductionHypothesis value inner
  | binary operates _ _ firstWhole secondWhole =>
    obtain ⟨_, _, first, second, -⟩ := (eval_binary_eq_int_iff operates _ _ _).1 evaluated
    cases within with
    | self => exact ⟨n, evaluated⟩
    | left _ _ inner => exact firstWhole first inner
    | right _ _ inner => exact secondWhole second inner
  | absolute _ inductionHypothesis =>
    cases within with
    | self => exact ⟨n, evaluated⟩
    | argument _ member inner =>
      obtain ⟨_, value, -⟩ := (eval_absolute_eq_int_iff _ _).1 evaluated
      cases List.mem_singleton.1 member
      exact inductionHypothesis value inner

/-- What has an exact value and a whole one fits. -/
theorem Exact.fits (exact : e.Exact bindings m) {n : Int64}
    (evaluated : e.eval bindings = .ok (.int n)) : e.Fits bindings := by
  intro part k within partExact
  obtain ⟨own, value⟩ := exact.whole_within evaluated within
  rw [← partExact.toInt_eq value]
  exact isWord_toInt own

/-- What fits has its exact value for value. -/
theorem Fits.eval_eq (fits : e.Fits bindings) (exact : e.Exact bindings m) :
    ∃ n, e.eval bindings = .ok (.int n) ∧ n.toInt = m := by
  -- The parts fit as well, so their values are exact, and the exact result of them is a word.
  induction exact with
  | whole n => exact ⟨n, (eval_literal_eq_ok_iff _ _ _).2 ⟨rfl, rfl⟩, rfl⟩
  | large allDigits token =>
    exact absurd (fits _ _ .self (.large allDigits token)) (not_isWord_of_token token)
  | @reference _ n found => exact ⟨n, (eval_reference_eq_ok_iff _ _ _).2 ⟨found, rfl⟩, rfl⟩
  | neg inner inductionHypothesis =>
    obtain ⟨own, evaluated, ownValue⟩ := inductionHypothesis (fits.within (.neg .self))
    obtain ⟨n, value⟩ := (isWord_iff _).1 (fits _ _ .self (.neg inner))
    refine ⟨n, (eval_neg_eq_int_iff _ _).2 ⟨own, evaluated, ?_⟩, value⟩
    rw [value, ownValue]
  | @binary operator _ operates left right _ _ first second firstValue secondValue =>
    obtain ⟨k, leftEvaluated, leftValue⟩ :=
      firstValue (fits.within (.left operator right .self))
    obtain ⟨l, rightEvaluated, rightValue⟩ :=
      secondValue (fits.within (.right operator left .self))
    obtain ⟨n, value⟩ := (isWord_iff _).1 (fits _ _ .self (.binary operates first second))
    refine ⟨n, (eval_binary_eq_int_iff operates _ _ _).2
      ⟨k, l, leftEvaluated, rightEvaluated, ?_⟩, value⟩
    rw [value, leftValue, rightValue]
  | @absolute argument _ inner inductionHypothesis =>
    have within : argument.Within (.call "abs".toList [argument]) :=
      .argument _ (List.mem_singleton_self argument) .self
    obtain ⟨own, evaluated, ownValue⟩ := inductionHypothesis (fits.within within)
    obtain ⟨n, value⟩ := (isWord_iff _).1 (fits _ _ .self (.absolute inner))
    refine ⟨n, (eval_absolute_eq_int_iff _ _).2 ⟨own, evaluated, ?_⟩, value⟩
    rw [value, ownValue]

end Expr

/-- A formula of one token that derives an operand is this operand. -/
theorem parse_of_token {t : Text} {token : Token} {e : Expr} (one : tokenize t = .ok [token])
    (derives : Derives .operand [token] e) : parse t = .ok e := by
  rw [parse, one]
  exact (ofTokens?_eq_ok_iff_derives _ _).2
    (.ofProduct (.ofSigned (.ofPower (.ofOperand derives))))

/-- A formula of digits alone has the value of the digits for exact value, however many they are. -/
theorem exists_parse_of_digits {digits : Text} (nonempty : digits ≠ [])
    (allDigits : Numeral.Digits digits) (bindings : Bindings) :
    ∃ e, parse digits = .ok e ∧ e.Exact bindings (digitsValue digits) := by
  have isWritten : Numeral.IsWritten digits digits none none :=
    ⟨by simp [Numeral.writtenFraction, Numeral.writtenExponent], nonempty, allDigits, by simp,
      by simp⟩
  have one := tokenize_of_isWritten isWritten
  rw [Option.map_none] at one
  rcases numberToken_eq ⟨digits, none, none⟩ with ⟨n, token⟩ | ⟨x, token⟩
  · rw [token] at one
    refine ⟨_, parse_of_token one (.whole n), ?_⟩
    rw [← toInt_of_token token]
    exact .whole n
  · rw [token] at one
    exact ⟨_, parse_of_token one (.real x), .large allDigits token⟩

/-! ## Outcomes -/

/-- A whole number, a real number, or a real number that is refused as not finite. -/
inductive IsNumeric : Except EvalError Value → Prop
  | whole (n : Int64) : IsNumeric (.ok (.int n))
  | real (x : Float) : IsNumeric (.ok (.real x))
  | refused (x : Float) : IsNumeric (.error (.arithmetic (.nonFiniteResult (.real x))))

/-- What is no text is a number where it is finite, and is refused where it is not. -/
theorem isNumeric_finite {v : Value} (notText : v.NotText) : IsNumeric (finite v) := by
  unfold finite
  cases v with
  | int n => exact .whole n
  | real x =>
    split
    · exact .refused x
    · exact .real x
  | text t => exact absurd rfl (notText t)

/-- An operation on integers has a result, and it is no text. -/
theorem exists_apply_eq_ok {operator : Operator} {operation : Int → Int → Int}
    (operates : operator.onIntegers? = some operation) (left right : Value) :
    ∃ v, apply operator left right = .ok v ∧ v.NotText := by
  cases operator with
  | add | sub | mul => exact ⟨_, rfl, Value.notText_calculate _ _ _ _⟩
  | div | pow => cases operates

/-- A tree with an exact value has a number for value, or one that is refused. -/
theorem Expr.Exact.isNumeric {bindings : Bindings} {e : Expr} {m : Int}
    (exact : e.Exact bindings m) : IsNumeric (e.eval bindings) := by
  induction exact with
  | whole n =>
    rw [eval]
    exact isNumeric_finite (Value.notText_int n)
  | @large _ x _ _ =>
    rw [eval]
    exact isNumeric_finite (Value.notText_real x)
  | @reference _ n found =>
    rw [eval, found]
    exact isNumeric_finite (Value.notText_int n)
  | @neg operand _ _ inner =>
    rw [eval]
    cases value : operand.eval bindings with
    | error cause => rwa [value] at inner
    | ok v => exact isNumeric_finite (Value.notText_neg v)
  | @binary _ _ operates left right _ _ _ _ first second =>
    rw [eval]
    cases leftValue : left.eval bindings with
    | error cause => rwa [leftValue] at first
    | ok v =>
      cases rightValue : right.eval bindings with
      | error cause => rwa [rightValue] at second
      | ok w =>
        obtain ⟨result, applied, notText⟩ := exists_apply_eq_ok operates v w
        simp only [applied]
        exact isNumeric_finite notText
  | @absolute argument _ _ inner =>
    rw [eval, evalArguments]
    cases value : argument.eval bindings with
    | error cause => rwa [value] at inner
    | ok v =>
      simp only [evalArguments, applyFunction_abs]
      exact isNumeric_finite (notText_absolute v)

/-- A formula of whole numbers, sums, differences, products, opposites and absolute values is
calculated exactly. If its value is a whole number, that is its exact value. If the exact values of
all its parts are words, its value is its exact value; if some part has another one, its value is a
real number, or a real number is refused as not finite. So no word is ever wrapped or cut off. -/
theorem whole_number_formulas_are_exact {t : Text} {e : Expr} {bindings : Bindings} {m : Int}
    (read : parse t = .ok e) (exact : e.Exact bindings m) :
    (∀ n, evaluate t bindings = .ok (.int n) → n.toInt = m) ∧
    (e.Fits bindings → ∃ n, evaluate t bindings = .ok (.int n) ∧ n.toInt = m) ∧
    (¬e.Fits bindings → (∃ x, evaluate t bindings = .ok (.real x)) ∨
      ∃ x, evaluate t bindings = .error (.arithmetic (.nonFiniteResult (.real x)))) := by
  rw [evaluate_of_parse read]
  refine ⟨fun n => exact.toInt_eq, fun fits => fits.eval_eq exact, ?_⟩
  intro overflows
  have numeric := exact.isNumeric
  cases value : e.eval bindings with
  | ok v =>
    rw [value] at numeric
    cases numeric with
    | whole n => exact absurd (exact.fits value) overflows
    | real x => exact .inl ⟨x, rfl⟩
  | error cause =>
    rw [value] at numeric
    cases numeric with
    | refused x => exact .inr ⟨x, rfl⟩

/-- The least word is the exact value of a difference in which a name stands for text. -/
theorem least_word_is_calculated_exactly :
    ∃ e, parse "-abs(one) - 9223372036854775807".toList = .ok e ∧
      e.Exact (Bindings.ofList [("one".toList, .text "1".toList)]) (-2 ^ 63) ∧
      e.Fits (Bindings.ofList [("one".toList, .text "1".toList)]) ∧
      ∃ n, evaluate "-abs(one) - 9223372036854775807".toList
        (Bindings.ofList [("one".toList, .text "1".toList)]) = .ok (.int n) ∧
        n.toInt = -2 ^ 63 := by
  let bindings := Bindings.ofList [("one".toList, .text "1".toList)]
  let e : Expr := .binary .sub (.neg (.call "abs".toList [.reference "one".toList]))
    (.literal (.int 9223372036854775807))
  have read : parse "-abs(one) - 9223372036854775807".toList = .ok e := by decide +kernel
  have one : lookUp bindings "one".toList = .ok (.int 1) := by decide +kernel
  have operates : Operator.sub.onIntegers? = some (· - ·) := rfl
  have exact : e.Exact bindings (-2 ^ 63) :=
    .binary operates (.neg (.absolute (.reference one))) (.whole 9223372036854775807)
  have value : e.eval bindings = .ok (.int Int64.minValue) := by decide +kernel
  have fits := exact.fits value
  exact ⟨e, read, exact, fits, (whole_number_formulas_are_exact read exact).2.1 fits⟩

end InputDeck.Formula
