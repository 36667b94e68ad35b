import InputDeck.Proofs.Formula.Evaluation
import InputDeck.Proofs.Formula.Spelling
import InputDeck.Proofs.Number.ReadBack

/-!
# Numbers and names for them

A number that is written in parentheses has itself for value, with its kind, and a name in
parentheses has the number that it stands for. The value of a formula is made from the values of
its parts, so in the place of a name its number may be written out. The least whole number is the
exception: its digits without the sign are no whole number.
-/

namespace InputDeck.Formula

open Numeral

/-! ## The value of an exchanged tree -/

/-- Rows of arguments with the same value in each have the same values. -/
theorem evalArguments_map {bindings : Bindings} {pairs : List (Expr × Expr)}
    (each : ∀ pair ∈ pairs, pair.1.eval bindings = pair.2.eval bindings) :
    evalArguments bindings (pairs.map Prod.fst) = evalArguments bindings (pairs.map Prod.snd) := by
  induction pairs with
  | nil => rfl
  | cons pair rest inductionHypothesis =>
    obtain ⟨first, later⟩ := List.forall_mem_cons.1 each
    simp only [List.map_cons, evalArguments, first, inductionHypothesis later]

/-- Exchanging parts for parts with the same value keeps the value. -/
theorem Expr.Exchanged.eval_eq {R : Expr → Expr → Prop} {bindings : Bindings}
    (same : ∀ e e', R e e' → e.eval bindings = e'.eval bindings) {e e' : Expr}
    (exchanged : e.Exchanged R e') : e.eval bindings = e'.eval bindings := by
  induction exchanged with
  | part related => exact same _ _ related
  | literal v => rfl
  | reference name => rfl
  | neg _ inner => rw [Expr.eval, Expr.eval, inner]
  | binary operator _ _ first second => rw [Expr.eval, Expr.eval, first, second]
  | call function arguments _ each => rw [Expr.eval, Expr.eval, evalArguments_map each]

/-! ## Written numbers -/

/-- A literal that is neither an infinity nor NaN has itself for value. -/
theorem eval_literal {v : Value} (finite : v.isNonFinite = false) (bindings : Bindings) :
    (Expr.literal v).eval bindings = .ok v := by
  simp [Expr.eval, Formula.finite, finite]

/-- A negative literal has the opposite for value. -/
theorem eval_neg_literal {v : Value} (finite : v.isNonFinite = false)
    (opposite : v.neg.isNonFinite = false) (bindings : Bindings) :
    (Expr.neg (.literal v)).eval bindings = .ok v.neg := by
  simp [Expr.eval, Formula.finite, finite, opposite]

/-- A number with a point or an exponent is a sum whose value is the real number. -/
theorem isSum_of_writesReal {t : Text} {x : Float} (writes : WritesReal t x)
    (finite : x.isFinite = true) :
    ∃ e, IsSum t e ∧ IsNumber e ∧ ∀ bindings, e.eval bindings = .ok (.real x) := by
  cases writes with
  | unsigned isWritten notWhole reads _ =>
    have one := tokenize_of_isWritten isWritten
    rw [numberToken_of_not_whole notWhole reads] at one
    obtain ⟨isSum, -⟩ := isSum_of_operand one Token.noConfusion Token.noConfusion
      fun after => .real x _
    exact ⟨_, isSum, .literal _, eval_literal (by simp [Value.isNonFinite, finite])⟩
  | @negative t whole fraction exponent isWritten notWhole y reads yFinite =>
    have one := tokenize_of_isWritten isWritten
    rw [numberToken_of_not_whole notWhole reads] at one
    obtain ⟨-, isSum⟩ := isSum_of_operand one Token.noConfusion Token.noConfusion
      fun after => .real y _
    refine ⟨_, isSum, .negative _, ?_⟩
    exact eval_neg_literal (v := .real y) (by simp [Value.isNonFinite, yFinite])
      (by simpa [Value.isNonFinite, Value.neg, Value.operand, Value.toReal?] using finite)

/-- Every whole number but the least one has an opposite. -/
theorem exists_opposite {n : Int64} (notLeast : n ≠ Int64.minValue) :
    ∃ opposite : Int64, opposite.toInt = -n.toInt := by
  have low := n.le_toInt
  have high := n.toInt_lt
  have other : n.toInt ≠ Int64.minValue.toInt := fun same => notLeast (Int64.toInt_inj.1 same)
  have least : Int64.minValue.toInt = -2 ^ 63 := rfl
  have greatest : Int64.maxValue.toInt = 2 ^ 63 - 1 := rfl
  exact ⟨Int64.ofInt (-n.toInt), Int64.toInt_ofInt_of_le (by omega) (by omega)⟩

/-- The digits of a natural number are that whole number if it is a word, and else a real number. -/
theorem tokenize_renderNat (n : Nat) :
    tokenize (renderNat n) = .ok [match wordOfInt? n with
      | some word => .whole word
      | none => .real (Decimal.toFloat ⟨n, 0⟩)] := by
  have isWritten : IsWritten (renderNat n) (renderNat n) none none :=
    ⟨by simp [writtenFraction, writtenExponent], renderNat_ne_nil _, digits_renderNat _, by simp,
      by simp⟩
  have one := tokenize_of_isWritten isWritten
  cases narrowed : wordOfInt? n <;>
    simpa [numberToken, Numeral.isWhole, digitsValue_renderNat, narrowed,
      Numeral.toDecimal] using one

/-- A whole number other than the least one is a sum whose value is that whole number. -/
theorem isSum_renderInt {n : Int64} (notLeast : n ≠ Int64.minValue) :
    ∃ e, IsSum (renderInt n.toInt) e ∧ IsNumber e ∧
      ∀ bindings, e.eval bindings = .ok (.int n) := by
  have digits : ∀ {word : Int64}, word.toInt = n.toInt.natAbs →
      tokenize (renderNat n.toInt.natAbs) = .ok [.whole word] := by
    intro word same
    rw [tokenize_renderNat, (wordOfInt?_eq_some_iff _ _).2 same]
  unfold renderInt
  by_cases negative : n.toInt < 0
  · obtain ⟨opposite, same⟩ := exists_opposite notLeast
    have absolute : opposite.toInt = n.toInt.natAbs := by omega
    have back : (Value.int opposite).neg = .int n := by
      have restored : wordOfInt? (-opposite.toInt) = some n :=
        (wordOfInt?_eq_some_iff _ _).2 (by omega)
      simp [Value.neg, restored]
    obtain ⟨-, isSum⟩ := isSum_of_operand (digits absolute) Token.noConfusion
      Token.noConfusion fun after => .whole opposite _
    rw [if_pos negative]
    refine ⟨_, isSum, .negative _, ?_⟩
    intro bindings
    rw [eval_neg_literal rfl (by rw [back]; rfl), back]
  · have absolute : n.toInt = n.toInt.natAbs := by omega
    obtain ⟨isSum, -⟩ := isSum_of_operand (digits absolute) Token.noConfusion
      Token.noConfusion fun after => .whole n _
    rw [if_neg negative]
    exact ⟨_, isSum, .literal _, eval_literal rfl⟩

/-- A number is a sum whose value is that number, with its kind. -/
theorem isSum_render {v : Value} (number : ∀ t, v ≠ .text t) (finite : v.isNonFinite = false)
    (notLeast : v ≠ .int Int64.minValue) :
    ∃ e, IsSum v.render e ∧ IsNumber e ∧ ∀ bindings, e.eval bindings = .ok v := by
  cases v with
  | int n => exact isSum_renderInt fun least => notLeast (congrArg Value.int least)
  | real x =>
    have xFinite : x.isFinite = true := by simpa [Value.isNonFinite] using finite
    exact isSum_of_writesReal (writesReal_renderDeckReal xFinite) xFinite
  | text t => exact absurd rfl (number t)

/-- The least whole number, written out, is the opposite of a real number. -/
theorem isSum_render_least :
    IsSum (Value.int Int64.minValue).render
      (.neg (.literal (.real (Decimal.toFloat ⟨9223372036854775808, 0⟩)))) := by
  have notWord : wordOfInt? (9223372036854775808 : Nat) = none := by decide
  have digits := tokenize_renderNat 9223372036854775808
  rw [notWord] at digits
  exact (isSum_of_operand digits Token.noConfusion Token.noConfusion fun after => .real _ _).2

/-- A sum in parentheses is a formula. -/
theorem parse_parenthesized {t : Text} {e : Expr} (isSum : IsSum t e) :
    parse ('(' :: (t ++ [')'])) = .ok e := by
  obtain ⟨tokens, read, encloses⟩ := isSum
  have nothing : tokenize [] = .ok [] := by simp [tokenize]
  have written := (tokenize_parenthesis_eq_ok_iff read [] [] _).2 ⟨[], [], nothing, nothing, rfl⟩
  rw [List.nil_append] at written
  rw [parse, written]
  refine (ofTokens?_eq_ok_iff _ _).2 ?_
  refine .sum (.product (.unsigned ?_ (.unraised (.group (encloses [])) ?_)) (.productStop rfl))
    (.sumStop rfl)
  · simp
  · simp

/-! ## Names -/

/-- A name is a sum that refers to it. -/
theorem isSum_of_name {name : Text} (spells : Spells (.name name) name) :
    IsSum name (.reference name) := by
  have nothing : ∀ c ∈ ([] : Text), isSeparator c = true := by simp
  have spelled := Spelled.cons nothing spells (.nil nothing)
  rw [List.nil_append, List.append_nil] at spelled
  refine ⟨[.name name], tokenize_of_spelled spelled (.singleton _), ?_⟩
  intro after
  exact reads_sum_of_signed (reads_signed_of_operand Token.noConfusion Token.noConfusion
    (.reference (by simp)))

/-- A name has the number for value that it stands for. -/
theorem eval_reference {bindings : Bindings} {name : Text} {bound v : Value}
    (isBound : bindings name = some bound) (numeric : bound.toNumeric? = some v)
    (finite : v.isNonFinite = false) : (Expr.reference name).eval bindings = .ok v := by
  simp [Expr.eval, lookUp, isBound, numeric, Formula.finite, finite]

end InputDeck.Formula
