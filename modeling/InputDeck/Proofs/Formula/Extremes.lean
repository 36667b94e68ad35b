import InputDeck.Proofs.Formula.FiniteValues
import InputDeck.Proofs.Formula.Grammar
import InputDeck.Proofs.Number.WordOrder

/-!
# The lesser and the greater of two words

Two words are compared as real numbers, and one of them is the result. It is the right one unless
the words are different and become the same real number; the first one is both the lesser and the
greater then. Such words have more than 53 bits and are close to each other.
-/

namespace InputDeck.Formula

/-- Different words that become the same real number. -/
def Alike (a b : Int64) : Prop := a ≠ b ∧ Float.ofInt a.toInt = Float.ofInt b.toInt

/-- Words that are not alike are compared rightly. -/
theorem ofWord_le_iff_of_not_alike {a b : Int64} (apart : ¬Alike a b) :
    Float.ofInt a.toInt ≤ Float.ofInt b.toInt ↔ a.toInt ≤ b.toInt := by
  rw [ofWord_le_iff]
  refine ⟨fun le => le.elim id fun same => ?_, .inl⟩
  by_contra greater
  refine apart ⟨?_, same⟩
  rintro rfl
  exact greater le_rfl

/-- The order in which words are compared makes no difference to being alike. -/
theorem Alike.symm {a b : Int64} (alike : Alike a b) : Alike b a :=
  ⟨alike.1.symm, alike.2.symm⟩

/-- The word that is taken for the lesser one. -/
def lesserWord (a b : Int64) : Int64 :=
  if Float.ofInt a.toInt ≤ Float.ofInt b.toInt then a else b

/-- The word that is taken for the greater one. -/
def greaterWord (a b : Int64) : Int64 :=
  if Float.ofInt b.toInt ≤ Float.ofInt a.toInt then a else b

/-- The lesser one of two words is a word. -/
theorem applyFunction_min (a b : Int64) :
    applyFunction "min".toList [.int a, .int b] = .ok (.int (lesserWord a b)) :=
  congrArg Except.ok (apply_ite Value.int _ _ _).symm

/-- The greater one of two words is a word. -/
theorem applyFunction_max (a b : Int64) :
    applyFunction "max".toList [.int a, .int b] = .ok (.int (greaterWord a b)) :=
  congrArg Except.ok (apply_ite Value.int _ _ _).symm

/-- Of words that are not alike the lesser one and the greater one are taken. -/
theorem extremes_of_not_alike {a b : Int64} (apart : ¬Alike a b) :
    (lesserWord a b).toInt = min a.toInt b.toInt ∧
      (greaterWord a b).toInt = max a.toInt b.toInt := by
  have swapped : ¬Alike b a := fun alike => apart alike.symm
  unfold lesserWord greaterWord
  rw [apply_ite Int64.toInt, apply_ite Int64.toInt]
  simp only [ofWord_le_iff_of_not_alike apart, ofWord_le_iff_of_not_alike swapped]
  omega

/-- Of words that are alike the first one is taken. -/
theorem extremes_of_alike {a b : Int64} (alike : Alike a b) :
    lesserWord a b = a ∧ greaterWord a b = a :=
  ⟨if_pos ((ofWord_le_iff a b).2 (.inr alike.2)),
    if_pos ((ofWord_le_iff b a).2 (.inr alike.2.symm))⟩

/-! ## Formulas -/

/-- An operand is a sum. -/
theorem Derives.sum_of_operand {tokens : List Token} {e : Expr}
    (operand : Derives .operand tokens e) : Derives .sum tokens e :=
  .ofProduct (.ofSigned (.ofPower (.ofOperand operand)))

/-- A function of two arguments, and two sums with a comma between them, are a call. -/
theorem parse_call {t function : Text} (first later : List Token) {left right : Expr}
    (two : arity? function = some 2)
    (read : tokenize t =
      .ok (.name function :: .openParen :: (first ++ .comma :: later ++ [.closeParen])))
    (head : Derives .sum first left) (tail : Derives .sum later right) :
    parse t = .ok (.call function [left, right]) := by
  rw [parse, read]
  exact (ofTokens?_eq_ok_iff_derives _ _).2
    (.sum_of_operand (.call (.arguments head (.argument function tail)) two))

/-- A call takes the values of its arguments. -/
theorem eval_call_of_values {bindings : Bindings} {function : Text} {left right : Expr}
    {first second : Value} {n : Int64} (leftValue : left.eval bindings = .ok first)
    (rightValue : right.eval bindings = .ok second)
    (applied : applyFunction function [first, second] = .ok (.int n)) :
    (Expr.call function [left, right]).eval bindings = .ok (.int n) :=
  (Expr.eval_call_eq_ok_iff _ _ _ _).2 ⟨[first, second],
    (evalArguments_eq_ok_iff _ _ _).2 (.cons leftValue (.cons rightValue .nil)), applied, rfl⟩

/-- A name that is bound to a word has this value. -/
theorem eval_reference_of_word {bindings : Bindings} {name : Text} {n : Int64}
    (bound : bindings name = some (.int n)) :
    (Expr.reference name).eval bindings = .ok (.int n) := by
  refine (Expr.eval_reference_eq_ok_iff _ _ _).2 ⟨?_, rfl⟩
  simp only [lookUp, bound, Value.toNumeric?]

/-- The lesser and the greater of two words are words, and they are the right ones, unless the words
are alike. Then the first word is taken for both. Words that are alike have more than 53 bits and
are close to each other. -/
theorem lesser_and_greater_words (a b : Int64) :
    ∃ lesser greater : Int64,
      (∀ (bindings : Bindings) (left right : Expr),
        left.eval bindings = .ok (.int a) → right.eval bindings = .ok (.int b) →
        (Expr.call "min".toList [left, right]).eval bindings = .ok (.int lesser) ∧
          (Expr.call "max".toList [left, right]).eval bindings = .ok (.int greater)) ∧
      (∀ bindings : Bindings,
        bindings "a".toList = some (.int a) → bindings "b".toList = some (.int b) →
        evaluate "min(a,b)".toList bindings = .ok (.int lesser) ∧
          evaluate "max(a,b)".toList bindings = .ok (.int greater)) ∧
      (¬Alike a b → lesser.toInt = min a.toInt b.toInt ∧ greater.toInt = max a.toInt b.toInt ∧
        lesser.toInt + greater.toInt = a.toInt + b.toInt) ∧
      (Alike a b → lesser = a ∧ greater = a ∧
        2 ^ 53 ≤ |a.toInt| ∧ 2 ^ 53 ≤ |b.toInt| ∧ |a.toInt - b.toInt| ≤ 1024) := by
  have calls : ∀ (bindings : Bindings) (left right : Expr),
      left.eval bindings = .ok (.int a) → right.eval bindings = .ok (.int b) →
      (Expr.call "min".toList [left, right]).eval bindings = .ok (.int (lesserWord a b)) ∧
        (Expr.call "max".toList [left, right]).eval bindings = .ok (.int (greaterWord a b)) := by
    intro bindings left right leftValue rightValue
    exact ⟨eval_call_of_values leftValue rightValue (applyFunction_min a b),
      eval_call_of_values leftValue rightValue (applyFunction_max a b)⟩
  refine ⟨lesserWord a b, greaterWord a b, calls, ?_, ?_, ?_⟩
  · intro bindings first second
    have lesser : parse "min(a,b)".toList =
        .ok (.call "min".toList [.reference "a".toList, .reference "b".toList]) :=
      parse_call [.name "a".toList] [.name "b".toList] rfl (by decide +kernel)
        (.sum_of_operand (.reference _)) (.sum_of_operand (.reference _))
    have greater : parse "max(a,b)".toList =
        .ok (.call "max".toList [.reference "a".toList, .reference "b".toList]) :=
      parse_call [.name "a".toList] [.name "b".toList] rfl (by decide +kernel)
        (.sum_of_operand (.reference _)) (.sum_of_operand (.reference _))
    rw [evaluate_of_parse lesser, evaluate_of_parse greater]
    exact calls bindings _ _ (eval_reference_of_word first) (eval_reference_of_word second)
  · intro apart
    obtain ⟨lesser, greater⟩ := extremes_of_not_alike apart
    exact ⟨lesser, greater, by rw [lesser, greater, min_add_max]⟩
  · intro alike
    obtain ⟨lesser, greater⟩ := extremes_of_alike alike
    exact ⟨lesser, greater, (ofWord_near alike.2).resolve_left alike.1⟩

/-- The least word of 54 bits and the next one are alike, so the first one is taken for the lesser
one, also where it is the greater one. -/
theorem next_word_is_taken_for_lesser :
    evaluate "min(9007199254740993,9007199254740992)".toList Bindings.none =
        .ok (.int 9007199254740993) ∧
      evaluate "min(9007199254740992,9007199254740993)".toList Bindings.none =
        .ok (.int 9007199254740992) := by
  have first : parse "min(9007199254740993,9007199254740992)".toList =
      .ok (.call "min".toList
        [.literal (.int 9007199254740993), .literal (.int 9007199254740992)]) :=
    parse_call [.whole 9007199254740993] [.whole 9007199254740992] rfl (by decide +kernel)
      (.sum_of_operand (.whole _)) (.sum_of_operand (.whole _))
  have second : parse "min(9007199254740992,9007199254740993)".toList =
      .ok (.call "min".toList
        [.literal (.int 9007199254740992), .literal (.int 9007199254740993)]) :=
    parse_call [.whole 9007199254740992] [.whole 9007199254740993] rfl (by decide +kernel)
      (.sum_of_operand (.whole _)) (.sum_of_operand (.whole _))
  have alike : Alike 9007199254740993 9007199254740992 := by
    refine ⟨by decide, ?_⟩
    decide +kernel
  have next := (extremes_of_alike alike).1
  have least := (extremes_of_alike alike.symm).1
  rw [evaluate_of_parse first, evaluate_of_parse second]
  exact ⟨eval_call_of_values rfl rfl ((applyFunction_min _ _).trans (by rw [next])),
    eval_call_of_values rfl rfl ((applyFunction_min _ _).trans (by rw [least]))⟩

end InputDeck.Formula
