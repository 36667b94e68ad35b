import Mathlib.Data.List.Basic
import InputDeck.Proofs.Formula.Reading

/-!
# The grammar of formulas

Tokens derive a tree by rules that look at nothing behind the phrase: a sum is a product, or a sum,
an operator and a product, and so on down to operands. Reading follows the same rules from the left
and looks one token ahead. That is enough: what can follow a phrase is never what the phrase goes on
with. So reading succeeds exactly with the trees that are derived, and there is one at most.
-/

namespace InputDeck.Formula

/-- The phrases of the grammar. -/
inductive Level where
  | sum
  | product
  | signed
  | power
  | operand
  | arguments (function : Text)

/-- The tokens derive the tree. Operators of sums and products group to the left, powers to the
right; the arguments of a call derive the call. -/
inductive Derives : Level → List Token → Expr → Prop
  | ofProduct {tokens : List Token} {e : Expr} (inner : Derives .product tokens e) :
      Derives .sum tokens e
  | sum {first later : List Token} {token : Token} {operator : Operator} {left right : Expr}
      (operates : sumOperator? token = some operator) (head : Derives .sum first left)
      (tail : Derives .product later right) :
      Derives .sum (first ++ token :: later) (.binary operator left right)
  | ofSigned {tokens : List Token} {e : Expr} (inner : Derives .signed tokens e) :
      Derives .product tokens e
  | product {first later : List Token} {token : Token} {operator : Operator} {left right : Expr}
      (operates : productOperator? token = some operator) (head : Derives .product first left)
      (tail : Derives .signed later right) :
      Derives .product (first ++ token :: later) (.binary operator left right)
  | minus {tokens : List Token} {e : Expr} (inner : Derives .signed tokens e) :
      Derives .signed (.minus :: tokens) (.neg e)
  | plus {tokens : List Token} {e : Expr} (inner : Derives .signed tokens e) :
      Derives .signed (.plus :: tokens) e
  | ofPower {tokens : List Token} {e : Expr} (inner : Derives .power tokens e) :
      Derives .signed tokens e
  | ofOperand {tokens : List Token} {e : Expr} (inner : Derives .operand tokens e) :
      Derives .power tokens e
  | raised {first later : List Token} {base exponent : Expr}
      (head : Derives .operand first base) (tail : Derives .signed later exponent) :
      Derives .power (first ++ .caret :: later) (.binary .pow base exponent)
  | whole (n : Int64) : Derives .operand [.whole n] (.literal (.int n))
  | real (x : Float) : Derives .operand [.real x] (.literal (.real x))
  | reference (name : Text) : Derives .operand [.name name] (.reference name)
  | call {function : Text} {tokens : List Token} {arguments : List Expr}
      (inner : Derives (.arguments function) tokens (.call function arguments))
      (known : arity? function = some arguments.length) :
      Derives .operand (.name function :: .openParen :: (tokens ++ [.closeParen]))
        (.call function arguments)
  | group {tokens : List Token} {e : Expr} (inner : Derives .sum tokens e) :
      Derives .operand (.openParen :: (tokens ++ [.closeParen])) e
  | argument {tokens : List Token} {e : Expr} (function : Text) (only : Derives .sum tokens e) :
      Derives (.arguments function) tokens (.call function [e])
  | arguments {function : Text} {first later : List Token} {e : Expr} {rest : List Expr}
      (head : Derives .sum first e)
      (tail : Derives (.arguments function) later (.call function rest)) :
      Derives (.arguments function) (first ++ .comma :: later) (.call function (e :: rest))

/-- No function is called without arguments. -/
theorem arity?_ne_zero (function : Text) : arity? function ≠ some 0 := by
  unfold arity?
  split
  · simp
  · split <;> simp

/-- What is derived where a phrase is read: the tokens in front of those left over derive its tree,
whatever tree the tokens before a tail derive. -/
def Phrase.Covers : Phrase → List Token → Expr → List Token → Prop
  | .sum, tokens, e, behind => ∃ front, tokens = front ++ behind ∧ Derives .sum front e
  | .sumTail left, tokens, e, behind => ∃ front, tokens = front ++ behind ∧
      ∀ before, Derives .sum before left → Derives .sum (before ++ front) e
  | .product, tokens, e, behind => ∃ front, tokens = front ++ behind ∧ Derives .product front e
  | .productTail left, tokens, e, behind => ∃ front, tokens = front ++ behind ∧
      ∀ before, Derives .product before left → Derives .product (before ++ front) e
  | .signed, tokens, e, behind => ∃ front, tokens = front ++ behind ∧ Derives .signed front e
  | .power, tokens, e, behind => ∃ front, tokens = front ++ behind ∧ Derives .power front e
  | .operand, tokens, e, behind => ∃ front, tokens = front ++ behind ∧ Derives .operand front e
  | .arguments function, tokens, e, behind =>
    ∃ front arguments, tokens = front ++ .closeParen :: behind ∧ e = .call function arguments ∧
      (arguments = [] ∨ Derives (.arguments function) front e)
  | .argumentsTail function reversed, tokens, e, behind =>
    ∃ front more, tokens = front ++ .closeParen :: behind ∧
      e = .call function (reversed.reverse ++ more) ∧
      ∀ last arg, Derives .sum last arg →
        Derives (.arguments function) (last ++ front) (.call function (arg :: more))

/-- What is read is derived. -/
theorem covers_of_reads {phrase : Phrase} {tokens behind : List Token} {e : Expr}
    (reads : Reads phrase tokens e behind) : phrase.Covers tokens e behind := by
  induction reads with
  | sum _ _ head tail =>
    obtain ⟨first, rfl, derives⟩ := head
    obtain ⟨later, rfl, goesOn⟩ := tail
    exact ⟨first ++ later, (List.append_assoc _ _ _).symm, goesOn _ (.ofProduct derives)⟩
  | sumStop _ => exact ⟨[], rfl, fun before derives => by rwa [List.append_nil]⟩
  | @sumMore token _ _ _ _ _ _ _ operates _ _ head tail =>
    obtain ⟨first, rfl, derives⟩ := head
    obtain ⟨later, rfl, goesOn⟩ := tail
    refine ⟨token :: (first ++ later), by simp, ?_⟩
    intro before left
    have more := goesOn _ (.sum operates left derives)
    rwa [List.append_assoc] at more
  | product _ _ head tail =>
    obtain ⟨first, rfl, derives⟩ := head
    obtain ⟨later, rfl, goesOn⟩ := tail
    exact ⟨first ++ later, (List.append_assoc _ _ _).symm, goesOn _ (.ofSigned derives)⟩
  | productStop _ => exact ⟨[], rfl, fun before derives => by rwa [List.append_nil]⟩
  | @productMore token _ _ _ _ _ _ _ operates _ _ head tail =>
    obtain ⟨first, rfl, derives⟩ := head
    obtain ⟨later, rfl, goesOn⟩ := tail
    refine ⟨token :: (first ++ later), by simp, ?_⟩
    intro before left
    have more := goesOn _ (.product operates left derives)
    rwa [List.append_assoc] at more
  | minus _ inner =>
    obtain ⟨front, rfl, derives⟩ := inner
    exact ⟨_ :: front, rfl, .minus derives⟩
  | plus _ inner =>
    obtain ⟨front, rfl, derives⟩ := inner
    exact ⟨_ :: front, rfl, .plus derives⟩
  | unsigned _ _ inner =>
    obtain ⟨front, rfl, derives⟩ := inner
    exact ⟨front, rfl, .ofPower derives⟩
  | raised _ _ head inner =>
    obtain ⟨first, rfl, derives⟩ := head
    obtain ⟨later, rfl, exponent⟩ := inner
    exact ⟨first ++ .caret :: later, by simp, .raised derives exponent⟩
  | unraised _ _ head =>
    obtain ⟨front, rfl, derives⟩ := head
    exact ⟨front, rfl, .ofOperand derives⟩
  | whole n after => exact ⟨[.whole n], rfl, .whole n⟩
  | real x after => exact ⟨[.real x], rfl, .real x⟩
  | @reference name after _ => exact ⟨[.name name], rfl, .reference name⟩
  | @call function after behind arguments _ known inner =>
    obtain ⟨front, others, rfl, same, nothing | derives⟩ := inner
    · cases same
      rw [nothing] at known
      exact absurd known (arity?_ne_zero function)
    · refine ⟨.name function :: .openParen :: (front ++ [.closeParen]), by simp, ?_⟩
      exact .call derives known
  | group _ inner =>
    obtain ⟨front, rfl, derives⟩ := inner
    exact ⟨.openParen :: (front ++ [.closeParen]), by simp, .group derives⟩
  | noArguments function after => exact ⟨[], [], rfl, rfl, .inl rfl⟩
  | someArguments _ _ _ head tail =>
    obtain ⟨first, rfl, derives⟩ := head
    obtain ⟨later, more, rfl, rfl, goesOn⟩ := tail
    exact ⟨first ++ later, _, (List.append_assoc _ _ _).symm, rfl, .inr (goesOn _ _ derives)⟩
  | @nextArgument function after rest behind reversed next e _ _ head tail =>
    obtain ⟨first, rfl, derives⟩ := head
    obtain ⟨later, more, rfl, rfl, goesOn⟩ := tail
    refine ⟨.comma :: (first ++ later), next :: more, by simp, by simp, ?_⟩
    intro last arg lastDerives
    exact .arguments lastDerives (goesOn _ _ derives)
  | lastArgument function reversed after =>
    refine ⟨[], [], rfl, by rw [List.append_nil], ?_⟩
    intro last arg lastDerives
    rw [List.append_nil]
    exact .argument function lastDerives

/-- Tokens that begin no phrase: every other kind of token does. -/
def Token.begins : Token → Bool
  | .star | .slash | .caret | .comma | .closeParen => false
  | _ => true

/-- Every phrase begins with some token, and a power with no sign. -/
theorem Derives.exists_begins {level : Level} {tokens : List Token} {e : Expr}
    (derives : Derives level tokens e) :
    ∃ token rest, tokens = token :: rest ∧ token.begins = true ∧
      (level = .power ∨ level = .operand → token ≠ .minus ∧ token ≠ .plus) := by
  induction derives with
  | ofProduct _ inner | ofSigned _ inner | ofPower _ inner | argument _ _ inner =>
    obtain ⟨token, rest, rfl, begins, -⟩ := inner
    exact ⟨token, rest, rfl, begins, by simp⟩
  | sum _ _ _ head _ | product _ _ _ head _ | arguments _ _ head _ =>
    obtain ⟨token, rest, rfl, begins, -⟩ := head
    exact ⟨token, _, rfl, begins, by simp⟩
  | minus _ _ | plus _ _ => exact ⟨_, _, rfl, rfl, by simp⟩
  | ofOperand _ inner =>
    obtain ⟨token, rest, rfl, begins, unsigned⟩ := inner
    exact ⟨token, rest, rfl, begins, fun _ => unsigned (.inr rfl)⟩
  | raised _ _ head _ =>
    obtain ⟨token, rest, rfl, begins, unsigned⟩ := head
    exact ⟨token, _, rfl, begins, fun _ => unsigned (.inr rfl)⟩
  | whole _ | real _ | reference _ | call _ _ _ | group _ _ => exact ⟨_, _, rfl, rfl, by simp⟩

/-- The tokens behind an operand do not make a call of it. -/
def EndsOperand (behind : List Token) : Prop := behind.head? ≠ some .openParen

/-- The tokens behind a power do not go on with it. -/
structure EndsPower (behind : List Token) : Prop where
  operand : EndsOperand behind
  noCaret : behind.head? ≠ some .caret

/-- The tokens behind a product do not go on with it. -/
structure EndsProduct (behind : List Token) : Prop extends EndsPower behind where
  noOperator : behind.head?.bind productOperator? = none

/-- The tokens behind a sum do not go on with it. -/
structure EndsSum (behind : List Token) : Prop extends EndsProduct behind where
  noSumOperator : behind.head?.bind sumOperator? = none

/-- A product ends before the operator of a sum. -/
theorem endsProduct_of_operates {token : Token} {operator : Operator}
    (operates : sumOperator? token = some operator) (rest : List Token) :
    EndsProduct (token :: rest) := by
  cases token with
  | plus | minus => exact ⟨⟨by simp [EndsOperand], by simp⟩, rfl⟩
  | _ => cases operates

/-- A power ends before the operator of a product. -/
theorem endsPower_of_operates {token : Token} {operator : Operator}
    (operates : productOperator? token = some operator) (rest : List Token) :
    EndsPower (token :: rest) := by
  cases token with
  | star | slash => exact ⟨by simp [EndsOperand], by simp⟩
  | _ => cases operates

/-- A sum ends before a closing parenthesis. -/
theorem endsSum_closeParen (rest : List Token) : EndsSum (.closeParen :: rest) :=
  ⟨⟨⟨by simp [EndsOperand], by simp⟩, rfl⟩, rfl⟩

/-- A sum ends before a comma. -/
theorem endsSum_comma (rest : List Token) : EndsSum (.comma :: rest) :=
  ⟨⟨⟨by simp [EndsOperand], by simp⟩, rfl⟩, rfl⟩

/-- A sum ends where there are no more tokens. -/
theorem endsSum_nil : EndsSum [] := ⟨⟨⟨by simp [EndsOperand], by simp⟩, rfl⟩, rfl⟩

/-- How a phrase is read that is derived: a sum and a product with any operators behind them, all
others in front of tokens that do not go on with them. -/
def Level.ReadsAs : Level → List Token → Expr → Prop
  | .sum, tokens, e => ∀ behind e' rest, EndsProduct behind → Reads (.sumTail e) behind e' rest →
      Reads .sum (tokens ++ behind) e' rest
  | .product, tokens, e => ∀ behind e' rest, EndsPower behind →
      Reads (.productTail e) behind e' rest → Reads .product (tokens ++ behind) e' rest
  | .signed, tokens, e => ∀ behind, EndsPower behind → Reads .signed (tokens ++ behind) e behind
  | .power, tokens, e => ∀ behind, EndsPower behind → Reads .power (tokens ++ behind) e behind
  | .operand, tokens, e =>
    ∀ behind, EndsOperand behind → Reads .operand (tokens ++ behind) e behind
  | .arguments function, tokens, e => ∀ arguments, e = .call function arguments → ∀ behind,
      Reads (.arguments function) (tokens ++ .closeParen :: behind) e behind ∧
      ∀ reversed, Reads (.argumentsTail function reversed)
        (.comma :: (tokens ++ .closeParen :: behind))
        (.call function (reversed.reverse ++ arguments)) behind

/-- A sum that is read with any operators behind it is read alone where none follow. -/
theorem Level.ReadsAs.sum_alone {tokens : List Token} {e : Expr}
    (readsAs : Level.ReadsAs .sum tokens e) {behind : List Token} (ends : EndsSum behind) :
    Reads .sum (tokens ++ behind) e behind :=
  readsAs behind e behind ends.toEndsProduct (.sumStop ends.noSumOperator)

/-- What is derived is read. -/
theorem readsAs_of_derives {level : Level} {tokens : List Token} {e : Expr}
    (derives : Derives level tokens e) : level.ReadsAs tokens e := by
  induction derives with
  | ofProduct _ inner =>
    intro behind e' rest ends tail
    exact .sum (inner behind _ behind ends.toEndsPower (.productStop ends.noOperator)) tail
  | sum operates _ _ head inner =>
    intro behind e' rest ends tail
    rw [List.append_assoc]
    have right := inner behind _ behind ends.toEndsPower (.productStop ends.noOperator)
    exact head _ e' rest (endsProduct_of_operates operates _) (.sumMore operates right tail)
  | ofSigned _ inner =>
    intro behind e' rest ends tail
    exact .product (inner behind ends) tail
  | product operates _ _ head inner =>
    intro behind e' rest ends tail
    rw [List.append_assoc]
    exact head _ e' rest (endsPower_of_operates operates _)
      (.productMore operates (inner behind ends) tail)
  | minus _ inner =>
    intro behind ends
    exact .minus (inner behind ends)
  | plus _ inner =>
    intro behind ends
    exact .plus (inner behind ends)
  | ofPower power inner =>
    intro behind ends
    obtain ⟨token, rest, rfl, -, unsigned⟩ := power.exists_begins
    obtain ⟨notMinus, notPlus⟩ := unsigned (.inl rfl)
    refine .unsigned ⟨?_, ?_⟩ (inner behind ends)
    · exact fun same => notMinus (Option.some.inj same)
    · exact fun same => notPlus (Option.some.inj same)
  | ofOperand _ inner =>
    intro behind ends
    exact .unraised (inner behind ends.operand) ends.noCaret
  | raised _ _ head inner =>
    intro behind ends
    rw [List.append_assoc]
    exact .raised (head _ (by simp [EndsOperand])) (inner behind ends)
  | whole n => exact fun behind _ => .whole n behind
  | real x => exact fun behind _ => .real x behind
  | reference name => exact fun behind ends => .reference ends
  | call _ known inner =>
    intro behind _
    have arguments := (inner _ rfl behind).1
    rw [List.cons_append, List.cons_append, List.append_assoc]
    exact .call arguments known
  | group _ inner =>
    intro behind _
    rw [List.cons_append, List.append_assoc]
    exact .group (inner.sum_alone (endsSum_closeParen behind))
  | @argument tokens e function only inner =>
    intro arguments same behind
    cases same
    have alone := inner.sum_alone (endsSum_closeParen behind)
    obtain ⟨token, rest, rfl, begins, -⟩ := only.exists_begins
    refine ⟨.someArguments ?_ alone (.lastArgument function [e] behind), ?_⟩
    · rintro same
      cases Option.some.inj same
      cases begins
    · intro reversed
      have last := Reads.lastArgument function (e :: reversed) behind
      rw [List.reverse_cons] at last
      exact .nextArgument alone last
  | @arguments function first later e rest head _ headReads inner =>
    intro arguments same behind
    cases same
    have alone := headReads.sum_alone (endsSum_comma (later ++ .closeParen :: behind))
    have more := (inner _ rfl behind).2
    rw [List.append_assoc]
    obtain ⟨token, others, rfl, begins, -⟩ := head.exists_begins
    refine ⟨.someArguments ?_ alone (more [e]), ?_⟩
    · rintro same
      cases Option.some.inj same
      cases begins
    · intro reversed
      have tail := more (e :: reversed)
      rw [List.reverse_cons, List.append_assoc] at tail
      exact .nextArgument alone tail

/-- A row of tokens is read exactly as the tree that it derives. -/
theorem ofTokens?_eq_ok_iff_derives (tokens : List Token) (e : Expr) :
    ofTokens? tokens = .ok e ↔ Derives .sum tokens e := by
  rw [ofTokens?_eq_ok_iff]
  constructor
  · intro reads
    obtain ⟨front, rfl, derives⟩ := covers_of_reads reads
    rwa [List.append_nil]
  · intro derives
    have reads := (readsAs_of_derives derives).sum_alone endsSum_nil
    rwa [List.append_nil] at reads

end InputDeck.Formula
