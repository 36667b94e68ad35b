import InputDeck.Formula.Parser

/-!
# What a formula reads as

Reading a phrase relates the tokens it begins with, its tree and the tokens behind it. The tokens
behind are part of the relation, because a phrase is as long as it can be: a sum stops only where
no plus or minus follows, and a name is a call wherever a parenthesis follows. The relation holds
exactly when reading succeeds, so a row of tokens reads in one way at most.
-/

namespace InputDeck.Formula

/-- The phrases of a formula, with what has been read of them. The arguments of a call are given in
reverse, as they are while they are read. -/
inductive Phrase where
  | sum
  | sumTail (left : Expr)
  | product
  | productTail (left : Expr)
  | signed
  | power
  | operand
  | arguments (function : Text)
  | argumentsTail (function : Text) (reversed : List Expr)

/-- The tokens begin with the phrase, whose tree and remaining tokens are given. Arguments are read
as the call they belong to. -/
inductive Reads : Phrase → List Token → Expr → List Token → Prop
  | sum {tokens rest behind : List Token} {first e : Expr}
      (head : Reads .product tokens first rest) (tail : Reads (.sumTail first) rest e behind) :
      Reads .sum tokens e behind
  | sumStop {tokens : List Token} {left : Expr}
      (stops : tokens.head?.bind sumOperator? = none) :
      Reads (.sumTail left) tokens left tokens
  | sumMore {token : Token} {after rest behind : List Token} {operator : Operator}
      {left right e : Expr} (operates : sumOperator? token = some operator)
      (head : Reads .product after right rest)
      (tail : Reads (.sumTail (.binary operator left right)) rest e behind) :
      Reads (.sumTail left) (token :: after) e behind
  | product {tokens rest behind : List Token} {first e : Expr}
      (head : Reads .signed tokens first rest)
      (tail : Reads (.productTail first) rest e behind) :
      Reads .product tokens e behind
  | productStop {tokens : List Token} {left : Expr}
      (stops : tokens.head?.bind productOperator? = none) :
      Reads (.productTail left) tokens left tokens
  | productMore {token : Token} {after rest behind : List Token} {operator : Operator}
      {left right e : Expr} (operates : productOperator? token = some operator)
      (head : Reads .signed after right rest)
      (tail : Reads (.productTail (.binary operator left right)) rest e behind) :
      Reads (.productTail left) (token :: after) e behind
  | minus {after behind : List Token} {e : Expr} (inner : Reads .signed after e behind) :
      Reads .signed (.minus :: after) (.neg e) behind
  | plus {after behind : List Token} {e : Expr} (inner : Reads .signed after e behind) :
      Reads .signed (.plus :: after) e behind
  | unsigned {tokens behind : List Token} {e : Expr}
      (unsigned : tokens.head? ≠ some .minus ∧ tokens.head? ≠ some .plus)
      (inner : Reads .power tokens e behind) : Reads .signed tokens e behind
  | raised {tokens after behind : List Token} {base exponent : Expr}
      (head : Reads .operand tokens base (.caret :: after))
      (inner : Reads .signed after exponent behind) :
      Reads .power tokens (.binary .pow base exponent) behind
  | unraised {tokens behind : List Token} {base : Expr}
      (head : Reads .operand tokens base behind) (stops : behind.head? ≠ some .caret) :
      Reads .power tokens base behind
  | whole (n : Int64) (after : List Token) :
      Reads .operand (.whole n :: after) (.literal (.int n)) after
  | real (x : Float) (after : List Token) :
      Reads .operand (.real x :: after) (.literal (.real x)) after
  | reference {name : Text} {after : List Token} (stops : after.head? ≠ some .openParen) :
      Reads .operand (.name name :: after) (.reference name) after
  | call {function : Text} {after behind : List Token} {arguments : List Expr}
      (inner : Reads (.arguments function) after (.call function arguments) behind)
      (known : arity? function = some arguments.length) :
      Reads .operand (.name function :: .openParen :: after) (.call function arguments) behind
  | group {after behind : List Token} {e : Expr}
      (inner : Reads .sum after e (.closeParen :: behind)) :
      Reads .operand (.openParen :: after) e behind
  | noArguments (function : Text) (after : List Token) :
      Reads (.arguments function) (.closeParen :: after) (.call function []) after
  | someArguments {function : Text} {tokens rest behind : List Token} {first e : Expr}
      (opens : tokens.head? ≠ some .closeParen) (head : Reads .sum tokens first rest)
      (tail : Reads (.argumentsTail function [first]) rest e behind) :
      Reads (.arguments function) tokens e behind
  | nextArgument {function : Text} {after rest behind : List Token} {reversed : List Expr}
      {next e : Expr} (head : Reads .sum after next rest)
      (tail : Reads (.argumentsTail function (next :: reversed)) rest e behind) :
      Reads (.argumentsTail function reversed) (.comma :: after) e behind
  | lastArgument (function : Text) (reversed : List Expr) (after : List Token) :
      Reads (.argumentsTail function reversed) (.closeParen :: after)
        (.call function reversed.reverse) after

section Tails

variable {all after : List Token} {before : Rest all} {token : Token}

/-- A sum ends where no plus or minus follows. -/
theorem sumTail_of_stop {left : Expr} (stops : before.list.head?.bind sumOperator? = none) :
    sumTail left before = .ok (left, before) := by
  unfold sumTail
  split
  · rfl
  · rename_i token after remaining
    rw [remaining, List.head?_cons, Option.bind_some] at stops
    simp only [stops]

/-- A sum goes on with the product behind an operator. -/
theorem sumTail_of_operator {operator : Operator} {left right : Expr} {rest : Rest after}
    (remaining : before.list = token :: after) (operates : sumOperator? token = some operator)
    (read : product after = .ok (right, rest)) :
    ∃ later : Rest all, later.list = rest.list ∧
      sumTail left before = sumTail (.binary operator left right) later := by
  rw [sumTail]
  split
  · rename_i nothing
    rw [nothing] at remaining
    cases remaining
  · rename_i first others same
    rw [remaining] at same
    cases same
    simp only [operates, read]
    exact ⟨_, rfl, rfl⟩

/-- A product ends where neither times nor divided by follows. -/
theorem productTail_of_stop {left : Expr}
    (stops : before.list.head?.bind productOperator? = none) :
    productTail left before = .ok (left, before) := by
  unfold productTail
  split
  · rfl
  · rename_i token after remaining
    rw [remaining, List.head?_cons, Option.bind_some] at stops
    simp only [stops]

/-- A product goes on with the signed operand behind an operator. -/
theorem productTail_of_operator {operator : Operator} {left right : Expr} {rest : Rest after}
    (remaining : before.list = token :: after)
    (operates : productOperator? token = some operator)
    (read : signed after = .ok (right, rest)) :
    ∃ later : Rest all, later.list = rest.list ∧
      productTail left before = productTail (.binary operator left right) later := by
  rw [productTail]
  split
  · rename_i nothing
    rw [nothing] at remaining
    cases remaining
  · rename_i first others same
    rw [remaining] at same
    cases same
    simp only [operates, read]
    exact ⟨_, rfl, rfl⟩

/-- Arguments go on behind a comma. -/
theorem argumentsTail_of_comma {function : Text} {reversed : List Expr} {next : Expr}
    {rest : Rest after} (remaining : before.list = .comma :: after)
    (read : sum after = .ok (next, rest)) :
    ∃ later : Rest all, later.list = rest.list ∧
      argumentsTail function reversed before = argumentsTail function (next :: reversed) later := by
  rw [argumentsTail]
  split
  · rename_i others same
    rw [remaining] at same
    cases same
    simp only [read]
    exact ⟨_, rfl, rfl⟩
  · rename_i same
    rw [remaining] at same
    cases same
  · rename_i notComma _
    exact absurd remaining (notComma _)

/-- Arguments end with a closing parenthesis. -/
theorem argumentsTail_of_close {function : Text} {reversed : List Expr}
    (remaining : before.list = .closeParen :: after) :
    ∃ later : Rest all, later.list = after ∧
      argumentsTail function reversed before = .ok (reversed.reverse, later) := by
  rw [argumentsTail]
  split
  · rename_i same
    rw [remaining] at same
    cases same
  · rename_i same
    rw [remaining] at same
    cases same
    exact ⟨_, rfl, rfl⟩
  · rename_i notClosed
    exact absurd remaining (notClosed _)

end Tails

/-- What reading a phrase returns when it succeeds with this tree and these tokens behind it. -/
def Phrase.Returns : Phrase → List Token → Expr → List Token → Prop
  | .sum, tokens, e, behind => ∃ rest, Formula.sum tokens = .ok (e, rest) ∧ rest.list = behind
  | .sumTail left, tokens, e, behind =>
    ∀ (all : List Token) (before : Rest all), before.list = tokens →
      ∃ rest, Formula.sumTail left before = .ok (e, rest) ∧ rest.list = behind
  | .product, tokens, e, behind =>
    ∃ rest, Formula.product tokens = .ok (e, rest) ∧ rest.list = behind
  | .productTail left, tokens, e, behind =>
    ∀ (all : List Token) (before : Rest all), before.list = tokens →
      ∃ rest, Formula.productTail left before = .ok (e, rest) ∧ rest.list = behind
  | .signed, tokens, e, behind =>
    ∃ rest, Formula.signed tokens = .ok (e, rest) ∧ rest.list = behind
  | .power, tokens, e, behind =>
    ∃ rest, Formula.power tokens = .ok (e, rest) ∧ rest.list = behind
  | .operand, tokens, e, behind =>
    ∃ rest, Formula.operand tokens = .ok (e, rest) ∧ rest.list = behind
  | .arguments function, tokens, e, behind =>
    ∃ arguments rest, Formula.arguments function tokens = .ok (arguments, rest) ∧
      e = .call function arguments ∧ rest.list = behind
  | .argumentsTail function reversed, tokens, e, behind =>
    ∀ (all : List Token) (before : Rest all), before.list = tokens →
      ∃ arguments rest, Formula.argumentsTail function reversed before = .ok (arguments, rest) ∧
        e = .call function arguments ∧ rest.list = behind

/-- Reading succeeds wherever the relation holds. -/
theorem returns_of_reads {phrase : Phrase} {tokens behind : List Token} {e : Expr}
    (reads : Reads phrase tokens e behind) : phrase.Returns tokens e behind := by
  induction reads with
  | sum _ _ headReturns tailReturns =>
    obtain ⟨rest, read, rfl⟩ := headReturns
    obtain ⟨later, tailRead, rfl⟩ := tailReturns _ rest rfl
    exact ⟨later, by rw [Formula.sum, read]; exact tailRead, rfl⟩
  | sumStop stops =>
    intro all before same
    rw [← same] at stops
    exact ⟨before, sumTail_of_stop stops, same⟩
  | sumMore operates _ _ headReturns tailReturns =>
    intro all before remaining
    obtain ⟨rest, read, rfl⟩ := headReturns
    obtain ⟨later, same, goesOn⟩ := sumTail_of_operator remaining operates read
    rw [goesOn]
    exact tailReturns all later same
  | product _ _ headReturns tailReturns =>
    obtain ⟨rest, read, rfl⟩ := headReturns
    obtain ⟨later, tailRead, rfl⟩ := tailReturns _ rest rfl
    exact ⟨later, by rw [Formula.product, read]; exact tailRead, rfl⟩
  | productStop stops =>
    intro all before same
    rw [← same] at stops
    exact ⟨before, productTail_of_stop stops, same⟩
  | productMore operates _ _ headReturns tailReturns =>
    intro all before remaining
    obtain ⟨rest, read, rfl⟩ := headReturns
    obtain ⟨later, same, goesOn⟩ := productTail_of_operator remaining operates read
    rw [goesOn]
    exact tailReturns all later same
  | minus _ innerReturns =>
    obtain ⟨rest, read, rfl⟩ := innerReturns
    exact ⟨_, by rw [Formula.signed, read], rfl⟩
  | plus _ innerReturns =>
    obtain ⟨rest, read, rfl⟩ := innerReturns
    exact ⟨_, by rw [Formula.signed, read], rfl⟩
  | @unsigned tokens _ _ unsigned _ innerReturns =>
    obtain ⟨rest, read, rfl⟩ := innerReturns
    refine ⟨rest, ?_, rfl⟩
    unfold Formula.signed
    split
    · exact absurd rfl unsigned.1
    · exact absurd rfl unsigned.2
    · exact read
  | raised _ _ headReturns innerReturns =>
    obtain ⟨rest, read, same⟩ := headReturns
    obtain ⟨later, innerRead, rfl⟩ := innerReturns
    change ∃ rest, Formula.power _ = .ok (_, rest) ∧ rest.list = _
    unfold Formula.power
    simp only [read]
    split
    · rename_i after remaining
      rw [remaining] at same
      cases same
      simp only [innerRead]
      exact ⟨_, rfl, rfl⟩
    · rename_i notCaret
      exact absurd same (notCaret _)
  | unraised _ stops headReturns =>
    obtain ⟨rest, read, rfl⟩ := headReturns
    change ∃ rest, Formula.power _ = .ok (_, rest) ∧ rest.list = _
    unfold Formula.power
    simp only [read]
    split
    · rename_i after remaining
      rw [remaining] at stops
      exact absurd rfl stops
    · exact ⟨rest, rfl, rfl⟩
  | whole n after => exact ⟨_, by rw [Formula.operand], rfl⟩
  | real x after => exact ⟨_, by rw [Formula.operand], rfl⟩
  | @reference name after stops =>
    refine ⟨⟨after, by simp⟩, ?_, rfl⟩
    rw [Formula.operand]
    intro later same
    rw [same] at stops
    exact stops rfl
  | call _ known innerReturns =>
    obtain ⟨arguments, rest, read, same, rfl⟩ := innerReturns
    cases same
    change ∃ rest, Formula.operand _ = .ok (_, rest) ∧ rest.list = _
    unfold Formula.operand
    simp only [read, checkedCall, known, ite_true]
    exact ⟨_, rfl, rfl⟩
  | group _ innerReturns =>
    obtain ⟨rest, read, same⟩ := innerReturns
    change ∃ rest, Formula.operand _ = .ok (_, rest) ∧ rest.list = _
    unfold Formula.operand
    simp only [read]
    split
    · rename_i later remaining
      rw [remaining] at same
      cases same
      exact ⟨_, rfl, rfl⟩
    · rename_i notClosed
      exact absurd same (notClosed _)
  | noArguments function after => exact ⟨[], _, by rw [Formula.arguments], rfl, rfl⟩
  | someArguments opens _ _ headReturns tailReturns =>
    obtain ⟨rest, read, rfl⟩ := headReturns
    obtain ⟨arguments, later, tailRead, same, rfl⟩ := tailReturns _ rest rfl
    refine ⟨arguments, later, ?_, same, rfl⟩
    unfold Formula.arguments
    split
    · exact absurd rfl opens
    · simp only [read]
      exact tailRead
  | nextArgument _ _ headReturns tailReturns =>
    intro all before remaining
    obtain ⟨rest, read, rfl⟩ := headReturns
    obtain ⟨later, same, goesOn⟩ := argumentsTail_of_comma remaining read
    rw [goesOn]
    exact tailReturns all later same
  | lastArgument function reversed after =>
    intro all before remaining
    obtain ⟨later, same, ends⟩ := argumentsTail_of_close remaining
    exact ⟨reversed.reverse, later, ends, rfl, same⟩

/-- A call goes through exactly with the number of arguments of a known function. -/
theorem checkedCall_eq_ok_iff (function : Text) (arguments : List Expr) (call : Expr) :
    checkedCall function arguments = .ok call ↔
      arity? function = some arguments.length ∧ call = .call function arguments := by
  unfold checkedCall
  split
  · rename_i unknown
    simp [unknown]
  · rename_i expected known
    by_cases fits : expected = arguments.length
    · simp [known, fits, eq_comm]
    · simp [known, fits]

mutual

/-- A sum that is read holds. -/
theorem reads_of_sum {tokens : List Token} {e : Expr} {behind : Rest tokens}
    (read : sum tokens = .ok (e, behind)) : Reads .sum tokens e behind.list := by
  unfold sum at read
  split at read
  · cases read
  · rename_i first rest productRead
    have := rest.shorter
    exact .sum (reads_of_product productRead) (reads_of_sumTail read)
termination_by (tokens.length, 6)

/-- What follows a sum and is read holds. -/
theorem reads_of_sumTail {tokens : List Token} {left e : Expr} {before behind : Rest tokens}
    (read : sumTail left before = .ok (e, behind)) :
    Reads (.sumTail left) before.list e behind.list := by
  unfold sumTail at read
  split at read
  · rename_i remaining
    cases read
    exact .sumStop (by rw [remaining]; rfl)
  · rename_i token after remaining
    split at read
    · rename_i stops
      cases read
      exact .sumStop (by rw [remaining]; exact stops)
    · rename_i operator operates
      have consumed : after.length < before.list.length := by simp [remaining]
      have := before.shorter
      simp only at read
      split at read
      · cases read
      · rename_i right later productRead
        have := later.shorter
        rw [remaining]
        exact .sumMore operates (reads_of_product productRead) (reads_of_sumTail read)
termination_by (before.list.length, 7)

/-- A product that is read holds. -/
theorem reads_of_product {tokens : List Token} {e : Expr} {behind : Rest tokens}
    (read : product tokens = .ok (e, behind)) : Reads .product tokens e behind.list := by
  unfold product at read
  split at read
  · cases read
  · rename_i first rest signedRead
    have := rest.shorter
    exact .product (reads_of_signed signedRead) (reads_of_productTail read)
termination_by (tokens.length, 4)

/-- What follows a product and is read holds. -/
theorem reads_of_productTail {tokens : List Token} {left e : Expr} {before behind : Rest tokens}
    (read : productTail left before = .ok (e, behind)) :
    Reads (.productTail left) before.list e behind.list := by
  unfold productTail at read
  split at read
  · rename_i remaining
    cases read
    exact .productStop (by rw [remaining]; rfl)
  · rename_i token after remaining
    split at read
    · rename_i stops
      cases read
      exact .productStop (by rw [remaining]; exact stops)
    · rename_i operator operates
      have consumed : after.length < before.list.length := by simp [remaining]
      have := before.shorter
      simp only at read
      split at read
      · cases read
      · rename_i right later signedRead
        have := later.shorter
        rw [remaining]
        exact .productMore operates (reads_of_signed signedRead) (reads_of_productTail read)
termination_by (before.list.length, 5)

/-- A signed operand that is read holds. -/
theorem reads_of_signed {tokens : List Token} {e : Expr} {behind : Rest tokens}
    (read : signed tokens = .ok (e, behind)) : Reads .signed tokens e behind.list := by
  unfold signed at read
  split at read
  · split at read
    · cases read
    · rename_i signedRead
      cases read
      exact .minus (reads_of_signed signedRead)
  · split at read
    · cases read
    · rename_i signedRead
      cases read
      exact .plus (reads_of_signed signedRead)
  · rename_i notMinus notPlus
    refine .unsigned ⟨?_, ?_⟩ (reads_of_power read)
    · intro head
      obtain ⟨after, same⟩ := List.head?_eq_some_iff.1 head
      exact notMinus after same
    · intro head
      obtain ⟨after, same⟩ := List.head?_eq_some_iff.1 head
      exact notPlus after same
termination_by (tokens.length, 3)

/-- A power that is read holds. -/
theorem reads_of_power {tokens : List Token} {e : Expr} {behind : Rest tokens}
    (read : power tokens = .ok (e, behind)) : Reads .power tokens e behind.list := by
  unfold power at read
  split at read
  · cases read
  · rename_i base rest operandRead
    have := rest.shorter
    simp only at read
    split at read
    · rename_i after remaining
      have consumed : after.length < rest.list.length := by simp [remaining]
      split at read
      · cases read
      · rename_i exponent later signedRead
        cases read
        have head := reads_of_operand operandRead
        rw [remaining] at head
        exact .raised head (reads_of_signed signedRead)
    · rename_i notCaret
      cases read
      apply Reads.unraised (reads_of_operand operandRead)
      intro head
      obtain ⟨after, same⟩ := List.head?_eq_some_iff.1 head
      exact notCaret after same
termination_by (tokens.length, 2)

/-- An operand that is read holds. -/
theorem reads_of_operand {tokens : List Token} {e : Expr} {behind : Rest tokens}
    (read : operand tokens = .ok (e, behind)) : Reads .operand tokens e behind.list := by
  unfold operand at read
  split at read
  · cases read
  · cases read
    exact .whole _ _
  · cases read
    exact .real _ _
  · rename_i function after
    split at read
    · cases read
    · rename_i arguments rest argumentsRead
      split at read
      · cases read
      · rename_i call checked
        cases read
        obtain ⟨known, rfl⟩ := (checkedCall_eq_ok_iff _ _ _).1 checked
        exact .call (reads_of_arguments argumentsRead) known
  · rename_i name after notCall
    cases read
    apply Reads.reference
    intro head
    obtain ⟨later, same⟩ := List.head?_eq_some_iff.1 head
    exact notCall later same
  · split at read
    · cases read
    · rename_i inner rest sumRead
      simp only at read
      split at read
      · rename_i later remaining
        cases read
        have inner := reads_of_sum sumRead
        rw [remaining] at inner
        exact .group inner
      · cases read
  · cases read
termination_by (tokens.length, 1)

/-- Arguments that are read hold. -/
theorem reads_of_arguments {function : Text} {tokens : List Token} {arguments : List Expr}
    {behind : Rest tokens}
    (read : Formula.arguments function tokens = .ok (arguments, behind)) :
    Reads (.arguments function) tokens (.call function arguments) behind.list := by
  unfold Formula.arguments at read
  split at read
  · cases read
    exact .noArguments _ _
  · rename_i notClosed
    split at read
    · cases read
    · rename_i first rest sumRead
      have := rest.shorter
      refine .someArguments ?_ (reads_of_sum sumRead) (reads_of_argumentsTail read)
      intro head
      obtain ⟨after, same⟩ := List.head?_eq_some_iff.1 head
      exact notClosed after same
termination_by (tokens.length, 8)

/-- What follows arguments and is read holds. -/
theorem reads_of_argumentsTail {function : Text} {tokens : List Token}
    {reversed arguments : List Expr} {before behind : Rest tokens}
    (read : argumentsTail function reversed before = .ok (arguments, behind)) :
    Reads (.argumentsTail function reversed) before.list (.call function arguments)
      behind.list := by
  unfold argumentsTail at read
  split at read
  · rename_i after remaining
    have consumed : after.length < before.list.length := by simp [remaining]
    have := before.shorter
    simp only at read
    split at read
    · cases read
    · rename_i next later sumRead
      have := later.shorter
      rw [remaining]
      exact .nextArgument (reads_of_sum sumRead) (reads_of_argumentsTail read)
  · rename_i after remaining
    cases read
    have last := Reads.lastArgument function reversed after
    rw [← remaining] at last
    exact last
  · cases read
termination_by (before.list.length, 9)

end

/-- A sum is read in one way at most. -/
theorem reads_sum_unique {tokens behind other : List Token} {e e' : Expr}
    (reads : Reads .sum tokens e behind) (reads' : Reads .sum tokens e' other) :
    e = e' ∧ behind = other := by
  obtain ⟨rest, read, rfl⟩ := returns_of_reads reads
  obtain ⟨rest', read', rfl⟩ := returns_of_reads reads'
  rw [read] at read'
  cases read'
  exact ⟨rfl, rfl⟩

/-- A row of tokens is a formula exactly when it reads as a sum with nothing behind it. -/
theorem ofTokens?_eq_ok_iff (tokens : List Token) (e : Expr) :
    ofTokens? tokens = .ok e ↔ Reads .sum tokens e [] := by
  unfold ofTokens?
  constructor
  · intro read
    split at read
    · cases read
    · rename_i sumRead
      split at read
      · rename_i nothing
        cases read
        have reads := reads_of_sum sumRead
        rwa [nothing] at reads
      · cases read
  · intro reads
    obtain ⟨rest, read, nothing⟩ := returns_of_reads reads
    simp only [read, nothing]

end InputDeck.Formula
