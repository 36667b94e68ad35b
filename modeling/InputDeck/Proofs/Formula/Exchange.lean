import InputDeck.Proofs.Formula.Reading

/-!
# Exchanging the contents of parentheses

A parenthesis keeps what stands inside apart from what stands around it. So when the tokens inside
some parentheses are exchanged for others that are a sum as well, a formula still reads, and its
tree is the same with the trees of these sums exchanged. A name before such a parenthesis makes it
a call of one argument, on both sides.
-/

namespace InputDeck.Formula

/-- The same tree, except that parts of it are exchanged for related ones. -/
inductive Expr.Exchanged (R : Expr → Expr → Prop) : Expr → Expr → Prop
  | part {e e' : Expr} (related : R e e') : Exchanged R e e'
  | literal (v : Value) : Exchanged R (.literal v) (.literal v)
  | reference (name : Text) : Exchanged R (.reference name) (.reference name)
  | neg {e e' : Expr} (inner : Exchanged R e e') : Exchanged R (.neg e) (.neg e')
  | binary (operator : Operator) {left left' right right' : Expr}
      (first : Exchanged R left left') (second : Exchanged R right right') :
      Exchanged R (.binary operator left right) (.binary operator left' right')
  | call (function : Text) (arguments : List (Expr × Expr))
      (each : ∀ pair ∈ arguments, Exchanged R pair.1 pair.2) :
      Exchanged R (.call function (arguments.map Prod.fst))
        (.call function (arguments.map Prod.snd))

/-- The same phrase, except that parts of what has been read are exchanged for related ones. -/
inductive Phrase.Exchanged (R : Expr → Expr → Prop) : Phrase → Phrase → Prop
  | sum : Exchanged R .sum .sum
  | sumTail {left left' : Expr} (before : left.Exchanged R left') :
      Exchanged R (.sumTail left) (.sumTail left')
  | product : Exchanged R .product .product
  | productTail {left left' : Expr} (before : left.Exchanged R left') :
      Exchanged R (.productTail left) (.productTail left')
  | signed : Exchanged R .signed .signed
  | power : Exchanged R .power .power
  | operand : Exchanged R .operand .operand
  | arguments (function : Text) : Exchanged R (.arguments function) (.arguments function)
  | argumentsTail (function : Text) (reversed : List (Expr × Expr))
      (each : ∀ pair ∈ reversed, pair.1.Exchanged R pair.2) :
      Exchanged R (.argumentsTail function (reversed.map Prod.fst))
        (.argumentsTail function (reversed.map Prod.snd))

/-- Before a closing parenthesis the tokens are a sum with this tree. -/
def Encloses (inner : List Token) (e : Expr) : Prop :=
  ∀ after, Reads .sum (inner ++ .closeParen :: after) e (.closeParen :: after)

/-- The same tokens, except that sums in parentheses are exchanged for others with related
trees. -/
inductive Exchange (R : Expr → Expr → Prop) : List Token → List Token → Prop
  | nil : Exchange R [] []
  | token (token : Token) {tokens tokens' : List Token} (later : Exchange R tokens tokens') :
      Exchange R (token :: tokens) (token :: tokens')
  | group {inner inner' tokens tokens' : List Token} {e e' : Expr} (related : R e e')
      (encloses : Encloses inner e) (encloses' : Encloses inner' e')
      (later : Exchange R tokens tokens') :
      Exchange R (.openParen :: (inner ++ .closeParen :: tokens))
        (.openParen :: (inner' ++ .closeParen :: tokens'))

/-- No sum begins with a closing parenthesis. -/
theorem not_reads_sum_closeParen {after behind : List Token} {e : Expr} :
    ¬Reads .sum (.closeParen :: after) e behind := by
  intro reads
  cases reads with
  | sum productReads =>
    cases productReads with
    | product signedReads =>
      cases signedReads with
      | unsigned _ powerReads =>
        cases powerReads with
        | raised operandReads => cases operandReads
        | unraised operandReads => cases operandReads

namespace Exchange

variable {R : Expr → Expr → Prop}

/-- Exchanging nothing. -/
theorem refl (tokens : List Token) : Exchange R tokens tokens := by
  induction tokens with
  | nil => exact .nil
  | cons token rest inductionHypothesis => exact .token token inductionHypothesis

/-- One exchange behind another. -/
theorem append {first first' second second' : List Token} (before : Exchange R first first')
    (behind : Exchange R second second') : Exchange R (first ++ second) (first' ++ second') := by
  induction before with
  | nil => exact behind
  | token token _ inductionHypothesis => exact .token token inductionHypothesis
  | group related encloses encloses' _ inductionHypothesis =>
    simpa using Exchange.group related encloses encloses' inductionHypothesis

/-- The first token stays. -/
theorem head?_eq {tokens tokens' : List Token} (exchange : Exchange R tokens tokens') :
    tokens'.head? = tokens.head? := by
  cases exchange <;> rfl

/-- Behind a token that opens no parenthesis the exchange goes on. -/
theorem of_cons {token : Token} {after tokens' : List Token}
    (exchange : Exchange R (token :: after) tokens') (notOpen : token ≠ .openParen) :
    ∃ after', tokens' = token :: after' ∧ Exchange R after after' := by
  cases exchange with
  | token _ later => exact ⟨_, rfl, later⟩
  | group => exact absurd rfl notOpen

end Exchange

/-- A call is exchanged for a call of the same function with as many arguments. -/
theorem Expr.Exchanged.of_call {R : Expr → Expr → Prop}
    (noCall : ∀ function arguments e', ¬R (.call function arguments) e') {function : Text}
    {arguments : List Expr} {e' : Expr}
    (exchanged : (Expr.call function arguments).Exchanged R e') :
    ∃ pairs : List (Expr × Expr), arguments = pairs.map Prod.fst ∧
      e' = .call function (pairs.map Prod.snd) ∧ ∀ pair ∈ pairs, pair.1.Exchanged R pair.2 := by
  cases exchanged with
  | part related => exact absurd related (noCall _ _ _)
  | call _ pairs each => exact ⟨pairs, rfl, rfl, each⟩

/-- Rows of arguments with the same names in each have the same names. -/
theorem argumentNames_map {pairs : List (Expr × Expr)}
    (each : ∀ pair ∈ pairs, pair.2.names = pair.1.names) :
    argumentNames (pairs.map Prod.snd) = argumentNames (pairs.map Prod.fst) := by
  induction pairs with
  | nil => rfl
  | cons pair rest inductionHypothesis =>
    obtain ⟨first, later⟩ := List.forall_mem_cons.1 each
    simp only [List.map_cons, argumentNames, first, inductionHypothesis later]

/-- Exchanging parts for parts with the same names keeps the names. -/
theorem Expr.Exchanged.names_eq {R : Expr → Expr → Prop}
    (same : ∀ e e', R e e' → e'.names = e.names) {e e' : Expr} (exchanged : e.Exchanged R e') :
    e'.names = e.names := by
  induction exchanged with
  | part related => exact same _ _ related
  | literal v => rfl
  | reference name => rfl
  | neg _ inner => simpa [Expr.names] using inner
  | binary operator _ _ first second => simp [Expr.names, first, second]
  | call function arguments _ each => simpa [Expr.names] using argumentNames_map each

/-- A sum before a closing parenthesis does not begin with one. -/
theorem Encloses.head?_ne {inner : List Token} {e : Expr} (encloses : Encloses inner e)
    (after : List Token) : (inner ++ .closeParen :: after).head? ≠ some .closeParen := by
  intro closes
  obtain ⟨later, same⟩ := List.head?_eq_some_iff.1 closes
  have reads := encloses after
  rw [same] at reads
  exact not_reads_sum_closeParen reads

/-- A sum in the parentheses of a call is its only argument. -/
theorem arguments_of_encloses {inner : List Token} {e : Expr} (encloses : Encloses inner e)
    (function : Text) (after : List Token) :
    Reads (.arguments function) (inner ++ .closeParen :: after) (.call function [e]) after :=
  .someArguments (encloses.head?_ne after) (encloses after) (.lastArgument function [e] after)

/-- Arguments that begin with a sum before a closing parenthesis are this sum. -/
theorem reads_arguments_enclosed {inner : List Token} {e call : Expr}
    (encloses : Encloses inner e) {function : Text} {after behind : List Token}
    (reads : Reads (.arguments function) (inner ++ .closeParen :: after) call behind) :
    call = .call function [e] ∧ behind = after := by
  generalize same : inner ++ .closeParen :: after = tokens at reads
  cases reads with
  | noArguments _ later =>
    have notClosed := encloses.head?_ne after
    rw [same] at notClosed
    exact absurd rfl notClosed
  | someArguments _ head tail =>
    rw [← same] at head
    obtain ⟨rfl, rfl⟩ := reads_sum_unique head (encloses after)
    cases tail
    exact ⟨rfl, rfl⟩

/-- With sums in parentheses exchanged, every phrase still reads, and its tree is exchanged. -/
theorem reads_exchange {R : Expr → Expr → Prop}
    (noCall : ∀ function arguments e', ¬R (.call function arguments) e') {phrase : Phrase}
    {tokens behind : List Token} {e : Expr} (reads : Reads phrase tokens e behind) :
    ∀ {phrase' tokens'}, phrase.Exchanged R phrase' → Exchange R tokens tokens' →
      ∃ e' behind', Reads phrase' tokens' e' behind' ∧ e.Exchanged R e' ∧
        Exchange R behind behind' := by
  induction reads with
  | sum _ _ headExchange tailExchange =>
    rintro _ _ ⟨⟩ exchange
    obtain ⟨first, rest, head, firstExchanged, later⟩ := headExchange .product exchange
    obtain ⟨e, behind, tail, exchanged, last⟩ := tailExchange (.sumTail firstExchanged) later
    exact ⟨e, behind, .sum head tail, exchanged, last⟩
  | sumStop stops =>
    rintro _ tokens' ⟨⟩ exchange
    rename_i left' before
    exact ⟨left', tokens', .sumStop (by rw [exchange.head?_eq]; exact stops), before, exchange⟩
  | sumMore operates _ _ headExchange tailExchange =>
    rintro _ _ ⟨⟩ exchange
    rename_i left' before
    obtain ⟨after, rfl, later⟩ := exchange.of_cons (by rintro rfl; cases operates)
    obtain ⟨right, rest, head, rightExchanged, later⟩ := headExchange .product later
    obtain ⟨e, behind, tail, exchanged, last⟩ :=
      tailExchange (.sumTail (.binary _ before rightExchanged)) later
    exact ⟨e, behind, .sumMore operates head tail, exchanged, last⟩
  | product _ _ headExchange tailExchange =>
    rintro _ _ ⟨⟩ exchange
    obtain ⟨first, rest, head, firstExchanged, later⟩ := headExchange .signed exchange
    obtain ⟨e, behind, tail, exchanged, last⟩ := tailExchange (.productTail firstExchanged) later
    exact ⟨e, behind, .product head tail, exchanged, last⟩
  | productStop stops =>
    rintro _ tokens' ⟨⟩ exchange
    rename_i left' before
    exact ⟨left', tokens', .productStop (by rw [exchange.head?_eq]; exact stops), before, exchange⟩
  | productMore operates _ _ headExchange tailExchange =>
    rintro _ _ ⟨⟩ exchange
    rename_i left' before
    obtain ⟨after, rfl, later⟩ := exchange.of_cons (by rintro rfl; cases operates)
    obtain ⟨right, rest, head, rightExchanged, later⟩ := headExchange .signed later
    obtain ⟨e, behind, tail, exchanged, last⟩ :=
      tailExchange (.productTail (.binary _ before rightExchanged)) later
    exact ⟨e, behind, .productMore operates head tail, exchanged, last⟩
  | minus _ innerExchange =>
    rintro _ _ ⟨⟩ exchange
    obtain ⟨after, rfl, later⟩ := exchange.of_cons Token.noConfusion
    obtain ⟨e, behind, inner, exchanged, last⟩ := innerExchange .signed later
    exact ⟨.neg e, behind, .minus inner, .neg exchanged, last⟩
  | plus _ innerExchange =>
    rintro _ _ ⟨⟩ exchange
    obtain ⟨after, rfl, later⟩ := exchange.of_cons Token.noConfusion
    obtain ⟨e, behind, inner, exchanged, last⟩ := innerExchange .signed later
    exact ⟨e, behind, .plus inner, exchanged, last⟩
  | unsigned unsigned _ innerExchange =>
    rintro _ _ ⟨⟩ exchange
    obtain ⟨e, behind, inner, exchanged, last⟩ := innerExchange .power exchange
    exact ⟨e, behind, .unsigned (by rw [exchange.head?_eq]; exact unsigned) inner, exchanged,
      last⟩
  | raised _ _ headExchange innerExchange =>
    rintro _ _ ⟨⟩ exchange
    obtain ⟨base, rest, head, baseExchanged, caret⟩ := headExchange .operand exchange
    obtain ⟨after, rfl, later⟩ := caret.of_cons Token.noConfusion
    obtain ⟨exponent, behind, inner, exponentExchanged, last⟩ := innerExchange .signed later
    exact ⟨_, behind, .raised head inner, .binary _ baseExchanged exponentExchanged, last⟩
  | unraised _ stops headExchange =>
    rintro _ _ ⟨⟩ exchange
    obtain ⟨base, behind, head, exchanged, last⟩ := headExchange .operand exchange
    exact ⟨base, behind, .unraised head (by rw [last.head?_eq]; exact stops), exchanged, last⟩
  | whole n after =>
    rintro _ _ ⟨⟩ exchange
    obtain ⟨after, rfl, later⟩ := exchange.of_cons Token.noConfusion
    exact ⟨_, after, .whole n after, .literal _, later⟩
  | real x after =>
    rintro _ _ ⟨⟩ exchange
    obtain ⟨after, rfl, later⟩ := exchange.of_cons Token.noConfusion
    exact ⟨_, after, .real x after, .literal _, later⟩
  | reference stops =>
    rintro _ _ ⟨⟩ exchange
    obtain ⟨after, rfl, later⟩ := exchange.of_cons Token.noConfusion
    exact ⟨_, after, .reference (by rw [later.head?_eq]; exact stops), .reference _, later⟩
  | call inner known innerExchange =>
    rintro _ _ ⟨⟩ exchange
    obtain ⟨after, rfl, parenthesis⟩ := exchange.of_cons Token.noConfusion
    cases parenthesis with
    | token _ later =>
      obtain ⟨e, behind, inner, exchanged, last⟩ := innerExchange (.arguments _) later
      obtain ⟨pairs, rfl, rfl, each⟩ := exchanged.of_call noCall
      exact ⟨_, behind, .call inner (by simpa using known), .call _ pairs each, last⟩
    | @group _ _ _ _ first first' related encloses encloses' later =>
      obtain ⟨same, rfl⟩ := reads_arguments_enclosed encloses inner
      cases same
      exact ⟨_, _, .call (arguments_of_encloses encloses' _ _) known,
        .call _ [(first, first')] (by simpa using .part related), later⟩
  | group inner innerExchange =>
    rintro _ _ ⟨⟩ exchange
    cases exchange with
    | token _ later =>
      obtain ⟨e, rest, inner, exchanged, close⟩ := innerExchange .sum later
      obtain ⟨behind, rfl, last⟩ := close.of_cons Token.noConfusion
      exact ⟨e, behind, .group inner, exchanged, last⟩
    | @group _ _ _ _ _ e' related encloses encloses' later =>
      obtain ⟨rfl, same⟩ := reads_sum_unique inner (encloses _)
      cases same
      exact ⟨e', _, .group (encloses' _), .part related, later⟩
  | noArguments function after =>
    rintro _ _ ⟨⟩ exchange
    obtain ⟨after, rfl, later⟩ := exchange.of_cons Token.noConfusion
    exact ⟨_, after, .noArguments function after, .call function [] (by simp), later⟩
  | someArguments opens _ _ headExchange tailExchange =>
    rintro _ _ ⟨⟩ exchange
    obtain ⟨first, rest, head, firstExchanged, later⟩ := headExchange .sum exchange
    obtain ⟨e, behind, tail, exchanged, last⟩ :=
      tailExchange (.argumentsTail _ [(_, first)] (by simpa using firstExchanged)) later
    exact ⟨e, behind, .someArguments (by rw [exchange.head?_eq]; exact opens) head tail,
      exchanged, last⟩
  | nextArgument _ _ headExchange tailExchange =>
    intro phrase' tokens' samePhrase exchange
    cases samePhrase with
    | argumentsTail _ pairs each =>
      obtain ⟨after, rfl, later⟩ := exchange.of_cons Token.noConfusion
      obtain ⟨next, rest, head, nextExchanged, rest⟩ := headExchange .sum later
      obtain ⟨e, behind, tail, exchanged, last⟩ :=
        tailExchange (.argumentsTail _ ((_, next) :: pairs)
          (List.forall_mem_cons.2 ⟨nextExchanged, each⟩)) rest
      exact ⟨e, behind, .nextArgument head tail, exchanged, last⟩
  | lastArgument function reversed after =>
    intro phrase' tokens' samePhrase exchange
    cases samePhrase with
    | argumentsTail _ pairs each =>
      obtain ⟨after, rfl, later⟩ := exchange.of_cons Token.noConfusion
      refine ⟨_, after, .lastArgument function _ after, ?_, later⟩
      rw [← List.map_reverse, ← List.map_reverse]
      apply Expr.Exchanged.call function pairs.reverse
      intro pair member
      exact each pair (List.mem_reverse.1 member)

end InputDeck.Formula
