import InputDeck.Proofs.Formula.Grammar
import InputDeck.Proofs.Formula.Spelling
import InputDeck.Formula.Eval

/-!
# Rendering a tree

A tree is rendered with parentheses only around operands that bind too loosely for their place. What
is rendered derives the tree, and no row of tokens that derives it is shorter. In derived rows no
two neighbours run together, so they can be written with any separators or none.
-/

namespace InputDeck.Formula

/-- How tightly a phrase binds; a row of arguments takes the place of no other phrase. -/
def Level.rank : Level → Nat
  | .sum => 0
  | .product => 1
  | .signed => 2
  | .power => 3
  | .operand => 4
  | .arguments _ => 5

namespace Operator

/-- The token of an operator. -/
def token : Operator → Token
  | add => .plus
  | sub => .minus
  | mul => .star
  | div => .slash
  | pow => .caret

/-- The phrase that an operator makes. -/
def level : Operator → Level
  | add | sub => .sum
  | mul | div => .product
  | pow => .power

/-- The phrase in front of an operator. -/
def left : Operator → Level
  | add | sub => .sum
  | mul | div => .product
  | pow => .operand

/-- The phrase behind an operator. -/
def right : Operator → Level
  | add | sub => .product
  | mul | div | pow => .signed

end Operator

/-- The phrase of a tree that stands in no parentheses. -/
def Expr.level : Expr → Level
  | literal _ | reference _ | call _ _ => .operand
  | neg _ => .signed
  | binary operator _ _ => operator.level

/-- The tokens of a phrase in the place of another, in parentheses if it binds too loosely. -/
def enclosed (place own : Level) (tokens : List Token) : List Token :=
  if place.rank ≤ own.rank then tokens else .openParen :: (tokens ++ [.closeParen])

mutual

/-- The tokens of a tree, with no more parentheses than the grammar asks for. -/
def Expr.tokens : Expr → List Token
  | .literal (.int n) => [.whole n]
  | .literal (.real x) => [.real x]
  | .literal (.text _) => []
  | .reference name => [.name name]
  | .neg operand => .minus :: enclosed .signed operand.level operand.tokens
  | .binary operator left right =>
    enclosed operator.left left.level left.tokens ++
      operator.token :: enclosed operator.right right.level right.tokens
  | .call function arguments =>
    .name function :: .openParen :: (argumentTokens arguments ++ [.closeParen])

/-- The tokens of arguments, with commas between them. -/
def argumentTokens : List Expr → List Token
  | [] => []
  | [only] => only.tokens
  | first :: second :: rest => first.tokens ++ .comma :: argumentTokens (second :: rest)

end

/-- The operator of a sum, which makes one of a sum and a product. -/
theorem token_eq_of_sumOperator {token : Token} {operator : Operator}
    (operates : sumOperator? token = some operator) :
    token = operator.token ∧ operator.level = .sum ∧ operator.left = .sum ∧
      operator.right = .product := by
  cases token with
  | plus | minus =>
    cases operates
    exact ⟨rfl, rfl, rfl, rfl⟩
  | _ => cases operates

/-- The operator of a product, which makes one of a product and a signed operand. -/
theorem token_eq_of_productOperator {token : Token} {operator : Operator}
    (operates : productOperator? token = some operator) :
    token = operator.token ∧ operator.level = .product ∧ operator.left = .product ∧
      operator.right = .signed := by
  cases token with
  | star | slash =>
    cases operates
    exact ⟨rfl, rfl, rfl, rfl⟩
  | _ => cases operates

/-- Every tree is a phrase. -/
theorem Expr.rank_level_le (e : Expr) : e.level.rank ≤ Level.rank .operand := by
  cases e with
  | binary operator left right => cases operator <;> simp [level, Operator.level, Level.rank]
  | _ => simp [level, Level.rank]

/-- A phrase that binds more tightly is a phrase of every looser kind. -/
theorem Derives.loosen {own place : Level} {tokens : List Token} {e : Expr}
    (derives : Derives own tokens e) (isPhrase : own.rank ≤ Level.rank .operand)
    (looser : place.rank ≤ own.rank) : Derives place tokens e := by
  have ofSigned : ∀ {place : Level}, place.rank ≤ 2 → Derives .signed tokens e →
      Derives place tokens e := by
    intro place looser signed
    cases place with
    | sum => exact .ofProduct (.ofSigned signed)
    | product => exact .ofSigned signed
    | signed => exact signed
    | _ => simp [Level.rank] at looser
  cases own with
  | sum =>
    cases place with
    | sum => exact derives
    | _ => simp [Level.rank] at looser
  | product =>
    cases place with
    | sum => exact .ofProduct derives
    | product => exact derives
    | _ => simp [Level.rank] at looser
  | signed => exact ofSigned looser derives
  | power =>
    cases place with
    | power => exact derives
    | sum | product | signed => exact ofSigned (by decide) (.ofPower derives)
    | _ => simp [Level.rank] at looser
  | operand =>
    cases place with
    | operand => exact derives
    | power => exact .ofOperand derives
    | sum | product | signed => exact ofSigned (by decide) (.ofPower (.ofOperand derives))
    | _ => simp [Level.rank] at looser
  | arguments function => simp [Level.rank] at isPhrase

/-- A phrase takes any place, in parentheses if it binds too loosely for it. -/
theorem Derives.enclosed {own : Level} {tokens : List Token} {e : Expr}
    (derives : Derives own tokens e) (isPhrase : own.rank ≤ Level.rank .operand) (place : Level)
    (isPlace : place.rank ≤ Level.rank .operand) :
    Derives place (Formula.enclosed place own tokens) e := by
  unfold Formula.enclosed
  split
  · rename_i fits
    exact derives.loosen isPhrase fits
  · exact (Derives.group (derives.loosen isPhrase (Nat.zero_le _))).loosen (Nat.le_refl _) isPlace

/-- What a tree is rendered with derives it as the phrase that it is, and arguments as a row. -/
def Level.Renders : Level → Expr → Prop
  | .arguments function, .call _ row =>
    Derives (.arguments function) (argumentTokens row) (.call function row)
  | _, e => Derives e.level e.tokens e

/-- A rendered tree derives it in every place. -/
theorem Level.Renders.derives {e : Expr} (renders : Derives e.level e.tokens e) (place : Level)
    (isPlace : place.rank ≤ Level.rank .operand) :
    Derives place (enclosed place e.level e.tokens) e :=
  renders.enclosed e.rank_level_le place isPlace

/-- Rendering gives a tree that is derived its tokens back. -/
theorem renders_of_derives {level : Level} {tokens : List Token} {e : Expr}
    (derives : Derives level tokens e) : level.Renders e := by
  have binary : ∀ {operator : Operator} {left right : Expr}, Derives left.level left.tokens left →
      Derives right.level right.tokens right →
      Derives operator.level (Expr.binary operator left right).tokens
        (.binary operator left right) := by
    intro operator left right leftRenders rightRenders
    have isPlace : operator.left.rank ≤ 4 ∧ operator.right.rank ≤ 4 := by
      cases operator <;> decide
    have first := Level.Renders.derives leftRenders operator.left isPlace.1
    have second := Level.Renders.derives rightRenders operator.right isPlace.2
    rw [Expr.tokens]
    cases operator with
    | add | sub => exact .sum rfl first second
    | mul | div => exact .product rfl first second
    | pow => exact .raised first second
  induction derives with
  | ofProduct _ inner | ofSigned _ inner | ofPower _ inner | ofOperand _ inner => exact inner
  | plus _ inner | group _ inner => exact inner
  | sum _ _ _ left right | product _ _ _ left right => exact binary left right
  | raised _ _ base exponent =>
    have raised : Derives .power _ _ := @binary .pow _ _ base exponent
    exact raised
  | @minus tokens e _ inner =>
    change Derives .signed e.neg.tokens e.neg
    rw [Expr.tokens]
    exact .minus (Level.Renders.derives inner .signed (by decide))
  | whole n =>
    change Derives .operand (Expr.literal (.int n)).tokens _
    rw [Expr.tokens]
    exact .whole n
  | real x =>
    change Derives .operand (Expr.literal (.real x)).tokens _
    rw [Expr.tokens]
    exact .real x
  | reference name =>
    change Derives .operand (Expr.reference name).tokens _
    rw [Expr.tokens]
    exact .reference name
  | @call function tokens arguments _ known inner =>
    change Derives .operand (Expr.call function arguments).tokens _
    rw [Expr.tokens]
    exact .call inner known
  | @argument tokens e function _ inner =>
    change Derives (.arguments function) (argumentTokens [e]) _
    rw [argumentTokens]
    exact .argument function (Derives.loosen inner e.rank_level_le (Nat.zero_le _))
  | @arguments function first later e rest _ tail head inner =>
    change Derives (.arguments function) (argumentTokens (e :: rest)) _
    have headRenders : Derives .sum e.tokens e :=
      Derives.loosen head e.rank_level_le (Nat.zero_le _)
    cases rest with
    | nil => cases tail
    | cons second more =>
      rw [argumentTokens]
      exact .arguments headRenders inner

/-- A tree that is derived is derived by what it is rendered with. -/
theorem derives_tokens {tokens : List Token} {e : Expr} (derives : Derives .sum tokens e) :
    Derives .sum e.tokens e :=
  Derives.loosen (renders_of_derives derives) e.rank_level_le (Nat.zero_le _)

/-- The length of what takes the place of a phrase. -/
def Level.cost : Level → Expr → Nat
  | .arguments _, .call _ row => (argumentTokens row).length
  | place, e => (enclosed place e.level e.tokens).length

/-- A phrase takes a looser place with no more tokens. -/
theorem length_enclosed_le {place looser own : Level} (tokens : List Token)
    (le : looser.rank ≤ place.rank) :
    (enclosed looser own tokens).length ≤ (enclosed place own tokens).length := by
  unfold enclosed
  split
  · split
    · exact Nat.le_refl _
    · simp only [List.length_cons, List.length_append]
      omega
  · rename_i tight
    rw [if_neg (by omega)]

/-- Parentheses make a phrase longer by two tokens. -/
theorem length_enclosed_le_add (place own : Level) (tokens : List Token) :
    (enclosed place own tokens).length ≤ tokens.length + 2 := by
  unfold enclosed
  split <;> simp

/-- In the loosest place no phrase has parentheses. -/
theorem enclosed_sum (own : Level) (tokens : List Token) : enclosed .sum own tokens = tokens :=
  if_pos (Nat.zero_le _)

/-- A phrase in its own place has no parentheses. -/
theorem enclosed_self (own : Level) (tokens : List Token) : enclosed own own tokens = tokens :=
  if_pos (Nat.le_refl _)

/-- An operation costs its operands, each in its place, and the operator. -/
theorem cost_binary (operator : Operator) (left right : Expr) :
    operator.level.cost (.binary operator left right) =
      operator.left.cost left + (operator.right.cost right + 1) := by
  have tokens : (enclosed operator.level operator.level
      (Expr.binary operator left right).tokens).length =
        (enclosed operator.left left.level left.tokens).length +
          ((enclosed operator.right right.level right.tokens).length + 1) := by
    rw [enclosed_self, Expr.tokens, List.length_append, List.length_cons]
  cases operator <;> exact tokens

/-- No row of tokens that derives a tree is shorter than what the tree is rendered with. -/
theorem cost_le_of_derives {level : Level} {tokens : List Token} {e : Expr}
    (derives : Derives level tokens e) : level.cost e ≤ tokens.length := by
  induction derives with
  | ofProduct _ inner | ofSigned _ inner | ofPower _ inner | ofOperand _ inner =>
    exact Nat.le_trans (length_enclosed_le _ (by decide)) inner
  | plus _ inner => exact Nat.le_succ_of_le inner
  | @group tokens e _ inner =>
    have bare : e.tokens.length ≤ tokens.length := by
      rw [← enclosed_sum e.level e.tokens]
      exact inner
    refine Nat.le_trans (length_enclosed_le_add .operand e.level e.tokens) ?_
    simp only [List.length_cons, List.length_append, List.length_nil]
    omega
  | sum operates _ _ left right =>
    obtain ⟨-, level, first, second⟩ := token_eq_of_sumOperator operates
    rw [← level, cost_binary, first, second, List.length_append, List.length_cons]
    omega
  | product operates _ _ left right =>
    obtain ⟨-, level, first, second⟩ := token_eq_of_productOperator operates
    rw [← level, cost_binary, first, second, List.length_append, List.length_cons]
    omega
  | @raised first later base exponent _ _ left right =>
    have whole : Level.power.cost (.binary .pow base exponent) =
        Level.operand.cost base + (Level.signed.cost exponent + 1) := cost_binary .pow base exponent
    rw [whole, List.length_append, List.length_cons]
    omega
  | @minus tokens e _ inner =>
    change (enclosed .signed .signed e.neg.tokens).length ≤ tokens.length + 1
    rw [enclosed_self, Expr.tokens]
    exact Nat.succ_le_succ inner
  | whole _ | real _ | reference _ =>
    change (enclosed .operand .operand _).length ≤ 1
    rw [enclosed_self, Expr.tokens]
    exact Nat.le_refl 1
  | @call function tokens arguments _ known inner =>
    change (enclosed .operand .operand (Expr.call function arguments).tokens).length ≤ _
    rw [enclosed_self, Expr.tokens]
    simp only [List.length_cons, List.length_append]
    have row : (argumentTokens arguments).length ≤ tokens.length := inner
    omega
  | @argument tokens e function _ inner =>
    change (argumentTokens [e]).length ≤ tokens.length
    rw [argumentTokens, ← enclosed_sum e.level e.tokens]
    exact inner
  | @arguments function first later e rest _ tail head inner =>
    change (argumentTokens (e :: rest)).length ≤ _
    have bare : e.tokens.length ≤ first.length := by
      rw [← enclosed_sum e.level e.tokens]
      exact head
    have row : (argumentTokens rest).length ≤ later.length := inner
    cases rest with
    | nil => cases tail
    | cons second more =>
      rw [argumentTokens, List.length_append, List.length_cons, List.length_append,
        List.length_cons]
      omega

/-- A tree is rendered with no more tokens than any row that derives it. -/
theorem length_tokens_le {tokens : List Token} {e : Expr} (derives : Derives .sum tokens e) :
    e.tokens.length ≤ tokens.length := by
  rw [← enclosed_sum e.level e.tokens]
  exact cost_le_of_derives derives

/-- Tokens that end a phrase. -/
def Token.ends : Token → Bool
  | .whole _ | .real _ | .name _ | .closeParen => true
  | _ => false

/-- A token that ends a phrase stands apart from every token that is no word. -/
theorem apart_of_ends {token next : Token} (ends : token.ends = true)
    (symbol : next.isWord = false) : token.Apart next := by
  refine ⟨fun _ => symbol, ?_⟩
  rintro rfl
  cases ends

/-- A token that is no word stands apart from every token that begins a phrase. -/
theorem apart_of_begins {token next : Token} (symbol : token.isWord = false)
    (begins : next.begins = true) : token.Apart next := by
  constructor
  · intro word
    rw [symbol] at word
    cases word
  · intro _
    constructor
    · rintro rfl
      cases begins
    · rintro rfl
      cases begins

/-- Every phrase ends with a token that ends one. -/
theorem Derives.exists_ends {level : Level} {tokens : List Token} {e : Expr}
    (derives : Derives level tokens e) : ∃ token ∈ tokens.getLast?, token.ends = true := by
  induction derives with
  | ofProduct _ inner | ofSigned _ inner | ofPower _ inner | ofOperand _ inner => exact inner
  | argument _ _ inner => exact inner
  | sum _ _ _ _ inner | product _ _ _ _ inner | raised _ _ _ inner | arguments _ _ _ inner =>
    obtain ⟨token, last, ends⟩ := inner
    refine ⟨token, ?_, ends⟩
    rw [Option.mem_def] at last ⊢
    simp [List.getLast?_cons, last]
  | minus _ inner | plus _ inner =>
    obtain ⟨token, last, ends⟩ := inner
    refine ⟨token, ?_, ends⟩
    rw [Option.mem_def] at last ⊢
    simp [List.getLast?_cons, last]
  | whole _ | real _ | reference _ => exact ⟨_, rfl, rfl⟩
  | call _ _ _ | group _ _ => exact ⟨.closeParen, by simp [List.getLast?_cons], rfl⟩

/-- A phrase stands apart from a token before it that is no word. -/
theorem Derives.isChain_cons {level : Level} {tokens : List Token} {e : Expr} {token : Token}
    (derives : Derives level tokens e) (symbol : token.isWord = false)
    (chain : tokens.IsChain Token.Apart) : (token :: tokens).IsChain Token.Apart := by
  obtain ⟨first, rest, rfl, begins, -⟩ := derives.exists_begins
  exact List.isChain_cons_cons.2 ⟨apart_of_begins symbol begins, chain⟩

/-- A phrase stands apart from a token behind it that is no word. -/
theorem Derives.isChain_append {level : Level} {tokens later : List Token} {e : Expr}
    {token : Token} (derives : Derives level tokens e) (symbol : token.isWord = false)
    (chain : tokens.IsChain Token.Apart) (behind : (token :: later).IsChain Token.Apart) :
    (tokens ++ token :: later).IsChain Token.Apart := by
  refine chain.append behind ?_
  intro last isLast next isNext
  cases isNext
  obtain ⟨found, same, ends⟩ := derives.exists_ends
  cases Option.mem_unique isLast same
  exact apart_of_ends ends symbol

/-- A phrase stands apart from the parentheses around it. -/
theorem Derives.isChain_parentheses {level : Level} {tokens : List Token} {e : Expr}
    (derives : Derives level tokens e) (chain : tokens.IsChain Token.Apart) :
    (Token.openParen :: (tokens ++ [Token.closeParen])).IsChain Token.Apart := by
  have closed : (tokens ++ [Token.closeParen]).IsChain Token.Apart :=
    derives.isChain_append rfl chain (.singleton _)
  obtain ⟨first, rest, rfl, begins, -⟩ := derives.exists_begins
  exact List.isChain_cons_cons.2 ⟨apart_of_begins rfl begins, closed⟩

/-- No two neighbours in a derived row run together. -/
theorem Derives.isChain_apart {level : Level} {tokens : List Token} {e : Expr}
    (derives : Derives level tokens e) : tokens.IsChain Token.Apart := by
  have symbol : ∀ operator : Operator, operator.token.isWord = false := by
    intro operator
    cases operator <;> rfl
  induction derives with
  | ofProduct _ inner | ofSigned _ inner | ofPower _ inner | ofOperand _ inner => exact inner
  | argument _ _ inner => exact inner
  | sum operates head tail first later =>
    obtain ⟨rfl, -⟩ := token_eq_of_sumOperator operates
    exact head.isChain_append (symbol _) first (tail.isChain_cons (symbol _) later)
  | product operates head tail first later =>
    obtain ⟨rfl, -⟩ := token_eq_of_productOperator operates
    exact head.isChain_append (symbol _) first (tail.isChain_cons (symbol _) later)
  | raised head tail first later | arguments head tail first later =>
    exact head.isChain_append rfl first (tail.isChain_cons rfl later)
  | minus derives inner | plus derives inner => exact derives.isChain_cons rfl inner
  | whole _ | real _ | reference _ => exact .singleton _
  | call derives _ inner =>
    exact List.isChain_cons_cons.2 ⟨apart_of_ends rfl rfl, derives.isChain_parentheses inner⟩
  | group derives inner => exact derives.isChain_parentheses inner

/-- The tokens of a tree, and those of the row of arguments that derives a call. -/
def Level.rendered : Level → Expr → List Token
  | .arguments _, .call _ row => argumentTokens row
  | _, e => e.tokens

/-- The token can be written. -/
def Token.Spellable (token : Token) : Prop := ∃ t, Spells token t

/-- Only parentheses are added around a phrase. -/
theorem spellable_of_mem_enclosed {place own : Level} {tokens : List Token}
    (spellable : ∀ token ∈ tokens, token.Spellable) :
    ∀ token ∈ enclosed place own tokens, token.Spellable := by
  unfold enclosed
  split
  · exact spellable
  · intro token member
    simp only [List.mem_cons, List.mem_append, List.not_mem_nil, or_false] at member
    rcases member with rfl | inside | rfl
    · exact ⟨_, .openParen⟩
    · exact spellable token inside
    · exact ⟨_, .closeParen⟩

/-- An operation is rendered with its operands and the operator. -/
theorem spellable_binary {operator : Operator} {left right : Expr}
    (first : ∀ token ∈ left.tokens, token.Spellable)
    (second : ∀ token ∈ right.tokens, token.Spellable) :
    ∀ token ∈ (Expr.binary operator left right).tokens, token.Spellable := by
  have isSpellable : operator.token.Spellable := by
    cases operator with
    | add => exact ⟨_, .plus⟩
    | sub => exact ⟨_, .minus⟩
    | mul => exact ⟨_, .star⟩
    | div => exact ⟨_, .slash⟩
    | pow => exact ⟨_, .caret⟩
  intro token member
  rw [Expr.tokens, List.mem_append, List.mem_cons] at member
  rcases member with inLeft | rfl | inRight
  · exact spellable_of_mem_enclosed first token inLeft
  · exact isSpellable
  · exact spellable_of_mem_enclosed second token inRight

/-- A tree that written tokens derive is rendered with tokens that can be written. -/
theorem spellable_of_derives {level : Level} {tokens : List Token} {e : Expr}
    (derives : Derives level tokens e) (spellable : ∀ token ∈ tokens, token.Spellable) :
    ∀ token ∈ level.rendered e, token.Spellable := by
  induction derives with
  | ofProduct _ inner | ofSigned _ inner | ofPower _ inner | ofOperand _ inner =>
    exact inner spellable
  | plus _ inner => exact inner (List.forall_mem_cons.1 spellable).2
  | group _ inner =>
    refine inner fun token member => spellable token ?_
    exact List.mem_cons_of_mem _ (List.mem_append_left _ member)
  | sum _ _ _ left right | product _ _ _ left right | raised _ _ left right =>
    obtain ⟨first, others⟩ := List.forall_mem_append.1 spellable
    exact spellable_binary (left first) (right (List.forall_mem_cons.1 others).2)
  | @minus tokens e _ inner =>
    obtain ⟨sign, others⟩ := List.forall_mem_cons.1 spellable
    change ∀ token ∈ e.neg.tokens, token.Spellable
    rw [Expr.tokens]
    exact List.forall_mem_cons.2 ⟨sign, spellable_of_mem_enclosed (inner others)⟩
  | whole n =>
    change ∀ token ∈ (Expr.literal (.int n)).tokens, token.Spellable
    rwa [Expr.tokens]
  | real x =>
    change ∀ token ∈ (Expr.literal (.real x)).tokens, token.Spellable
    rwa [Expr.tokens]
  | reference name =>
    change ∀ token ∈ (Expr.reference name).tokens, token.Spellable
    rwa [Expr.tokens]
  | @call function tokens arguments _ known inner =>
    obtain ⟨name, opened⟩ := List.forall_mem_cons.1 spellable
    obtain ⟨paren, closed⟩ := List.forall_mem_cons.1 opened
    obtain ⟨row, close⟩ := List.forall_mem_append.1 closed
    change ∀ token ∈ (Expr.call function arguments).tokens, token.Spellable
    rw [Expr.tokens]
    exact List.forall_mem_cons.2 ⟨name, List.forall_mem_cons.2 ⟨paren,
      List.forall_mem_append.2 ⟨inner row, close⟩⟩⟩
  | @argument tokens e function _ inner =>
    change ∀ token ∈ argumentTokens [e], token.Spellable
    rw [argumentTokens]
    exact inner spellable
  | @arguments function first later e rest _ tail head inner =>
    obtain ⟨own, others⟩ := List.forall_mem_append.1 spellable
    obtain ⟨comma, row⟩ := List.forall_mem_cons.1 others
    change ∀ token ∈ argumentTokens (e :: rest), token.Spellable
    cases rest with
    | nil => cases tail
    | cons second more =>
      rw [argumentTokens]
      exact List.forall_mem_append.2 ⟨head own, List.forall_mem_cons.2 ⟨comma, inner row⟩⟩

/-- Tokens that can be written one by one can be written in a row. -/
theorem exists_spelled {tokens : List Token} (spellable : ∀ token ∈ tokens, token.Spellable) :
    ∃ t, Spelled tokens t := by
  induction tokens with
  | nil => exact ⟨[], .nil (by simp)⟩
  | cons token rest inductionHypothesis =>
    obtain ⟨first, others⟩ := List.forall_mem_cons.1 spellable
    obtain ⟨t, spells⟩ := first
    obtain ⟨later, spelled⟩ := inductionHypothesis others
    refine ⟨[' '] ++ (t ++ later), .cons ?_ spells spelled⟩
    simp [isSeparator]

/-- The tokens of a written row can be written. -/
theorem spellable_of_spelled {tokens : List Token} {t : Text} (spelled : Spelled tokens t) :
    ∀ token ∈ tokens, token.Spellable := by
  induction spelled with
  | nil _ => simp
  | cons _ spells _ inductionHypothesis =>
    exact List.forall_mem_cons.2 ⟨⟨_, spells⟩, inductionHypothesis⟩

/-- Reading a formula follows the grammar. It succeeds exactly with the tree that the tokens of the
formula derive, and any other formula is malformed. A row of tokens that derives a tree is read as
this tree however it is written and whatever separates its tokens. So is the rendering of the tree,
which is no longer than any such row, and every formula has a rendering that can be written. -/
theorem parse_follows_grammar :
    (∀ t e, parse t = .ok e ↔ ∃ tokens, tokenize t = .ok tokens ∧ Derives .sum tokens e) ∧
    (∀ t, (∀ tokens e, tokenize t = .ok tokens → ¬Derives .sum tokens e) →
      ∃ fault, parse t = .error fault ∧
        ∀ bindings, evaluate t bindings = .error (.malformed fault)) ∧
    (∀ tokens e, Derives .sum tokens e →
      Derives .sum e.tokens e ∧ e.tokens.length ≤ tokens.length ∧
      ∀ t, Spelled tokens t ∨ Spelled e.tokens t → parse t = .ok e) ∧
    ∀ t e, parse t = .ok e → ∃ rendering, Spelled e.tokens rendering := by
  have iff : ∀ t e, parse t = .ok e ↔
      ∃ tokens, tokenize t = .ok tokens ∧ Derives .sum tokens e := by
    intro t e
    unfold parse
    cases tokenize t with
    | error fault => simp
    | ok tokens => simp [ofTokens?_eq_ok_iff_derives]
  refine ⟨iff, ?_, ?_, ?_⟩
  · intro t underived
    cases read : parse t with
    | error fault =>
      refine ⟨fault, rfl, fun bindings => ?_⟩
      rw [evaluate, read]
    | ok e =>
      obtain ⟨tokens, tokenized, derives⟩ := (iff t e).1 read
      exact absurd derives (underived tokens e tokenized)
  · intro tokens e derives
    have rendered := derives_tokens derives
    refine ⟨rendered, length_tokens_le derives, ?_⟩
    rintro t (spelled | spelled)
    · exact (iff t e).2 ⟨tokens, tokenize_of_spelled spelled derives.isChain_apart, derives⟩
    · exact (iff t e).2 ⟨e.tokens, tokenize_of_spelled spelled rendered.isChain_apart, rendered⟩
  · intro t e read
    obtain ⟨tokens, tokenized, derives⟩ := (iff t e).1 read
    exact exists_spelled
      (spellable_of_derives derives (spellable_of_spelled (spelled_of_tokenize tokenized)))

/-- The right operand of a minus keeps its parentheses, and the base of a power loses those that it
does not need. -/
theorem rendered_difference :
    ∃ e, parse "a-(b-(c)**-2)".toList = .ok e ∧
      e.tokens = [.name ['a'], .minus, .openParen, .name ['b'], .minus, .name ['c'], .caret, .minus,
        .whole 2, .closeParen] ∧
      ∃ rendering, Spelled e.tokens rendering := by
  have read : parse "a-(b-(c)**-2)".toList =
      .ok (.binary .sub (.reference ['a']) (.binary .sub (.reference ['b'])
        (.binary .pow (.reference ['c']) (.neg (.literal (.int 2)))))) := by
    decide +kernel
  exact ⟨_, read, rfl, parse_follows_grammar.2.2.2 _ _ read⟩

end InputDeck.Formula
