import InputDeck.Proofs.Formula.Numbers
import InputDeck.Proofs.Template.Compilation
import InputDeck.Proofs.Text.Trimming
import InputDeck.Proofs.Value.FiniteNumbers

/-!
# Formulas with slots filled in

A filled slot is a text in parentheses, so filling a formula in two ways gives texts that differ
only inside parentheses. White space at the ends and the borders of tokens are the same in both,
and so one of them reads as a formula if the other one does.
-/

namespace InputDeck

open Numeral

namespace Piece

/-- The text of a formula with a text in parentheses in the place of every slot. -/
def spliced (inner : Text → Text) : List Part → Text
  | [] => []
  | .char c :: rest => c :: spliced inner rest
  | .slot s :: rest => '(' :: (inner s.name ++ ')' :: spliced inner rest)

/-- Filling slots with texts in parentheses. -/
theorem fill_eq_spliced {fillSlot : Text → Except Formula.EvalError Text} {inner : Text → Text}
    {parts : List Part}
    (filled : ∀ s, .slot s ∈ parts → fillSlot s.name = .ok ('(' :: (inner s.name ++ [')']))) :
    fill fillSlot parts = .ok (spliced inner parts) := by
  induction parts with
  | nil => rfl
  | cons part rest inductionHypothesis =>
    have later := inductionHypothesis fun s member => filled s (List.mem_cons_of_mem _ member)
    cases part with
    | char c => simp [fill, later, spliced]
    | slot s => simp [fill, filled s List.mem_cons_self, later, spliced]

/-- Where filling succeeds, every slot is filled. -/
theorem filled_of_fill {fillSlot : Text → Except Formula.EvalError Text} {parts : List Part}
    {t : Text} (done : fill fillSlot parts = .ok t) :
    ∀ s, .slot s ∈ parts → ∃ filling, fillSlot s.name = .ok filling := by
  induction parts generalizing t with
  | nil => simp
  | cons part rest inductionHypothesis =>
    intro s member
    cases part with
    | char c =>
      obtain ⟨later, doneLater, -⟩ := (map_eq_ok_iff _ _ _).1 done
      exact inductionHypothesis doneLater s (by simpa using member)
    | slot first =>
      unfold fill at done
      split at done
      · cases done
      · rename_i filling filled
        obtain ⟨later, doneLater, -⟩ := (map_eq_ok_iff _ _ _).1 done
        rcases List.mem_cons.1 member with same | memberLater
        · cases same
          exact ⟨filling, filled⟩
        · exact inductionHypothesis doneLater s memberLater

/-- What is cut off at the beginning of a formula is the same however it is filled. -/
theorem exists_trimStart (parts : List Part) :
    ∃ trimmed, (∀ s, .slot s ∈ trimmed → .slot s ∈ parts) ∧
      ∀ inner, Text.trimStart (spliced inner parts) = spliced inner trimmed := by
  induction parts with
  | nil => exact ⟨[], by simp, fun _ => rfl⟩
  | cons part rest inductionHypothesis =>
    cases part with
    | char c =>
      obtain ⟨trimmed, slots, same⟩ := inductionHypothesis
      by_cases blank : Text.isBlank c = true
      · refine ⟨trimmed, ?_, ?_⟩
        · intro s member
          exact List.mem_cons_of_mem _ (slots s member)
        · intro inner
          rw [← same]
          simp [Text.trimStart, spliced, blank]
      · refine ⟨.char c :: rest, fun _ => id, ?_⟩
        intro inner
        simp [Text.trimStart, spliced, blank]
    | slot s =>
      have visible : Text.isBlank '(' = false := by decide
      refine ⟨.slot s :: rest, fun _ => id, ?_⟩
      intro inner
      simp [Text.trimStart, spliced, visible]

/-- What is cut off at the end of a formula is the same however it is filled. -/
theorem exists_dropEndWhile (parts : List Part) :
    ∃ trimmed, (∀ s, .slot s ∈ trimmed → .slot s ∈ parts) ∧
      ∀ inner, Text.dropEndWhile Text.isBlank (spliced inner parts) = spliced inner trimmed := by
  induction parts with
  | nil => exact ⟨[], by simp, fun _ => rfl⟩
  | cons part rest inductionHypothesis =>
    obtain ⟨trimmed, slots, same⟩ := inductionHypothesis
    cases part with
    | char c =>
      cases trimmed with
      | nil =>
        by_cases blank : Text.isBlank c = true
        · refine ⟨[], by simp, ?_⟩
          intro inner
          simp [spliced, Text.dropEndWhile, same, blank]
        · refine ⟨[.char c], by simp, ?_⟩
          intro inner
          simp [spliced, Text.dropEndWhile, same, blank]
      | cons first later =>
        refine ⟨.char c :: first :: later, ?_, ?_⟩
        · intro s member
          rcases List.mem_cons.1 member with impossible | memberLater
          · cases impossible
          · exact List.mem_cons_of_mem _ (slots s memberLater)
        · intro inner
          rw [spliced, Text.dropEndWhile, same]
          cases first <;> rfl
    | slot s =>
      have visible : Text.isBlank ')' = false := by decide
      refine ⟨.slot s :: trimmed, ?_, ?_⟩
      · intro found member
        rcases List.mem_cons.1 member with first | memberLater
        · exact first ▸ List.mem_cons_self
        · exact List.mem_cons_of_mem _ (slots found memberLater)
      · intro inner
        have dropped := Text.dropEndWhile_append visible ('(' :: inner s.name)
          (spliced inner rest)
        rw [same] at dropped
        simpa [spliced] using dropped

/-- Without white space at its ends a filled formula is the same part of the formula, however it is
filled. -/
theorem exists_trim (parts : List Part) :
    ∃ trimmed, (∀ s, .slot s ∈ trimmed → .slot s ∈ parts) ∧
      ∀ inner, Text.trim (spliced inner parts) = spliced inner trimmed := by
  obtain ⟨started, slots, same⟩ := exists_trimStart parts
  obtain ⟨trimmed, slots', same'⟩ := exists_dropEndWhile started
  refine ⟨trimmed, ?_, ?_⟩
  · intro s member
    exact slots s (slots' s member)
  · intro inner
    rw [Text.trim, same, same']

open Formula

variable {R : Expr → Expr → Prop}

/-- The tokens of a filled formula behind some text, with the fillings exchanged. A parenthesis is
a break, so the tokens before it, inside and behind it are read apart. -/
theorem exchange_of_spliced {inner inner' : Text → Text} {parts : List Part}
    (each : ∀ s, .slot s ∈ parts →
      ∃ e e', IsSum (inner s.name) e ∧ IsSum (inner' s.name) e' ∧ R e e')
    (before : Text) {tokens : List Token}
    (read : tokenize (before ++ spliced inner parts) = .ok tokens) :
    ∃ tokens', tokenize (before ++ spliced inner' parts) = .ok tokens' ∧
      Exchange R tokens tokens' := by
  induction parts generalizing before tokens with
  | nil => exact ⟨tokens, read, .refl tokens⟩
  | cons part rest inductionHypothesis =>
    have eachLater : ∀ s, .slot s ∈ rest →
        ∃ e e', IsSum (inner s.name) e ∧ IsSum (inner' s.name) e' ∧ R e e' := by
      intro s member
      exact each s (List.mem_cons_of_mem _ member)
    cases part with
    | char c =>
      have written : ∀ inner, before ++ spliced inner (.char c :: rest) =
          before ++ [c] ++ spliced inner rest := by
        intro inner
        simp [spliced]
      rw [written] at read ⊢
      exact inductionHypothesis eachLater (before ++ [c]) read
    | slot s =>
      obtain ⟨e, e', ⟨inside, insideRead, encloses⟩, ⟨inside', insideRead', encloses'⟩, related⟩ :=
        each s List.mem_cons_self
      obtain ⟨first, later, firstRead, laterRead, rfl⟩ :=
        (tokenize_parenthesis_eq_ok_iff insideRead _ _ _).1 read
      obtain ⟨later', laterRead', exchange⟩ := inductionHypothesis eachLater [] laterRead
      refine ⟨_, (tokenize_parenthesis_eq_ok_iff insideRead' _ _ _).2
        ⟨first, later', firstRead, laterRead', rfl⟩, ?_⟩
      exact (Exchange.refl first).append (.group related encloses encloses' exchange)

/-- With the fillings exchanged a filled formula still reads, and its tree is exchanged. -/
theorem parse_spliced (inner inner' : Text → Text)
    (noCall : ∀ function arguments e', ¬R (.call function arguments) e') {parts : List Part}
    (each : ∀ s, .slot s ∈ parts →
      ∃ e e', IsSum (inner s.name) e ∧ IsSum (inner' s.name) e' ∧ R e e') {e : Expr}
    (read : parse (Text.trim (spliced inner parts)) = .ok e) :
    ∃ e', parse (Text.trim (spliced inner' parts)) = .ok e' ∧ e.Exchanged R e' := by
  obtain ⟨trimmed, slots, same⟩ := exists_trim parts
  rw [same, parse] at read
  split at read
  · cases read
  · rename_i tokens tokensRead
    obtain ⟨tokens', tokensRead', exchange⟩ :=
      exchange_of_spliced (fun s member => each s (slots s member)) [] tokensRead
    obtain ⟨e', behind, reads, exchanged, nothing⟩ :=
      reads_exchange noCall ((ofTokens?_eq_ok_iff _ _).1 read) .sum exchange
    cases nothing
    refine ⟨e', ?_, exchanged⟩
    rw [same, parse]
    change tokenize (spliced inner' trimmed) = _ at tokensRead'
    rw [tokensRead']
    exact (ofTokens?_eq_ok_iff _ _).2 reads

/-- The number that a value stands in for, as a formula writes it. -/
def numberText (bound : Value) : Text := (bound.toNumeric?.getD default).render

/-- A number that fills a slot is a numeral with a sign, in parentheses. -/
theorem isSigned_of_fillNumber {name filling : Text} {bound : Value}
    (filled : fillNumber name bound = .ok filling) :
    filling = '(' :: (numberText bound ++ [')']) ∧ IsSigned (numberText bound) := by
  unfold fillNumber at filled
  split at filled
  · cases filled
  · rename_i v numeric
    split at filled
    · cases filled
    · rename_i finite
      cases filled
      refine ⟨by simp [numberText, numeric], ?_⟩
      rw [numberText, numeric, Option.getD_some]
      cases v with
      | int n => exact isSigned_renderInt n.toInt
      | real x => exact isSigned_renderDeckReal (by simpa [Value.isNonFinite] using finite)
      | text content => exact absurd rfl (Value.ne_text_of_toNumeric? numeric content)

/-- A formula that is filled with numbers, as it is written, and each of them a numeral with a
sign. -/
theorem spliced_of_fillNumber {parts : List Part} {values : Text → Value} {t : Text}
    (filled : fill (fun name => fillNumber name (values name)) parts = .ok t) :
    t = spliced (fun name => numberText (values name)) parts ∧
      ∀ s, .slot s ∈ parts → IsSigned (numberText (values s.name)) := by
  have numbers : ∀ s, .slot s ∈ parts →
      fillNumber s.name (values s.name) = .ok ('(' :: (numberText (values s.name) ++ [')'])) ∧
        IsSigned (numberText (values s.name)) := by
    intro s member
    obtain ⟨filling, slotFilled⟩ := filled_of_fill filled s member
    obtain ⟨rfl, signed⟩ := isSigned_of_fillNumber slotFilled
    exact ⟨slotFilled, signed⟩
  have written : fill (fun name => fillNumber name (values name)) parts =
      .ok (spliced (fun name => numberText (values name)) parts) := by
    apply fill_eq_spliced
    intro s member
    exact (numbers s member).1
  rw [written] at filled
  cases filled
  exact ⟨rfl, fun s member => (numbers s member).2⟩

/-- Where a formula reads with zeros in the place of its slots, it reads with any numbers in their
place, and has the same names. -/
theorem parse_of_checked {parts : List Part} {checked : Expr}
    (read : Piece.checked parts = .ok checked) {values : Text → Value} {t : Text}
    (filled : fill (fun name => fillNumber name (values name)) parts = .ok t) :
    ∃ e, parse (Text.trim t) = .ok e ∧ e.names = checked.names := by
  have zeros : fill (fun _ => .ok ['(', '0', ')']) parts = .ok (spliced (fun _ => ['0']) parts) :=
    fill_eq_spliced fun _ _ => rfl
  obtain ⟨rfl, signed⟩ := spliced_of_fillNumber filled
  rw [Piece.checked, zeros] at read
  have readZeros := (mapError_eq_ok_iff _ _ _).1 read
  have each : ∀ s, .slot s ∈ parts → ∃ e e', IsSum ['0'] e ∧
      IsSum (numberText (values s.name)) e' ∧ Numbers e e' := by
    intro s member
    obtain ⟨e, isSum, number⟩ := isSum_of_isSigned (signed s member)
    exact ⟨_, e, isSum_zero, isSum, .literal _, number⟩
  obtain ⟨e, readNumbers, exchanged⟩ := parse_spliced (fun _ => ['0'])
    (fun name => numberText (values name)) not_numbers_call each readZeros
  have sameNames : e.names = checked.names := by
    apply exchanged.names_eq
    intro zero number both
    rw [both.1.names_eq, both.2.names_eq]
  exact ⟨e, readNumbers, sameNames⟩

end Piece

end InputDeck
