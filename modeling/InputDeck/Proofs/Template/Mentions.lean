import InputDeck.Proofs.Template.Defaults
import InputDeck.Proofs.Template.Failures

/-!
# What a template reads of its bindings

A template mentions the names of its variables and the names that its formulas refer to, as they are
read with zeros in the place of the slots. Numbers in the place of the slots add no name, so
compiling looks up mentioned names and no others. Slots and formulas see one and the same scope: a
variable has its resolved value there and any other name what it is bound to.
-/

namespace InputDeck

/-- The value of a formula all of whose names, slots or not, are looked up in one scope. -/
def Piece.evaluateIn (scope : Bindings) (parts : List Part) : Except Formula.EvalError Value :=
  match fill (fun name => fillNumber name ((scope name).getD default)) parts with
  | .error cause => .error cause
  | .ok t => Formula.evaluate (Text.trim t) scope

/-- A name that a template reads: that of a variable, or one that a formula refers to. -/
def Template.Mentions (template : Template) (name : Text) : Prop :=
  name ∈ Variable.names template.declared ∨
    ∃ place parts e, (place, .formula parts) ∈ template.located ∧ Piece.checked parts = .ok e ∧
      name ∈ e.references

namespace Piece

/-- Scopes that agree on the names of a formula give it the same value. -/
theorem evaluateIn_congr {parts : List Part} {e : Formula.Expr}
    (readable : checked parts = .ok e) {scope scope' : Bindings}
    (slots : ∀ name ∈ (formula parts).slotNames, scope name = scope' name)
    (names : ∀ name ∈ e.references, scope name = scope' name) :
    evaluateIn scope parts = evaluateIn scope' parts := by
  have filled : fill (fun name => fillNumber name ((scope name).getD default)) parts =
      fill (fun name => fillNumber name ((scope' name).getD default)) parts := by
    apply fill_congr
    intro name member
    rw [slots name member]
  rw [evaluateIn, evaluateIn, ← filled]
  split
  · rfl
  · rename_i t done
    obtain ⟨numbers, read, sameNames⟩ := parse_of_checked readable done
    rw [Formula.evaluate, Formula.evaluate, read]
    apply numbers.eval_congr
    intro name named
    exact names name (List.mem_eraseDups.2 (sameNames ▸ named))

/-- Where its slots are resolved, a formula is evaluated in the scope of the resolved values above
the bindings. -/
theorem evaluate_eq_evaluateIn {resolved : List (Text × Value)} (bindings : Bindings)
    {parts : List Part}
    (slots : ∀ name ∈ (formula parts).slotNames, (Bindings.ofList resolved name).isSome) :
    evaluate resolved bindings parts =
      evaluateIn ((Bindings.ofList resolved).layered bindings) parts := by
  have filled : fill (fun name => fillNumber name ((Bindings.ofList resolved name).getD default))
      parts = fill (fun name => fillNumber name
        (((Bindings.ofList resolved).layered bindings name).getD default)) parts := by
    apply fill_congr
    intro name member
    obtain ⟨value, listed⟩ := Option.isSome_iff_exists.1 (slots name member)
    rw [Bindings.layered, listed]
    rfl
  cases outcome : fill (fun name => fillNumber name ((Bindings.ofList resolved name).getD default))
      parts with
  | error cause => simp only [evaluate, evaluateIn, ← filled, outcome]
  | ok t => simp only [evaluate, evaluateIn, ← filled, outcome]

end Piece

namespace Template

variable {style : MarkerStyle} {t : Text} {template : Template} {useDefaults : Bool}
  {bindings bindings' : Bindings} {resolved : List (Text × Value)}

/-- A piece of a line stands somewhere in the template. -/
theorem exists_located {line : Line} (lineMember : line ∈ template.lines) {piece : Piece}
    (pieceMember : piece ∈ line.pieces) : ∃ place, (place, piece) ∈ template.located := by
  have listed : piece ∈ template.located.map Prod.snd := by
    rw [located, Line.map_snd_located]
    exact List.mem_flatMap_of_mem lineMember pieceMember
  obtain ⟨⟨place, found⟩, member, rfl⟩ := List.mem_map.1 listed
  exact ⟨place, member⟩

/-- The slots of a template that has been read name variables. -/
theorem declared_of_slotNames (read : ofText? style t = .ok template) {place : Position}
    {piece : Piece} (member : (place, piece) ∈ template.located) {name : Text}
    (named : name ∈ piece.slotNames) : name ∈ Variable.names template.declared := by
  have listed := List.mem_map_of_mem (f := Prod.snd) member
  rw [located, Line.map_snd_located] at listed
  obtain ⟨line, lineMember, pieceMember⟩ := List.mem_flatMap.1 listed
  exact (mem_names_declared_iff read name).2
    (List.mem_flatMap_of_mem lineMember (List.mem_flatMap_of_mem pieceMember named))

/-- A formula sees every variable with its value. -/
theorem layered_declared (read : ofText? style t = .ok template)
    (done : template.resolve useDefaults bindings = .ok resolved) {v : Variable}
    (member : v ∈ template.declared) :
    (Bindings.ofList resolved).layered bindings v.name = v.value? useDefaults bindings := by
  obtain ⟨value, listed⟩ := exists_resolved done (List.mem_map_of_mem member)
  rw [← ofList_resolved (nodup_names_declared read) done member, Bindings.layered, listed,
    Option.some_or]

/-- A formula sees every other name as it is bound. -/
theorem layered_undeclared (done : template.resolve useDefaults bindings = .ok resolved)
    {name : Text} (undeclared : name ∉ Variable.names template.declared) :
    (Bindings.ofList resolved).layered bindings name = bindings name := by
  rw [Bindings.layered, ofList_undeclared done undeclared, Option.none_or]

/-- A formula is evaluated in any scope in which the variables have their values and the other names
it refers to are what they are bound to. -/
theorem evaluate_eq_of_scope (read : ofText? style t = .ok template)
    (done : template.resolve useDefaults bindings = .ok resolved) {place : Position}
    {parts : List Part} (member : (place, .formula parts) ∈ template.located) {scope : Bindings}
    (values : ∀ v ∈ template.declared, scope v.name = v.value? useDefaults bindings)
    (others : ∀ name, template.Mentions name → name ∉ Variable.names template.declared →
      scope name = bindings name) :
    Piece.evaluate resolved bindings parts = Piece.evaluateIn scope parts := by
  have sees : ∀ name, template.Mentions name →
      (Bindings.ofList resolved).layered bindings name = scope name := by
    intro name mentioned
    by_cases declared : name ∈ Variable.names template.declared
    · obtain ⟨v, isVariable, rfl⟩ := List.mem_map.1 declared
      rw [values v isVariable, layered_declared read done isVariable]
    · rw [others name mentioned declared, layered_undeclared done declared]
  obtain ⟨e, readable⟩ := (reads_of_ofText? read).readable member
  have slots : ∀ name ∈ (Piece.formula parts).slotNames,
      (Bindings.ofList resolved name).isSome := by
    intro name named
    exact Option.isSome_iff_exists.2
      (exists_resolved done (declared_of_slotNames read member named))
  rw [Piece.evaluate_eq_evaluateIn bindings slots]
  apply Piece.evaluateIn_congr readable
  · intro name named
    exact sees name (.inl (declared_of_slotNames read member named))
  · intro name named
    exact sees name (.inr ⟨place, parts, e, member, readable, named⟩)

/-- Bindings that agree on the names a template mentions compile it alike. -/
theorem compile_of_agree (read : ofText? style t = .ok template)
    (agree : ∀ name, template.Mentions name → bindings name = bindings' name) :
    template.compile useDefaults bindings = template.compile useDefaults bindings' := by
  have sameValues : ∀ v ∈ template.declared,
      v.value? useDefaults bindings = v.value? useDefaults bindings' := by
    intro v member
    rw [Variable.value?, Variable.value?, agree v.name (.inl (List.mem_map_of_mem member))]
  have sameResolved : template.resolve useDefaults bindings =
      template.resolve useDefaults bindings' := resolveAll_congr sameValues
  rw [compile, compile, ← sameResolved]
  cases done : template.resolve useDefaults bindings with
  | error error => rfl
  | ok resolved =>
    apply compileLines_congr_of_pieces
    intro line lineMember piece pieceMember number
    cases piece with
    | char c => rfl
    | slot s => rfl
    | formula parts =>
      obtain ⟨place, member⟩ := exists_located lineMember pieceMember
      -- What the formula sees with the second bindings is a scope for the first ones too.
      have done' := sameResolved ▸ done
      have sameValue : Piece.evaluate resolved bindings parts =
          Piece.evaluate resolved bindings' parts := by
        rw [evaluate_eq_of_scope read done' member (fun v => layered_declared read done')
          fun name _ => layered_undeclared done']
        apply evaluate_eq_of_scope read done member
        · intro v isVariable
          rw [layered_declared read done' isVariable, sameValues v isVariable]
        · intro name mentioned undeclared
          rw [layered_undeclared done' undeclared, agree name mentioned]
      rw [Piece.compiled?, Piece.compiled?, sameValue]

/-- Compiling reads the names that a template mentions and no others. Bindings that agree on them
compile it to the same text or fail with the same error, and bindings of other names never change a
deck. Slots and formulas see one scope: in whatever scope the variables have their resolved values,
and the other names a formula refers to what they are bound to, the formula has its value. -/
theorem compile_reads_mentioned_names (read : ofText? style t = .ok template)
    (useDefaults : Bool) (bindings : Bindings) :
    (∀ bindings' : Bindings,
      (∀ name, template.Mentions name → bindings name = bindings' name) →
        template.compile useDefaults bindings = template.compile useDefaults bindings') ∧
    (∀ extra : Bindings, (∀ name, template.Mentions name → extra name = none) →
      template.compile useDefaults (extra.layered bindings) =
        template.compile useDefaults bindings) ∧
    ∀ resolved, template.resolve useDefaults bindings = .ok resolved →
      ∀ place parts, (place, .formula parts) ∈ template.located →
        ∀ scope : Bindings,
          (∀ v ∈ template.declared, scope v.name = v.value? useDefaults bindings) →
          (∀ name, template.Mentions name → name ∉ Variable.names template.declared →
            scope name = bindings name) →
          Piece.evaluate resolved bindings parts = Piece.evaluateIn scope parts := by
  refine ⟨fun bindings' => compile_of_agree read, ?_, ?_⟩
  · intro extra unmentioned
    apply compile_of_agree read
    intro name mentioned
    rw [Bindings.layered, unmentioned name mentioned, Option.none_or]
  · intro resolved done place parts member scope values others
    exact evaluate_eq_of_scope read done member values others

/-- A name that no formula refers to may be bound to text. -/
theorem unmentioned_name_beside_variable :
    ∃ template : Template,
      ofText? .standard "@\x7b2*k\x7d $\x7bk~4\x7d".toList = .ok template ∧
      ¬template.Mentions ['q'] ∧
      template.compile true ((Bindings.ofList [(['q'], .text ['U'])]).layered .none) =
        .ok "8 4".toList := by
  let doubled : List Part := [.char '2', .char '*', .char 'k']
  let line : Line :=
    ⟨[.formula doubled, .char ' ', .slot ⟨['k', '~', '4'], ['k'], .fixed ['4']⟩], []⟩
  let template : Template := ⟨.standard, [line], [⟨['k'], .fixed ['4'], 1⟩], []⟩
  have read : ofText? .standard "@\x7b2*k\x7d $\x7bk~4\x7d".toList = .ok template := by decide +kernel
  have compiled : template.compile true .none = .ok "8 4".toList := by decide +kernel
  have readable : Piece.checked doubled =
      .ok (.binary .mul (.literal (.int 2)) (.reference ['k'])) := by decide +kernel
  have mentioned : ∀ name, template.Mentions name → name = ['k'] := by
    rintro name (declared | ⟨place, parts, e, member, read, named⟩)
    · simpa [template, Variable.names] using declared
    · have inDeck : (.formula parts : Piece) ∈ template.located.map Prod.snd :=
        List.mem_map_of_mem member
      rw [located, Line.map_snd_located] at inDeck
      obtain rfl : parts = doubled := by simpa [template, line] using inDeck
      rw [readable] at read
      obtain rfl := Except.ok.inj read
      simpa [Formula.Expr.references, Formula.Expr.names] using named
  obtain ⟨-, extra, -⟩ := compile_reads_mentioned_names read true .none
  refine ⟨template, read, fun mentions => by simpa using mentioned _ mentions, ?_⟩
  rw [extra (Bindings.ofList [(['q'], .text ['U'])]) ?_, compiled]
  intro name mentions
  rw [mentioned name mentions]
  rfl

end Template

end InputDeck
