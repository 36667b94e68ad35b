import InputDeck.Proofs.Template.Declarations

/-!
# Defaults as bindings

A variable has the value it is bound to or, where defaults are allowed, its default. Each name is
declared once, so what is resolved for a variable is what its name stands for in a formula. Hence
the defaults of a template are a layer of bindings beneath those that are given, to formulas as much
as to slots, and without defaults the first variable that is not bound is the error.
-/

namespace InputDeck

/-- The value of a variable: the one it is bound to, else its default where defaults are allowed. -/
def Variable.value? (useDefaults : Bool) (bindings : Bindings) (v : Variable) : Option Value :=
  (bindings v.name).or (if useDefaults then some v.domain.defaultValue else none)

namespace Template

variable {style : MarkerStyle} {t : Text} {template : Template} {useDefaults useDefaults' : Bool}
  {bindings bindings' : Bindings} {declared : List Variable} {resolved : List (Text × Value)}

/-- The variables of a template that has been read have distinct names. -/
theorem nodup_names_declared (read : ofText? style t = .ok template) :
    (Variable.names template.declared).Nodup :=
  (Variable.merged_of_collect (collect_of_ofText? read)).1.nodup_names

/-- The first variable is resolved to its value, in front of the others. -/
theorem resolveAll_cons (useDefaults : Bool) (bindings : Bindings) (v : Variable)
    (rest : List Variable) :
    resolveAll useDefaults bindings (v :: rest) =
      match v.value? useDefaults bindings with
      | none => .error (.unresolved v.name)
      | some value => (resolveAll useDefaults bindings rest).map ((v.name, value) :: ·) := rfl

/-- Variables of the same values are resolved alike. -/
theorem resolveAll_congr (same : ∀ v ∈ declared,
      v.value? useDefaults bindings = v.value? useDefaults' bindings') :
    resolveAll useDefaults bindings declared = resolveAll useDefaults' bindings' declared := by
  induction declared with
  | nil => rfl
  | cons v rest inductionHypothesis =>
    obtain ⟨first, later⟩ := List.forall_mem_cons.1 same
    rw [resolveAll_cons, resolveAll_cons, first, inductionHypothesis later]

/-- A variable is resolved to its value. -/
theorem ofList_resolved (distinct : (Variable.names declared).Nodup)
    (done : resolveAll useDefaults bindings declared = .ok resolved) {v : Variable}
    (member : v ∈ declared) :
    Bindings.ofList resolved v.name = v.value? useDefaults bindings := by
  induction declared generalizing resolved with
  | nil => cases member
  | cons first rest inductionHypothesis =>
    obtain ⟨absent, distinctRest⟩ := List.nodup_cons.1 distinct
    rw [resolveAll_cons] at done
    cases isValue : first.value? useDefaults bindings with
    | none =>
      rw [isValue] at done
      cases done
    | some value =>
      rw [isValue] at done
      obtain ⟨later, doneRest, rfl⟩ := (map_eq_ok_iff _ _ _).1 done
      rw [Bindings.ofList, List.lookup_cons]
      rcases List.mem_cons.1 member with rfl | behind
      · rw [beq_self_eq_true, isValue]
      · have differs : v.name ≠ first.name := fun same =>
          absent (same ▸ List.mem_map_of_mem behind)
        rw [beq_eq_false_iff_ne.2 differs]
        exact inductionHypothesis distinctRest doneRest behind

/-- A name that is declared by no variable is not resolved. -/
theorem ofList_undeclared (done : resolveAll useDefaults bindings declared = .ok resolved)
    {name : Text} (undeclared : name ∉ Variable.names declared) :
    Bindings.ofList resolved name = none := by
  rw [← names_of_resolveAll done] at undeclared
  refine List.lookup_eq_none_iff.2 fun pair member => ?_
  rw [bne_iff_ne]
  rintro rfl
  exact undeclared (List.mem_map_of_mem member)

/-- Where the variables are resolved alike and formulas see the same, templates compile alike. -/
theorem compile_congr
    (same : template.resolve useDefaults bindings = template.resolve useDefaults' bindings')
    (scope : ∀ resolved, template.resolve useDefaults bindings = .ok resolved →
      (Bindings.ofList resolved).layered bindings =
        (Bindings.ofList resolved).layered bindings') :
    template.compile useDefaults bindings = template.compile useDefaults' bindings' := by
  rw [compile, compile, ← same]
  cases done : template.resolve useDefaults bindings with
  | error error => rfl
  | ok resolved =>
    exact compileLines_congr template.style 1 ⟨fun _ _ => rfl, scope resolved done⟩

/-- Where nothing is bound the variables are resolved to their defaults. -/
theorem resolveAll_none (declared : List Variable) :
    resolveAll true Bindings.none declared =
      .ok (declared.map fun v => (v.name, v.domain.defaultValue)) := by
  induction declared with
  | nil => rfl
  | cons v rest inductionHypothesis =>
    rw [resolveAll_cons, inductionHypothesis]
    rfl

/-- The defaults are the resolved values where nothing is bound. -/
theorem resolve_none (template : Template) :
    template.resolve true .none = .ok template.defaults :=
  resolveAll_none template.declared

/-- With the defaults beneath the bindings every variable has a value, its default if nothing
else. -/
theorem value?_layered_defaults (distinct : (Variable.names template.declared).Nodup)
    (bindings : Bindings) {v : Variable} (member : v ∈ template.declared) :
    v.value? true bindings =
      v.value? false (bindings.layered (Bindings.ofList template.defaults)) := by
  have default := ofList_resolved distinct (resolve_none template) member
  simp [Variable.value?, Bindings.layered, Bindings.none, default]

/-- Formulas see the same with the defaults beneath the bindings: a variable has its resolved
value, and no other name has a default. -/
theorem layered_defaults {bindings : Bindings} {resolved : List (Text × Value)}
    (done : template.resolve true bindings = .ok resolved) :
    (Bindings.ofList resolved).layered bindings =
      (Bindings.ofList resolved).layered
        (bindings.layered (Bindings.ofList template.defaults)) := by
  funext name
  by_cases declared : name ∈ Variable.names template.declared
  · obtain ⟨value, listed⟩ := exists_resolved done declared
    simp [Bindings.layered, listed]
  · have noDefault := ofList_undeclared (resolve_none template) declared
    simp [Bindings.layered, noDefault]

/-- Without defaults the first variable that is not bound is the error, and where there is none the
variables are resolved as with defaults. -/
theorem resolveAll_strict (bindings : Bindings) (declared : List Variable) :
    resolveAll false bindings declared =
      match declared.find? fun v => (bindings v.name).isNone with
      | some v => .error (.unresolved v.name)
      | none => resolveAll true bindings declared := by
  induction declared with
  | nil => rfl
  | cons v rest inductionHypothesis =>
    rw [resolveAll_cons, List.find?_cons, inductionHypothesis]
    cases bound : bindings v.name with
    | none => simp [Variable.value?, bound]
    | some value =>
      rw [resolveAll_cons]
      simp only [Variable.value?, bound, Option.some_or, Option.isNone_some]
      cases rest.find? fun v => (bindings v.name).isNone <;> rfl

/-- Defaults are a layer of bindings beneath those that are given: with them a template resolves to
the same values in the same order and compiles to the same text, or fails with the same error, as
without defaults above that layer. Without defaults the first variable in order of appearance that
is not bound is the error, whatever the formulas are, and where all are bound it makes no difference
whether defaults are allowed. -/
theorem defaults_are_lower_layer (read : ofText? style t = .ok template) (bindings : Bindings) :
    template.resolve true bindings =
        template.resolve false (bindings.layered (Bindings.ofList template.defaults)) ∧
      template.compile true bindings =
        template.compile false (bindings.layered (Bindings.ofList template.defaults)) ∧
      template.compile false bindings =
        match template.declared.find? fun v => (bindings v.name).isNone with
        | some v => .error (.unresolved v.name)
        | none => template.compile true bindings := by
  have distinct := nodup_names_declared read
  have sameValues : template.resolve true bindings =
      template.resolve false (bindings.layered (Bindings.ofList template.defaults)) :=
    resolveAll_congr fun v member => value?_layered_defaults distinct bindings member
  refine ⟨sameValues, compile_congr sameValues fun resolved => layered_defaults, ?_⟩
  have strict := resolveAll_strict bindings template.declared
  cases unbound : template.declared.find? fun v => (bindings v.name).isNone with
  | some v =>
    rw [unbound] at strict
    rw [compile, resolve, strict]
  | none =>
    rw [unbound] at strict
    exact compile_congr strict fun _ _ => rfl

/-- A formula that refers to a variable by its name sees the default, and misses it without
defaults. -/
theorem default_beside_name :
    ∃ template : Template,
      ofText? .standard "@\x7b2*k\x7d $\x7bk~4\x7d $\x7bm\x7d".toList = .ok template ∧
      template.compile false (Bindings.ofList template.defaults) = .ok "8 4 0".toList ∧
      template.compile false (Bindings.ofList [(['k'], .int 3)]) = .error (.unresolved ['m']) := by
  let doubled : Line := ⟨[.formula [.char '2', .char '*', .char 'k'], .char ' ',
    .slot ⟨['k', '~', '4'], ['k'], .fixed ['4']⟩, .char ' ', .slot ⟨['m'], ['m'], .unconstrained⟩],
    []⟩
  let template : Template := ⟨.standard, [doubled],
    [⟨['k'], .fixed ['4'], 1⟩, ⟨['m'], .unconstrained, 1⟩], []⟩
  have read : ofText? .standard "@\x7b2*k\x7d $\x7bk~4\x7d $\x7bm\x7d".toList = .ok template := by
    decide +kernel
  have compiled : template.compile true .none = .ok "8 4 0".toList := by decide +kernel
  obtain ⟨-, layered, -⟩ := defaults_are_lower_layer read .none
  obtain ⟨-, -, strict⟩ := defaults_are_lower_layer read (Bindings.ofList [(['k'], .int 3)])
  refine ⟨template, read, ?_, strict⟩
  rw [← compiled, layered]
  rfl

end Template

end InputDeck
