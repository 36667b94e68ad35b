import InputDeck.Proofs.Template.Scope

/-!
# Marks that declare nothing

A bare mark adds at most the name of its variable. So without the mark a row of declarations fails
with the same error, or leaves the same variables but for that one. Where that one is bound, its
place among the variables plays no part, and the others have the same values.
-/

namespace InputDeck

/-! ## Declarations by lines -/

/-- What a slot on a line says about its variable. -/
def Slot.declaration (number : Nat) (s : Slot) : Declaration := ⟨s.name, s.domain, number⟩

namespace Part

/-- What a part of a formula on a line declares. -/
def declaration? (number : Nat) : Part → Option Declaration
  | char _ => none
  | slot s => some (s.declaration number)

/-- Characters declare nothing. -/
theorem filterMap_declaration?_char (number : Nat) (t : Text) :
    (t.map char).filterMap (declaration? number) = [] := by
  rw [List.filterMap_eq_nil_iff]
  intro part member
  obtain ⟨c, -, rfl⟩ := List.mem_map.1 member
  rfl

end Part

namespace Piece

/-- What a piece of a line declares, in the order of the text. -/
def declarations (number : Nat) : Piece → List Declaration
  | char _ => []
  | slot s => [s.declaration number]
  | formula parts => parts.filterMap (Part.declaration? number)

/-- The reported slots of a piece declare what the piece declares. -/
theorem map_declaration_slots (style : MarkerStyle) (place : Position) (piece : Piece) :
    (piece.slots style place).map SlotOccurrence.declaration = piece.declarations place.line := by
  cases piece with
  | char c => rfl
  | slot s => rfl
  | formula parts =>
    have inside : ∀ here : Position, (Part.occurrences style here parts).map
        SlotOccurrence.declaration = parts.filterMap (Part.declaration? here.line) := by
      induction parts with
      | nil => exact fun _ => rfl
      | cons part rest inductionHypothesis =>
        intro here
        have later := inductionHypothesis (here.advance (part.source style))
        cases part with
        | char c => exact later
        | slot s => exact congrArg (s.declaration here.line :: ·) later
    exact inside _

end Piece

namespace Line

/-- What lines declare, in the order of the text; the first has the given number. -/
def declarations : Nat → List Line → List Declaration
  | _, [] => []
  | number, line :: rest =>
    line.pieces.flatMap (Piece.declarations number) ++ declarations (number + 1) rest

/-- Lines declare one behind the other. -/
theorem declarations_append (number : Nat) (first second : List Line) :
    declarations number (first ++ second) =
      declarations number first ++ declarations (number + first.length) second := by
  induction first generalizing number with
  | nil => rfl
  | cons line rest inductionHypothesis =>
    rw [List.cons_append, declarations, declarations, inductionHypothesis, List.append_assoc,
      List.length_cons, Nat.add_right_comm, Nat.add_assoc]

/-- The reported slots of a deck declare what its lines declare. -/
theorem map_declaration_slots (style : MarkerStyle) (lines : List Line) :
    (slots style lines).map SlotOccurrence.declaration = declarations 1 lines := by
  have onLine : ∀ (pieces : List Piece) (place : Position),
      ((place.locate (Piece.source style) pieces).flatMap fun found =>
        (found.2.slots style found.1).map SlotOccurrence.declaration) =
      pieces.flatMap (Piece.declarations place.line) := by
    intro pieces
    induction pieces with
    | nil => exact fun _ => rfl
    | cons piece rest inductionHypothesis =>
      intro place
      rw [Position.locate, List.flatMap_cons, List.flatMap_cons, inductionHypothesis,
        Piece.map_declaration_slots]
      rfl
  have below : ∀ offset number, ((located style offset number lines).flatMap fun found =>
        (found.2.slots style found.1).map SlotOccurrence.declaration) =
      declarations number lines := by
    induction lines with
    | nil => exact fun _ _ => rfl
    | cons line rest inductionHypothesis =>
      intro offset number
      rw [located, List.flatMap_append, onLine, inductionHypothesis, declarations]
  rw [slots, List.map_flatMap]
  exact below 0 1

/-- Lines declare the names of their slots. -/
theorem map_name_declarations (style : MarkerStyle) (lines : List Line) :
    (declarations 1 lines).map Declaration.name = slotNames lines := by
  rw [← map_declaration_slots style, List.map_map]
  exact map_name_slots style lines

end Line

/-! ## Variables but for one -/

namespace Variable

/-- The variables of other names. -/
def others (name : Text) (declared : List Variable) : List Variable :=
  declared.filter fun v => v.name != name

/-- The variable of this name, if something is declared about it. -/
def constrained? (name : Text) (declared : List Variable) : Option Variable :=
  (declared.find? fun v => v.name == name).filter fun v => v.domain.kind != .unconstrained

/-- The same variables in the same order but for the one of this name, about which the same is
declared, if anything. -/
structure SameApart (name : Text) (declared declared' : List Variable) : Prop where
  others : others name declared = others name declared'
  constrained : constrained? name declared = constrained? name declared'

/-- A variable is found among those of other names. -/
theorem find?_others {name other : Text} (differs : other ≠ name) (declared : List Variable) :
    (others name declared).find? (fun v => v.name == other) =
      declared.find? fun v => v.name == other := by
  rw [others, List.find?_filter]
  congr 1
  funext v
  by_cases same : v.name = other
  · simp [same, differs]
  · simp [same]

/-- A variable that is replaced is not one of another name. -/
theorem find?_replace_of_ne {name : Text} {v : Variable} (differs : v.name ≠ name)
    (declared : List Variable) :
    (replace declared v).find? (fun v => v.name == name) =
      declared.find? fun v => v.name == name := by
  induction declared with
  | nil => rfl
  | cons first rest inductionHypothesis =>
    change List.find? _ ((if first.name = v.name then v else first) :: replace rest v) = _
    rw [List.find?_cons, List.find?_cons, inductionHypothesis]
    by_cases replaced : first.name = v.name
    · simp only [replaced, if_true, beq_eq_false_iff_ne.2 differs]
    · simp [replaced]

/-- A variable that is known is found where it has been replaced. -/
theorem find?_replace_self {known v : Variable} {declared : List Variable}
    (found : declared.find? (fun old => old.name == v.name) = some known) :
    (replace declared v).find? (fun old => old.name == v.name) = some v := by
  induction declared with
  | nil => cases found
  | cons first rest inductionHypothesis =>
    change List.find? _ ((if first.name = v.name then v else first) :: replace rest v) = _
    by_cases replaced : first.name = v.name
    · simp [replaced]
    · rw [List.find?_cons] at found
      simp only [beq_eq_false_iff_ne.2 replaced] at found
      simpa [replaced] using inductionHypothesis found

/-- Replacing a variable leaves those of other names. -/
theorem others_replace_self (v : Variable) (declared : List Variable) :
    others v.name (replace declared v) = others v.name declared := by
  induction declared with
  | nil => rfl
  | cons first rest inductionHypothesis =>
    change List.filter _ ((if first.name = v.name then v else first) :: replace rest v) = _
    rw [List.filter_cons, others, List.filter_cons, ← others, ← others, inductionHypothesis]
    by_cases replaced : first.name = v.name
    · simp [replaced]
    · simp [replaced]

/-- Among the variables of other names one of them is replaced. -/
theorem others_replace_of_ne {name : Text} {v : Variable} (differs : v.name ≠ name)
    (declared : List Variable) :
    others name (replace declared v) = replace (others name declared) v := by
  induction declared with
  | nil => rfl
  | cons first rest inductionHypothesis =>
    change List.filter _ ((if first.name = v.name then v else first) :: replace rest v) = _
    rw [List.filter_cons, others, List.filter_cons, ← others, ← others, inductionHypothesis]
    by_cases replaced : first.name = v.name
    · simp [replaced, differs, replace]
    · by_cases same : first.name = name
      · simp [same, Ne.symm differs]
      · simp [replaced, same, replace]

/-- A mark that declares nothing leaves the variables but for its own. -/
theorem declare_bare {d : Declaration} (bare : d.domain.kind = .unconstrained)
    (declared : List Variable) :
    ∃ later, declare declared d = .ok (later, []) ∧ SameApart d.name later declared := by
  unfold declare
  cases found : declared.find? (fun v => v.name == d.name) with
  | none =>
    refine ⟨declared ++ [⟨d.name, d.domain, d.line⟩], rfl, ?_, ?_⟩
    · simp [others]
    · simp [constrained?, List.find?_append, found, bare]
  | some known => exact ⟨declared, by simp [bare], rfl, rfl⟩

/-- The first mark that declares something fixes its variable. -/
theorem declare_first {d : Declaration} (constrains : d.domain.kind ≠ .unconstrained)
    {declared : List Variable} (first : constrained? d.name declared = none) :
    ∃ later, declare declared d = .ok (later, []) ∧
      others d.name later = others d.name declared ∧
      constrained? d.name later = some ⟨d.name, d.domain, d.line⟩ := by
  unfold declare
  cases found : declared.find? (fun v => v.name == d.name) with
  | none =>
    refine ⟨declared ++ [⟨d.name, d.domain, d.line⟩], rfl, ?_, ?_⟩
    · simp [others]
    · simp [constrained?, List.find?_append, found, constrains]
  | some known =>
    have bare : known.domain.kind = .unconstrained := by
      simpa [constrained?, found, Option.filter] using first
    have restored := @find?_replace_self known ⟨d.name, d.domain, d.line⟩ declared found
    refine ⟨replace declared ⟨d.name, d.domain, d.line⟩, by simp [constrains, bare],
      others_replace_self ⟨d.name, d.domain, d.line⟩ declared, ?_⟩
    simp [constrained?, restored, constrains]

/-- A further mark that declares something is compared with what is declared and changes nothing. -/
theorem declare_further {d : Declaration} (constrains : d.domain.kind ≠ .unconstrained)
    {declared : List Variable} {known : Variable}
    (further : constrained? d.name declared = some known) :
    declare declared d =
      if known.domain.kind ≠ d.domain.kind then
        .error (.inconsistentDomain d.name known.domain.kind d.domain.kind d.line)
      else .ok (declared,
        if known.domain.same d.domain then [] else [⟨d.name, d.line, known.declaredAt⟩]) := by
  obtain ⟨found, constrained⟩ := Option.filter_eq_some_iff.1 further
  simp only [bne_iff_ne] at constrained
  rw [declare, found]
  simp only [constrains, constrained, if_false]
  by_cases differs : known.domain.kind = d.domain.kind
  · by_cases same : known.domain.same d.domain = true
    · simp [differs, same]
    · simp [differs, same]
  · simp [differs]

/-- A mark of the one variable leaves the others the same, and it fares alike where the same is
declared about that one. -/
theorem declare_alike_own {d : Declaration} {declared declared' : List Variable}
    (same : SameApart d.name declared declared') :
    Alike Eq (fun after after' => SameApart d.name after.1 after'.1 ∧ after.2 = after'.2)
      (declare declared d) (declare declared' d) := by
  by_cases bare : d.domain.kind = .unconstrained
  · obtain ⟨later, done, apart⟩ := declare_bare bare declared
    obtain ⟨later', done', apart'⟩ := declare_bare bare declared'
    rw [done, done']
    refine .ok ⟨⟨?_, ?_⟩, rfl⟩
    · rw [apart.others, same.others, apart'.others]
    · rw [apart.constrained, same.constrained, apart'.constrained]
  · cases known : constrained? d.name declared with
    | none =>
      obtain ⟨later, done, others, fixed⟩ := declare_first bare known
      obtain ⟨later', done', others', fixed'⟩ :=
        declare_first bare (same.constrained.symm.trans known)
      rw [done, done']
      refine .ok ⟨⟨?_, ?_⟩, rfl⟩
      · rw [others, same.others, others']
      · rw [fixed, fixed']
    | some v =>
      rw [declare_further bare known, declare_further bare (same.constrained.symm.trans known)]
      by_cases differs : v.domain.kind ≠ d.domain.kind
      · rw [if_pos differs, if_pos differs]
        exact .error rfl
      · rw [if_neg differs, if_neg differs]
        exact .ok ⟨same, rfl⟩

section Other

variable {name : Text} {declared declared' : List Variable} {v : Variable}

/-- Replacing another variable keeps variables the same but for the one. -/
theorem SameApart.replace (same : SameApart name declared declared') (differs : v.name ≠ name) :
    SameApart name (replace declared v) (replace declared' v) := by
  constructor
  · rw [others_replace_of_ne differs, others_replace_of_ne differs, same.others]
  · rw [constrained?, constrained?, find?_replace_of_ne differs, find?_replace_of_ne differs]
    exact same.constrained

/-- Adding another variable keeps variables the same but for the one. -/
theorem SameApart.add (same : SameApart name declared declared') (differs : v.name ≠ name) :
    SameApart name (declared ++ [v]) (declared' ++ [v]) := by
  have alone : [v].find? (fun v => v.name == name) = none := by simp [differs]
  constructor
  · rw [Variable.others, Variable.others, List.filter_append, List.filter_append]
    exact congrArg (· ++ _) same.others
  · rw [constrained?, constrained?, List.find?_append, List.find?_append, alone, Option.or_none,
      Option.or_none]
    exact same.constrained

/-- A mark of another variable fares alike, for this one is known alike. -/
theorem declare_alike_other (same : SameApart name declared declared') {d : Declaration}
    (differs : d.name ≠ name) :
    Alike Eq (fun after after' => SameApart name after.1 after'.1 ∧ after.2 = after'.2)
      (declare declared d) (declare declared' d) := by
  have found : declared.find? (fun v => v.name == d.name) =
      declared'.find? fun v => v.name == d.name := by
    rw [← find?_others differs, same.others, find?_others differs]
  unfold declare
  rw [found]
  cases declared'.find? (fun v => v.name == d.name) with
  | none => exact .ok ⟨same.add differs, rfl⟩
  | some known =>
    simp only
    split
    · exact .ok ⟨same, rfl⟩
    · split
      · exact .ok ⟨same.replace differs, rfl⟩
      · split
        · exact .error rfl
        · split
          · exact .ok ⟨same, rfl⟩
          · exact .ok ⟨same, rfl⟩

end Other

/-- A declaration does not tell the same variables but for one apart. -/
theorem declare_alike {name : Text} {declared declared' : List Variable}
    (same : SameApart name declared declared') (d : Declaration) :
    Alike Eq (fun after after' => SameApart name after.1 after'.1 ∧ after.2 = after'.2)
      (declare declared d) (declare declared' d) := by
  by_cases own : d.name = name
  · subst own
    exact declare_alike_own same
  · exact declare_alike_other same own

/-- The notices of a declaration come before those of the declarations behind it. -/
theorem declareAll_of_declare {declared next : List Variable} {d : Declaration}
    {notices : List Redeclaration} (done : declare declared d = .ok (next, notices))
    (rest : List Declaration) :
    declareAll declared (d :: rest) =
      (declareAll next rest).map fun after => (after.1, notices ++ after.2) := by
  rw [declareAll, done]

/-- A declaration that fails is the last one that is looked at. -/
theorem declareAll_of_failed {declared : List Variable} {d : Declaration} {error : TemplateError}
    (failed : declare declared d = .error error) (rest : List Declaration) :
    declareAll declared (d :: rest) = .error error := by
  rw [declareAll, failed]

/-- The same declarations leave variables the same but for one if they were so before. -/
theorem declareAll_alike {name : Text} {declared declared' : List Variable}
    (same : SameApart name declared declared') (ds : List Declaration) :
    Alike Eq (fun after after' => SameApart name after.1 after'.1 ∧ after.2 = after'.2)
      (declareAll declared ds) (declareAll declared' ds) := by
  induction ds generalizing declared declared' with
  | nil => exact .ok ⟨same, rfl⟩
  | cons d rest inductionHypothesis =>
    rcases (declare_alike same d).cases with
      ⟨⟨next, notices⟩, ⟨next', _⟩, done, done', apart, sameNotices⟩ |
      ⟨error, _, failed, failed', rfl⟩
    · cases sameNotices
      rw [declareAll_of_declare done, declareAll_of_declare done']
      apply (inductionHypothesis apart).map
      rintro after after' ⟨apartAfter, later⟩
      exact ⟨apartAfter, congrArg (notices ++ ·) later⟩
    · rw [declareAll_of_failed failed, declareAll_of_failed failed']
      exact .error rfl

/-- Without a bare mark of a variable a row of declarations leaves the same but for it. -/
theorem declareAll_bare {bare : Declaration} (unconstrained : bare.domain.kind = .unconstrained)
    (declared : List Variable) (earlier later : List Declaration) :
    Alike Eq (fun after after' => SameApart bare.name after.1 after'.1 ∧ after.2 = after'.2)
      (declareAll declared (earlier ++ bare :: later))
      (declareAll declared (earlier ++ later)) := by
  induction earlier generalizing declared with
  | nil =>
    obtain ⟨next, done, apart⟩ := declare_bare unconstrained declared
    rw [List.nil_append, List.nil_append, declareAll_of_declare done]
    rcases (declareAll_alike apart later).cases with ⟨after, after', all, all', related⟩ |
      ⟨error, _, failed, failed', rfl⟩
    · rw [all, all']
      exact .ok related
    · rw [failed, failed']
      exact .error rfl
  | cons d rest inductionHypothesis =>
    rw [List.cons_append, List.cons_append]
    cases step : declare declared d with
    | error error =>
      rw [declareAll_of_failed step, declareAll_of_failed step]
      exact .error rfl
    | ok next =>
      rw [declareAll_of_declare step, declareAll_of_declare step]
      apply (inductionHypothesis next.1).map
      rintro after after' ⟨apart, notices⟩
      exact ⟨apart, congrArg (next.2 ++ ·) notices⟩

/-- A row of declarations leaves a variable for each of its marks, and those of the other marks are
left without this one too. -/
theorem names_of_declareAll {mark : Declaration} {earlier later : List Declaration}
    {declared declared' : List Variable} {notices notices' : List Redeclaration}
    (done : declareAll [] (earlier ++ mark :: later) = .ok (declared, notices))
    (done' : declareAll [] (earlier ++ later) = .ok (declared', notices')) :
    mark.name ∈ names declared ∧ ∀ other ∈ names declared', other ∈ names declared := by
  have member := mem_names_declareAll_iff done
  have member' := mem_names_declareAll_iff done'
  constructor
  · rw [member, List.map_append, List.map_cons]
    exact .inr (List.mem_append_right _ List.mem_cons_self)
  · intro other declaredThere
    rw [member', List.map_append, List.mem_append] at declaredThere
    rw [member, List.map_append, List.mem_append, List.map_cons, List.mem_cons]
    rcases declaredThere with nothing | before | behind
    · cases nothing
    · exact .inr (.inl before)
    · exact .inr (.inr (.inr behind))

end Variable

/-! ## Values but for one -/

namespace Template

variable {name : Text} {value : Value} {bindings : Bindings} {useDefaults : Bool}

/-- A bound variable takes no part in how the others are resolved. -/
theorem resolveAll_others (bound : bindings name = some value) (declared : List Variable) :
    resolveAll useDefaults bindings (Variable.others name declared) =
      (resolveAll useDefaults bindings declared).map
        (List.filter fun pair => pair.1 != name) := by
  induction declared with
  | nil => rfl
  | cons v rest inductionHypothesis =>
    rw [Variable.others, List.filter_cons, ← Variable.others, resolveAll]
    by_cases own : v.name = name
    · rw [own, bound, if_neg (by simp), inductionHypothesis]
      cases resolveAll useDefaults bindings rest with
      | error error => rfl
      | ok resolved => simp [Except.map]
    · rw [if_pos (by simpa using own), resolveAll, inductionHypothesis]
      cases (bindings v.name).or (if useDefaults then some v.domain.defaultValue else none) with
      | none => rfl
      | some other =>
        cases resolveAll useDefaults bindings rest with
        | error error => rfl
        | ok resolved => simp [Except.map, own]

/-- A bound variable is resolved to what it is bound to. -/
theorem ofList_of_resolveAll (bound : bindings name = some value) {declared : List Variable}
    {resolved : List (Text × Value)}
    (done : resolveAll useDefaults bindings declared = .ok resolved) :
    Bindings.ofList resolved name =
      if name ∈ Variable.names declared then some value else none := by
  induction declared generalizing resolved with
  | nil =>
    cases done
    rfl
  | cons v rest inductionHypothesis =>
    unfold resolveAll at done
    split at done
    · cases done
    · rename_i first isFirst
      obtain ⟨later, laterDone, rfl⟩ := (map_eq_ok_iff _ _ _).1 done
      by_cases own : v.name = name
      · rw [own, bound] at isFirst
        cases isFirst
        simp [Bindings.ofList, Variable.names, own]
      · have elsewhere : (name == v.name) = false := beq_eq_false_iff_ne.2 (Ne.symm own)
        have here := inductionHypothesis laterDone
        rw [Bindings.ofList] at here ⊢
        rw [List.lookup_cons, elsewhere, here]
        simp [Variable.names, Ne.symm own]

/-- Pairs of another name play no part in looking a name up. -/
theorem lookup_filter_ne {other : Text} (differs : other ≠ name) (pairs : List (Text × Value)) :
    (pairs.filter fun pair => pair.1 != name).lookup other = pairs.lookup other := by
  induction pairs with
  | nil => rfl
  | cons pair rest inductionHypothesis =>
    rw [List.filter_cons, List.lookup_cons, ← inductionHypothesis]
    by_cases own : pair.1 = name
    · have elsewhere : (other == pair.1) = false := by simp [own, differs]
      rw [if_neg (by simp [own]), elsewhere]
    · rw [if_pos (by simp [own]), List.lookup_cons]

/-- Variables that are the same but for a bound one are resolved to values that agree. -/
theorem resolveAll_alike (bound : bindings name = some value) {declared declared' : List Variable}
    (same : Variable.others name declared = Variable.others name declared')
    (fewer : ∀ other ∈ Variable.names declared', other ∈ Variable.names declared) :
    Alike Eq (fun resolved resolved' =>
        Bindings.Agree (Variable.names declared') resolved resolved' bindings bindings)
      (resolveAll useDefaults bindings declared) (resolveAll useDefaults bindings declared') := by
  have filtered : (resolveAll useDefaults bindings declared).map
      (List.filter fun pair => pair.1 != name) = (resolveAll useDefaults bindings declared').map
        (List.filter fun pair => pair.1 != name) := by
    rw [← resolveAll_others bound, ← resolveAll_others bound, same]
  cases done : resolveAll useDefaults bindings declared with
  | error error =>
    rw [done] at filtered
    rw [(map_eq_error_iff _ _ _).1 filtered.symm]
    exact .error rfl
  | ok resolved =>
    rw [done] at filtered
    obtain ⟨resolved', done', others⟩ := (map_eq_ok_iff _ _ _).1 filtered.symm
    have elsewhere : ∀ other, other ≠ name →
        Bindings.ofList resolved other = Bindings.ofList resolved' other := by
      intro other differs
      rw [Bindings.ofList, Bindings.ofList, ← lookup_filter_ne differs resolved, ← others,
        lookup_filter_ne differs]
    have here := ofList_of_resolveAll bound done
    have here' := ofList_of_resolveAll bound done'
    rw [done']
    refine .ok ⟨?_, ?_⟩
    · intro other member
      by_cases own : other = name
      · subst own
        rw [here, here', if_pos member, if_pos (fewer other member)]
      · exact elsewhere other own
    · funext other
      by_cases own : other = name
      · subst own
        rw [Bindings.layered, Bindings.layered, here, here', bound]
        split <;> split <;> rfl
      · rw [Bindings.layered, Bindings.layered, elsewhere other own]

end Template

end InputDeck
