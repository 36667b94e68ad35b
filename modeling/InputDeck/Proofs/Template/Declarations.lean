import Mathlib.Data.List.Basic
import InputDeck.Proofs.Entries
import InputDeck.Proofs.Template.BareMarks

/-!
# Declarations that go together

A variable is what the first mark that declares something says about it, or undeclared if there is
no such mark. Marks go together when all that declare something about a name do so in the same way.
Then each name is listed where it first appears, and every later declaration with another content
leaves a notice. Otherwise the first mark that strays from the first declaration of its name is the
error. The invariant of the pass over the marks says both of the variables so far: which names there
are, and which mark each of them stands for.
-/

namespace InputDeck

/-- Only one domain declares nothing. -/
theorem Domain.eq_unconstrained {domain : Domain} (bare : domain.kind = .unconstrained) :
    domain = .unconstrained := by
  cases domain <;> trivial

namespace Declaration

/-- Whether the mark declares something. -/
def declares (d : Declaration) : Bool := d.domain.kind != .unconstrained

/-- The variable that the mark would leave on its own. -/
def toVariable (d : Declaration) : Variable := ⟨d.name, d.domain, d.line⟩

/-- The first mark of a name that declares something. -/
def first? (name : Text) (ds : List Declaration) : Option Declaration :=
  ds.find? fun d => d.name == name && d.declares

/-- The mark that a variable stands for: the first that declares something, else the first. -/
def fixing? (name : Text) (ds : List Declaration) : Option Declaration :=
  (first? name ds).or (ds.find? (·.name == name))

/-- All marks that declare something about a name do so in the same way. -/
def Consistent (ds : List Declaration) : Prop :=
  ∀ d ∈ ds, ∀ d' ∈ ds, d.name = d'.name → d.declares → d'.declares →
    d.domain.kind = d'.domain.kind

/-- The notice about a mark behind others: its content is not that of the first declaration. -/
def notice? (earlier : List Declaration) (d : Declaration) : Option Redeclaration :=
  (first? d.name earlier).bind fun first =>
    if d.declares && !first.domain.same d.domain then some ⟨d.name, d.line, first.line⟩ else none

/-- The notices about marks, each compared with the marks before it. -/
def notices (ds : List Declaration) : List Redeclaration :=
  ds.zipIdx.filterMap fun (d, i) => notice? (ds.take i) d

/-- What is first is a mark of the name that declares something. -/
theorem of_first? {name : Text} {ds : List Declaration} {first : Declaration}
    (found : first? name ds = some first) :
    first ∈ ds ∧ first.name = name ∧ first.declares := by
  have holds := List.find?_some found
  simp only [Bool.and_eq_true, beq_iff_eq] at holds
  exact ⟨List.mem_of_find?_eq_some found, holds⟩

/-- A name about which some mark declares something has a first such mark. -/
theorem exists_first? {ds : List Declaration} {d : Declaration} (member : d ∈ ds)
    (declares : d.declares) : ∃ first, first? d.name ds = some first := by
  apply Option.isSome_iff_exists.1
  rw [first?, List.find?_isSome]
  exact ⟨d, member, by simp [declares]⟩

/-- Further marks come after the first one. -/
theorem first?_append (name : Text) (ds more : List Declaration) :
    first? name (ds ++ more) = (first? name ds).or (first? name more) :=
  List.find?_append

/-- One more mark is the first if it declares something and none did before. -/
theorem first?_concat (name : Text) (ds : List Declaration) (d : Declaration) :
    first? name (ds ++ [d]) =
      (first? name ds).or (if d.name = name ∧ d.declares then some d else none) := by
  rw [first?_append]
  congr 1
  by_cases found : d.name = name ∧ d.declares = true
  · simp [first?, found]
  · rw [if_neg found]
    simpa [first?] using found

/-- What a mark of another name says plays no part. -/
theorem fixing?_concat_of_ne {name : Text} {d : Declaration} (differs : d.name ≠ name)
    (ds : List Declaration) : fixing? name (ds ++ [d]) = fixing? name ds := by
  simp [fixing?, first?_concat, differs]

/-- A mark fixes its variable if it is the first of its name, or the first that declares
something. -/
theorem fixing?_concat_self (ds : List Declaration) (d : Declaration) :
    fixing? d.name (ds ++ [d]) =
      if fixing? d.name ds = none ∨ first? d.name ds = none ∧ d.declares then some d
      else fixing? d.name ds := by
  rw [fixing?, fixing?, first?_concat, List.find?_append]
  cases first? d.name ds with
  | some first => simp
  | none =>
    by_cases declares : d.declares = true
    · simp [declares]
    · cases ds.find? (·.name == d.name) <;> simp [declares]

/-- The notices about marks and about one more. -/
theorem notices_concat (ds : List Declaration) (d : Declaration) :
    notices (ds ++ [d]) = notices ds ++ (notice? ds d).toList := by
  have before :
      (ds.zipIdx.filterMap fun (e, i) => notice? ((ds ++ [d]).take i) e) = notices ds := by
    apply List.filterMap_congr
    rintro ⟨e, i⟩ member
    have bound := (List.mem_zipIdx member).2.1
    change notice? ((ds ++ [d]).take i) e = notice? (ds.take i) e
    rw [List.take_append_of_le_length (by omega)]
  rw [notices, List.zipIdx_append, List.filterMap_append, before]
  cases found : notice? ds d <;> simp [found]

/-- Marks that go together still do so with one more that agrees with the first declaration of its
name. -/
theorem Consistent.concat {ds : List Declaration} (consistent : Consistent ds) {d : Declaration}
    (agrees : ∀ first, first? d.name ds = some first → d.declares →
      first.domain.kind = d.domain.kind) : Consistent (ds ++ [d]) := by
  have sameAsLast : ∀ e ∈ ds, e.name = d.name → e.declares → d.declares →
      e.domain.kind = d.domain.kind := by
    intro e member same declares declaresLast
    obtain ⟨first, found⟩ := exists_first? member declares
    obtain ⟨firstMember, firstName, firstDeclares⟩ := of_first? found
    rw [consistent e member first firstMember firstName.symm declares firstDeclares]
    exact agrees first (same ▸ found) declaresLast
  intro e member e' member' same declares declares'
  rcases List.mem_append.1 member with before | last
  · rcases List.mem_append.1 member' with before' | last'
    · exact consistent e before e' before' same declares declares'
    · obtain rfl := List.mem_singleton.1 last'
      exact sameAsLast e before same declares declares'
  · obtain rfl := List.mem_singleton.1 last
    rcases List.mem_append.1 member' with before' | last'
    · exact (sameAsLast e' before' same.symm declares' declares).symm
    · rw [List.mem_singleton.1 last']

/-- Where marks do not go together, one strays from the first declaration of its name and the marks
before it do go together. -/
theorem exists_stray {ds : List Declaration} (inconsistent : ¬Consistent ds) :
    ∃ before d after first, ds = before ++ d :: after ∧ Consistent before ∧
      first? d.name before = some first ∧ d.declares ∧ first.domain.kind ≠ d.domain.kind := by
  induction ds using List.reverseRecOn with
  | nil => exact absurd (by simp [Consistent]) inconsistent
  | append_singleton ds d inductionHypothesis =>
    by_cases consistent : Consistent ds
    · refine ⟨ds, d, [], ?_⟩
      by_contra none
      apply inconsistent
      apply consistent.concat
      intro first found declares
      by_contra strays
      exact none ⟨first, rfl, consistent, found, declares, strays⟩
    · obtain ⟨before, stray, after, first, rfl, strays⟩ := inductionHypothesis consistent
      exact ⟨before, stray, after ++ [d], first, by simp, strays⟩

end Declaration

namespace Variable

open Declaration

/-- Where each name is listed once, a variable is found by its name. -/
theorem find?_of_mem {declared : List Variable} (distinct : (names declared).Nodup) {v : Variable}
    (member : v ∈ declared) : declared.find? (·.name == v.name) = some v := by
  induction declared with
  | nil => cases member
  | cons first rest inductionHypothesis =>
    obtain ⟨absent, later⟩ := List.nodup_cons.1 distinct
    rw [List.find?_cons]
    rcases List.mem_cons.1 member with rfl | behind
    · simp
    · have differs : first.name ≠ v.name := fun same =>
        absent (same ▸ List.mem_map_of_mem behind)
      rw [beq_eq_false_iff_ne.2 differs]
      exact inductionHypothesis later behind

/-- The variables that marks leave: one for each name, in the order in which the names first
appear, standing for the mark that fixes it. -/
structure Merged (ds : List Declaration) (declared : List Variable) : Prop where
  names_eq : names declared = (ds.map Declaration.name).eraseDups
  find?_eq : ∀ name, declared.find? (·.name == name) = (fixing? name ds).map toVariable

namespace Merged

variable {ds : List Declaration} {declared later : List Variable} {d first : Declaration}

/-- No mark leaves no variable. -/
theorem nil : Merged [] [] := ⟨rfl, fun _ => rfl⟩

/-- One more mark adds its name, if it is new. -/
theorem names_concat (merged : Merged ds declared) {notices : List Redeclaration}
    (done : declare declared d = .ok (later, notices)) :
    names later = ((ds ++ [d]).map Declaration.name).eraseDups := by
  rw [names_declare done, merged.names_eq, List.map_append, List.map_singleton,
    Entries.eraseDups_concat]
  simp only [List.mem_eraseDups]

/-- A variable about which something is declared stands for the first mark that does so. -/
theorem constrained?_eq (merged : Merged ds declared) (name : Text) :
    constrained? name declared = (first? name ds).map toVariable := by
  rw [constrained?, merged.find?_eq, fixing?]
  cases found : first? name ds with
  | some first =>
    have declares := (of_first? found).2.2
    simpa [Option.filter, toVariable, Declaration.declares] using declares
  | none =>
    cases marked : ds.find? (·.name == name) with
    | none => rfl
    | some e =>
      have bare := List.find?_eq_none.1 found e (List.mem_of_find?_eq_some marked)
      have same := List.find?_some marked
      simpa [Option.filter, toVariable, same, Declaration.declares] using bare

/-- A step that fixes the variable of its mark and leaves the others keeps variables merged. -/
theorem concat (merged : Merged ds declared) {notices : List Redeclaration}
    (done : declare declared d = .ok (later, notices))
    (same : others d.name later = others d.name declared)
    (own : later.find? (·.name == d.name) = (fixing? d.name (ds ++ [d])).map toVariable) :
    Merged (ds ++ [d]) later := by
  refine ⟨merged.names_concat done, ?_⟩
  intro name
  by_cases differs : d.name = name
  · rw [← differs, own]
  · rw [← find?_others (Ne.symm differs), same, find?_others (Ne.symm differs), merged.find?_eq,
      fixing?_concat_of_ne differs]

/-- A mark that declares nothing is taken up. -/
theorem declare_bare (merged : Merged ds declared) (bare : d.declares = false) :
    ∃ later, declare declared d = .ok (later, []) ∧ Merged (ds ++ [d]) later := by
  have unconstrained : d.domain.kind = .unconstrained := by simpa [declares] using bare
  obtain ⟨later, done, apart⟩ := Variable.declare_bare unconstrained declared
  refine ⟨later, done, merged.concat done apart.others ?_⟩
  have known := merged.find?_eq d.name
  rw [fixing?_concat_self]
  unfold declare at done
  rw [known] at done
  cases fixed : fixing? d.name ds with
  | none =>
    rw [fixed] at done known
    cases done
    rw [List.find?_append, known]
    simp [toVariable]
  | some e =>
    rw [fixed] at done known
    simp only [Option.map_some, unconstrained, if_true, Except.ok.injEq, Prod.mk.injEq] at done
    rw [← done.1, known]
    simp [bare]

/-- A mark that agrees with the first declaration of its name is taken up, and leaves a notice if
its content is another. -/
theorem declare_concat (merged : Merged ds declared)
    (agrees : ∀ first, first? d.name ds = some first → d.declares →
      first.domain.kind = d.domain.kind) :
    ∃ later, declare declared d = .ok (later, (notice? ds d).toList) ∧
      Merged (ds ++ [d]) later := by
  have fixed := merged.constrained?_eq d.name
  by_cases declares : d.declares = true
  · have constrains : d.domain.kind ≠ .unconstrained := by
      simpa [Declaration.declares] using declares
    cases found : first? d.name ds with
    | none =>
      rw [found] at fixed
      obtain ⟨later, done, same, own⟩ := declare_first constrains fixed
      have none : notice? ds d = none := by simp [notice?, found]
      rw [none]
      refine ⟨later, done, merged.concat done same ?_⟩
      rw [(Option.filter_eq_some_iff.1 own).1, fixing?_concat_self, if_pos (.inr ⟨found, declares⟩)]
      rfl
    | some first =>
      rw [found] at fixed
      have done := declare_further constrains fixed
      have sameKind : ¬first.toVariable.domain.kind ≠ d.domain.kind :=
        not_not.2 (agrees first found declares)
      rw [if_neg sameKind] at done
      have left : (notice? ds d).toList =
          if first.domain.same d.domain then [] else [⟨d.name, d.line, first.line⟩] := by
        cases alike : first.domain.same d.domain <;> simp [notice?, found, declares, alike]
      rw [left]
      refine ⟨declared, done, merged.concat done rfl ?_⟩
      rw [merged.find?_eq, fixing?_concat_self, if_neg (by simp [fixing?, found])]
  · have bare : d.declares = false := Bool.eq_false_iff.2 declares
    have none : notice? ds d = none := by
      cases found : first? d.name ds <;> simp [notice?, found, bare]
    rw [none]
    exact merged.declare_bare bare

/-- A mark that strays from the first declaration of its name is an error. -/
theorem declare_stray (merged : Merged ds declared) (found : first? d.name ds = some first)
    (declares : d.declares) (strays : first.domain.kind ≠ d.domain.kind) :
    declare declared d =
      .error (.inconsistentDomain d.name first.domain.kind d.domain.kind d.line) := by
  have fixed := merged.constrained?_eq d.name
  have constrains : d.domain.kind ≠ .unconstrained := by simpa [Declaration.declares] using declares
  rw [found] at fixed
  rw [declare_further constrains fixed]
  exact if_pos strays

end Merged

/-- Behind declarations that have been taken up, others are taken up as from there. -/
theorem declareAll_append {declared next : List Variable} {first : List Declaration}
    {notices : List Redeclaration} (done : declareAll declared first = .ok (next, notices))
    (second : List Declaration) :
    declareAll declared (first ++ second) =
      (declareAll next second).map fun after => (after.1, notices ++ after.2) := by
  induction first generalizing declared notices with
  | nil =>
    cases done
    rw [List.nil_append]
    cases declareAll next second <;> rfl
  | cons d rest inductionHypothesis =>
    obtain ⟨between, ahead, behind, step, doneRest, rfl⟩ := exists_of_declareAll_cons done
    rw [List.cons_append, declareAll_of_declare step, inductionHypothesis doneRest]
    cases declareAll next second with
    | error error => rfl
    | ok after => simp [Except.map]

/-- The notices of the declarations that are taken up, also where one behind them fails. -/
def log (declared : List Variable) : List Declaration → List Redeclaration
  | [] => []
  | d :: rest =>
    match declare declared d with
    | .error _ => []
    | .ok (later, notices) => notices ++ log later rest

/-- The notices of a declaration that is taken up come before those behind it. -/
theorem log_of_declare {declared next : List Variable} {d : Declaration}
    {notices : List Redeclaration} (done : declare declared d = .ok (next, notices))
    (rest : List Declaration) : log declared (d :: rest) = notices ++ log next rest := by
  rw [log, done]

/-- A declaration that fails leaves no notice. -/
theorem log_of_failed {declared : List Variable} {d : Declaration} {error : TemplateError}
    (failed : declare declared d = .error error) (rest : List Declaration) :
    log declared (d :: rest) = [] := by
  rw [log, failed]

/-- Behind declarations that have been taken up, notices are left as from there. -/
theorem log_append {declared next : List Variable} {first : List Declaration}
    {notices : List Redeclaration} (done : declareAll declared first = .ok (next, notices))
    (second : List Declaration) : log declared (first ++ second) = notices ++ log next second := by
  induction first generalizing declared notices with
  | nil =>
    cases done
    rfl
  | cons d rest inductionHypothesis =>
    obtain ⟨between, ahead, behind, step, doneRest, rfl⟩ := exists_of_declareAll_cons done
    rw [List.cons_append, log_of_declare step, inductionHypothesis doneRest, List.append_assoc]

/-- Marks that go together are taken up. -/
theorem collect_of_consistent {ds : List Declaration} (consistent : Consistent ds) :
    ∃ declared, collect ds = .ok (declared, notices ds) ∧ Merged ds declared := by
  induction ds using List.reverseRecOn with
  | nil => exact ⟨[], rfl, .nil⟩
  | append_singleton ds d inductionHypothesis =>
    have before : Consistent ds := fun e member e' member' =>
      consistent e (List.mem_append_left _ member) e' (List.mem_append_left _ member')
    obtain ⟨declared, done, merged⟩ := inductionHypothesis before
    have agrees : ∀ first, first? d.name ds = some first → d.declares →
        first.domain.kind = d.domain.kind := by
      intro first found declares
      obtain ⟨member, name, firstDeclares⟩ := of_first? found
      exact consistent first (List.mem_append_left _ member) d (by simp) name firstDeclares declares
    obtain ⟨later, step, mergedLater⟩ := merged.declare_concat agrees
    refine ⟨later, ?_, mergedLater⟩
    rw [collect] at done ⊢
    rw [declareAll_append done, declareAll_of_declare step, declareAll, notices_concat]
    simp [Except.map]

/-- A mark that strays from the first declaration of its name ends the pass. -/
theorem collect_of_stray {before : List Declaration} (consistent : Consistent before)
    {d first : Declaration} (found : first? d.name before = some first) (declares : d.declares)
    (strays : first.domain.kind ≠ d.domain.kind) (after : List Declaration) :
    collect (before ++ d :: after) =
      .error (.inconsistentDomain d.name first.domain.kind d.domain.kind d.line) := by
  obtain ⟨declared, done, merged⟩ := collect_of_consistent consistent
  rw [collect] at done ⊢
  rw [declareAll_append done, declareAll_of_failed (merged.declare_stray found declares strays)]
  rfl

/-- A bare mark of a name that is known, or marked before, changes nothing behind it. -/
theorem declareAll_insert_bare {bare : Declaration} (unconstrained : bare.declares = false)
    {declared : List Variable} {earlier : List Declaration}
    (known : bare.name ∈ names declared ++ earlier.map Declaration.name)
    (later : List Declaration) :
    declareAll declared (earlier ++ bare :: later) = declareAll declared (earlier ++ later) ∧
      log declared (earlier ++ bare :: later) = log declared (earlier ++ later) := by
  induction earlier generalizing declared with
  | nil =>
    have isBare : bare.domain.kind = .unconstrained := by simpa [declares] using unconstrained
    have step : declare declared bare = .ok (declared, []) := by
      unfold declare
      cases found : declared.find? (·.name == bare.name) with
      | none =>
        obtain ⟨v, member, same⟩ := List.mem_map.1 (List.append_nil (names declared) ▸ known)
        exact absurd same (by simpa using List.find?_eq_none.1 found v member)
      | some v => simp [isBare]
    rw [List.nil_append, List.nil_append, declareAll_of_declare step, log_of_declare step]
    refine ⟨?_, rfl⟩
    cases declareAll declared later <;> rfl
  | cons d rest inductionHypothesis =>
    rw [List.cons_append, List.cons_append]
    cases step : declare declared d with
    | error error =>
      rw [declareAll_of_failed step, declareAll_of_failed step, log_of_failed step,
        log_of_failed step]
      exact ⟨rfl, rfl⟩
    | ok next =>
      have stillKnown : bare.name ∈ names next.1 ++ rest.map Declaration.name := by
        rw [List.mem_append, mem_names_declare_iff step]
        rw [List.mem_append, List.map_cons, List.mem_cons] at known
        rwa [or_assoc]
      obtain ⟨sameEnd, sameLog⟩ := inductionHypothesis stillKnown
      rw [declareAll_of_declare step, declareAll_of_declare step, log_of_declare step,
        log_of_declare step, sameEnd, sameLog]
      exact ⟨rfl, rfl⟩

namespace Merged

variable {ds : List Declaration} {declared : List Variable}

/-- Each name is listed once. -/
theorem nodup_names (merged : Merged ds declared) : (names declared).Nodup := by
  rw [merged.names_eq]
  exact Entries.nodup_eraseDups _

/-- A variable has the domain of the first mark that declares something about it, or none. -/
theorem domain_eq (merged : Merged ds declared) {v : Variable} (member : v ∈ declared) :
    v.domain = ((first? v.name ds).map Declaration.domain).getD .unconstrained := by
  have listed := merged.find?_eq v.name
  rw [find?_of_mem merged.nodup_names member, fixing?] at listed
  cases found : first? v.name ds with
  | some first =>
    rw [found] at listed
    cases listed
    rfl
  | none =>
    rw [found, Option.none_or] at listed
    obtain ⟨e, marked, rfl⟩ := Option.map_eq_some_iff.1 listed.symm
    have bare := List.find?_eq_none.1 found e (List.mem_of_find?_eq_some marked)
    have unconstrained : e.domain.kind = .unconstrained := by
      simpa [toVariable, declares] using bare
    exact Domain.eq_unconstrained unconstrained

end Merged

/-- Marks that do not go together are those of which two declare a name in different ways. -/
theorem not_consistent_iff (ds : List Declaration) :
    ¬Consistent ds ↔ ∃ d ∈ ds, ∃ d' ∈ ds, d.name = d'.name ∧ d.declares ∧ d'.declares ∧
      d.domain.kind ≠ d'.domain.kind := by
  simp only [Consistent, not_forall, exists_prop, ne_eq]

/-- The pass fails exactly if two marks declare a name in different ways. -/
theorem collect_fails_iff (ds : List Declaration) :
    (∃ error, collect ds = .error error) ↔ ¬Consistent ds := by
  constructor
  · rintro ⟨error, failed⟩ consistent
    obtain ⟨declared, done, -⟩ := collect_of_consistent consistent
    rw [failed] at done
    cases done
  · intro inconsistent
    obtain ⟨before, d, after, first, rfl, consistent, found, declares, strays⟩ :=
      exists_stray inconsistent
    exact ⟨_, collect_of_stray consistent found declares strays after⟩

/-- What the pass leaves is merged, and the notices are those about its marks. -/
theorem merged_of_collect {ds : List Declaration} {declared : List Variable}
    {left : List Redeclaration} (done : collect ds = .ok (declared, left)) :
    Merged ds declared ∧ left = notices ds := by
  have consistent : Consistent ds := by
    by_contra inconsistent
    obtain ⟨error, failed⟩ := (collect_fails_iff ds).2 inconsistent
    rw [done] at failed
    cases failed
  obtain ⟨merging, doneMerging, merged⟩ := collect_of_consistent consistent
  rw [done] at doneMerging
  obtain ⟨rfl, rfl⟩ := Prod.mk.inj (Except.ok.inj doneMerging)
  exact ⟨merged, rfl⟩

/-- The first declaration of a name counts. The pass over the marks of a deck fails exactly if two
of them declare a name in different ways. Its error is then the first mark, in their order, that
declares its name in another way than the first declaration of that name. Otherwise each name is
listed once, where it first appears, with the domain of its first declaration, and there is a notice
for each later declaration with another content, as the first one and it are compared by `same`. A
bare mark of a name that is marked before changes nothing at all. -/
theorem collect_keeps_first_declarations (ds : List Declaration) :
    ((∃ error, collect ds = .error error) ↔
      ∃ d ∈ ds, ∃ d' ∈ ds, d.name = d'.name ∧ d.declares ∧ d'.declares ∧
        d.domain.kind ≠ d'.domain.kind) ∧
    (∀ error, collect ds = .error error →
      ∃ before d after first, ds = before ++ d :: after ∧
        (∀ e ∈ before, e.declares → ∀ known, first? e.name ds = some known →
          known.domain.kind = e.domain.kind) ∧
        d.declares ∧ first? d.name ds = some first ∧ first.domain.kind ≠ d.domain.kind ∧
        error = .inconsistentDomain d.name first.domain.kind d.domain.kind d.line ∧
        log [] ds = notices before) ∧
    (∀ declared left, collect ds = .ok (declared, left) →
      names declared = (ds.map Declaration.name).eraseDups ∧ (names declared).Nodup ∧
      (∀ v ∈ declared,
        v.domain = ((first? v.name ds).map Declaration.domain).getD .unconstrained) ∧
      left = notices ds ∧ log [] ds = notices ds) ∧
    ∀ before bare after, bare.declares = false → bare.name ∈ before.map Declaration.name →
      ds = before ++ after →
      collect (before ++ bare :: after) = collect ds ∧
        log [] (before ++ bare :: after) = log [] ds := by
  refine ⟨?_, ?_, ?_, ?_⟩
  · rw [collect_fails_iff, not_consistent_iff]
  · intro error failed
    obtain ⟨before, d, after, first, rfl, consistent, found, declares, strays⟩ :=
      exists_stray ((collect_fails_iff ds).1 ⟨error, failed⟩)
    obtain ⟨declared, done, merged⟩ := collect_of_consistent consistent
    rw [collect_of_stray consistent found declares strays after] at failed
    refine ⟨before, d, after, first, rfl, ?_, declares, ?_, strays, (Except.error.inj failed).symm,
      ?_⟩
    · intro e member declaresBefore known knownFound
      obtain ⟨own, ownFound⟩ := exists_first? member declaresBefore
      rw [first?_append, ownFound, Option.some_or] at knownFound
      obtain rfl := Option.some.inj knownFound
      obtain ⟨ownMember, ownName, ownDeclares⟩ := of_first? ownFound
      exact consistent own ownMember e member ownName ownDeclares declaresBefore
    · rw [first?_append, found, Option.some_or]
    · rw [log_append done, log_of_failed (merged.declare_stray found declares strays),
        List.append_nil]
  · intro declared left done
    obtain ⟨merged, rfl⟩ := merged_of_collect done
    have logged := log_append done []
    rw [List.append_nil, log, List.append_nil] at logged
    exact ⟨merged.names_eq, merged.nodup_names, fun v => merged.domain_eq, rfl, logged⟩
  · rintro before bare after unconstrained marked rfl
    exact declareAll_insert_bare unconstrained (List.mem_append_right _ marked) after

/-- A literal behind a set is an error, wherever bare marks of the name stand. -/
theorem literal_behind_set :
    let choice : Declaration := ⟨['r'], .set [['a'], ['b']], 2⟩
    let literal : Declaration := ⟨['r'], .fixed ['8'], 4⟩
    let bare (line : Nat) : Declaration := ⟨['r'], .unconstrained, line⟩
    (∃ error, collect [bare 1, choice, literal] = .error error) ∧
      collect [bare 1, choice, bare 3, literal] =
        .error (.inconsistentDomain ['r'] .set .fixed 4) := by
  intro choice literal bare
  have stray : collect [bare 1, choice, literal] =
      .error (.inconsistentDomain ['r'] .set .fixed 4) := rfl
  obtain ⟨fails, -, -, insert⟩ := collect_keeps_first_declarations [bare 1, choice, literal]
  have moved := insert [bare 1, choice] (bare 3) [literal] rfl (by decide) rfl
  refine ⟨fails.2 ⟨choice, by simp, literal, by simp, rfl, rfl, rfl, by decide⟩, ?_⟩
  rw [← stray]
  exact moved.1

end Variable

end InputDeck
