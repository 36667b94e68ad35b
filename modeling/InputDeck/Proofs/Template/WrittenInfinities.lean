import InputDeck.Proofs.Formula.Evaluation
import InputDeck.Proofs.Value.Literals
import InputDeck.Proofs.Template.Defaults
import InputDeck.Proofs.Template.Rewriting
import InputDeck.Proofs.Template.WrittenDomains

/-!
# Infinities of a deck

No number of a template is NaN, but a numeral may be too large for the format, and it is read as an
infinity. So the ends of intervals, their defaults and the literals that are defaults are infinite
exactly where they are written too large. In a deck that is compiled with defaults alone an infinity
takes the place of a slot with such a default, and never the place of a formula, of which every part
has to be finite.
-/

namespace InputDeck

namespace Domain

/-- The parts of the declaration that an interval is read from. -/
def parts (declaration : Text) : Domain → List Text
  | range .. => Slot.elements (declaration.drop 1).dropLast
  | _ => []

/-- The literal that the default of a domain is read from: a literal, the first one of a set, and
the default or else the low end of an interval, unless the interval holds zero. -/
def defaultLiteral? (declaration : Text) (domain : Domain) : Option Text :=
  match domain with
  | unconstrained => none
  | fixed literal => some literal
  | range low high preset =>
    match preset with
    | some _ => (domain.parts declaration)[2]?
    | none => if low ≤ 0 ∧ 0 ≤ high then none else (domain.parts declaration)[0]?
  | set items => items.head?

/-- No number of the domain is NaN, and one is infinite exactly if it is written too large. -/
structure InfiniteAsWritten (declaration : Text) (domain : Domain) : Prop where
  numbers : List.Forall₂
    (fun part (x : Float) => x.isNaN = false ∧ (x.isFinite = false ↔ Value.TooLarge part))
    (domain.parts declaration) domain.numbers
  default_notNaN : domain.defaultValue.NotNaN
  default_infinite : domain.defaultValue.isNonFinite = true ↔
    ∃ literal, domain.defaultLiteral? declaration = some literal ∧ Value.TooLarge literal

/-- Where nothing is declared there is no infinity. -/
theorem infiniteAsWritten_unconstrained : InfiniteAsWritten [] unconstrained where
  numbers := .nil
  default_notNaN := (Value.status_int 0).1
  default_infinite := by simp [defaultValue, defaultLiteral?, (Value.status_int 0).2]

/-- A default that is a literal is infinite exactly if it is written too large. -/
theorem infinite_ofLiteral_iff (literal : Text) :
    (Value.ofLiteral literal).isNonFinite = true ↔
      ∃ source, some literal = some source ∧ Value.TooLarge source := by
  simp [(Value.status_ofLiteral literal).2]

/-- The numbers of an interval are infinite exactly where its parts are too large. -/
theorem infiniteAsWritten_range {declaration : Text} {low high : Float} {preset : Option Float}
    (numbers : List.Forall₂
      (fun part (x : Float) => x.isNaN = false ∧ (x.isFinite = false ↔ Value.TooLarge part))
      ((range low high preset).parts declaration) (range low high preset).numbers) :
    (range low high preset).InfiniteAsWritten declaration := by
  have default : (range low high preset).defaultValue.NotNaN ∧
      ((range low high preset).defaultValue.isNonFinite = true ↔
        ∃ literal, (range low high preset).defaultLiteral? declaration = some literal ∧
          Value.TooLarge literal) := by
    obtain ⟨lowPart, _, lowStatus, ends, parts⟩ := List.forall₂_cons_right_iff.1 numbers
    obtain ⟨highPart, _, -, rest, rfl⟩ := List.forall₂_cons_right_iff.1 ends
    cases preset with
    | none =>
      by_cases zero : low ≤ 0 ∧ 0 ≤ high
      · have finite : (0 : Float).isNaN = false ∧ ((0 : Float).isFinite = false ↔ False) := by
          decide +kernel
        simpa [defaultValue, defaultLiteral?, zero] using Value.status_real finite
      · simpa [defaultValue, defaultLiteral?, zero, parts] using Value.status_real lowStatus
    | some x =>
      obtain ⟨presetPart, _, presetStatus, -, rfl⟩ := List.forall₂_cons_right_iff.1 rest
      simpa [defaultValue, defaultLiteral?, parts] using Value.status_real presetStatus
  exact ⟨numbers, default.1, default.2⟩

/-- The numbers of a domain are infinite exactly where its declaration is too large. -/
theorem WrittenAs.infiniteAsWritten {declaration : Text} {domain : Domain}
    (written : domain.WrittenAs declaration) : domain.InfiniteAsWritten declaration := by
  cases written with
  | fixed =>
    exact ⟨.nil, (Value.status_ofLiteral declaration).1, infinite_ofLiteral_iff declaration⟩
  | @set content each =>
    obtain ⟨first, others, items⟩ := List.exists_cons_of_ne_nil (Slot.elements_ne_nil content)
    rw [items]
    exact ⟨.nil, (Value.status_ofLiteral first).1, infinite_ofLiteral_iff first⟩
  | @range content low high preset reads ordered within =>
    have inside : (('[' :: (content ++ [']'])).drop 1).dropLast = content := by simp
    apply infiniteAsWritten_range
    rw [parts, inside]
    exact reads.imp fun part x => Slot.status_rangePart?

end Domain

namespace Template

variable {style : MarkerStyle} {t : Text} {template : Template}

/-- The default of every variable of a template is infinite exactly where it is written too
large. -/
theorem exists_infiniteAsWritten (read : ofText? style t = .ok template) {v : Variable}
    (member : v ∈ template.declared) :
    ∃ declaration, v.domain.InfiniteAsWritten declaration ∧
      (v.domain = .unconstrained ∨
        ∃ s ∈ template.slots, s.name = v.name ∧ ∃ nameText declarationText,
          s.Encloses style t (nameText ++ '~' :: declarationText) ∧ '~' ∉ nameText ∧
            declaration = Text.trim declarationText) := by
  rcases exists_declaration read member with
    bare | ⟨s, inDeck, name, nameText, declarationText, encloses, first, written⟩
  · refine ⟨[], ?_, .inl bare⟩
    rw [bare]
    exact Domain.infiniteAsWritten_unconstrained
  · exact ⟨_, written.infiniteAsWritten,
      .inr ⟨s, inDeck, name, nameText, declarationText, encloses, first, rfl⟩⟩

/-- No default of a template is NaN. -/
theorem notNaN_of_mem_defaults (read : ofText? style t = .ok template) {name : Text} {v : Value}
    (member : (name, v) ∈ template.defaults) : v.NotNaN := by
  obtain ⟨declared, listed, same⟩ := List.mem_map.1 member
  cases same
  obtain ⟨declaration, asWritten, -⟩ := exists_infiniteAsWritten read listed
  exact asWritten.default_notNaN

/-- What a marker becomes where nothing is bound is the text of a value that is not NaN: for a slot
its default, and for a formula a value that is not infinite either. -/
theorem becomes_default (read : ofText? style t = .ok template) {m : Marker} {new : Text}
    (becomes : Marker.Becomes t template.slots template.defaults .none m new) :
    ∃ v : Value, new = v.render ∧ v.NotNaN ∧
      (∀ s, m = .slot s → (s.name, v) ∈ template.defaults) ∧
      ∀ f, m = .formula f → v.isNonFinite = false := by
  cases becomes with
  | @slot s v found =>
    have listed : (s.name, v) ∈ template.defaults := by
      obtain ⟨before, after, split, -⟩ := List.lookup_eq_some_iff.1 found
      simp [split]
    refine ⟨v, rfl, notNaN_of_mem_defaults read listed, ?_, fun _ => Marker.noConfusion⟩
    rintro _ ⟨⟩
    exact listed
  | @formula f source v filled evaluated =>
    have finite := Formula.isNonFinite_of_evaluate evaluated
    exact ⟨v, rfl, Value.notNaN_of_finite finite, fun _ => Marker.noConfusion, fun _ _ => finite⟩

/-- Infinities come from numbers that are written too large, and no number is NaN. In a template
that is read, the numbers of every interval are infinite exactly where its parts are too large, and
the default of every variable is infinite exactly if the literal it is read from is. In a deck that
is compiled with defaults alone a slot becomes the text of its default, and a formula that of a
value that is neither an infinity nor NaN. -/
theorem infinities_are_written (read : ofText? style t = .ok template) :
    (∀ v ∈ template.declared, ∃ declaration, v.domain.InfiniteAsWritten declaration ∧
      (v.domain = .unconstrained ∨
        ∃ s ∈ template.slots, s.name = v.name ∧ ∃ nameText declarationText,
          s.Encloses style t (nameText ++ '~' :: declarationText) ∧ '~' ∉ nameText ∧
            declaration = Text.trim declarationText)) ∧
    ∀ out, template.compile true .none = .ok out → ∃ edits : List (Marker × Text),
      edits.map Prod.fst = template.topMarkers ∧
      Text.Rewritten 0 (edits.map fun edit => (edit.1.span, edit.2)) t out ∧
      ∀ edit ∈ edits, ∃ v : Value, edit.2 = v.render ∧ v.NotNaN ∧
        (∀ s, edit.1 = .slot s → (s.name, v) ∈ template.defaults) ∧
        ∀ f, edit.1 = .formula f → v.isNonFinite = false := by
  refine ⟨fun v => exists_infiniteAsWritten read, fun out compiled => ?_⟩
  obtain ⟨resolved, edits, done, markers, become, rewritten⟩ :=
    (reads_of_ofText? read).rewritten_of_compile compiled
  rw [resolve_none] at done
  cases done
  exact ⟨edits, markers, rewritten, fun edit member => becomes_default read (become edit member)⟩

/-- A default that is written too large becomes the text of an infinity beside a formula. -/
theorem infinity_beside_formula :
    ∃ (template : Template) (edits : List (Marker × Text)),
      ofText? .standard "$\x7bx~-2e308\x7d @\x7b1+1\x7d".toList = .ok template ∧
      template.compile true .none = .ok "-inf 2".toList ∧
      (∀ v ∈ template.declared, ∃ declaration, v.domain.InfiniteAsWritten declaration) ∧
      edits.map (fun edit => edit.1.span) = [⟨0, 11⟩, ⟨12, 18⟩] ∧
      Text.Rewritten 0 (edits.map fun edit => (edit.1.span, edit.2))
        "$\x7bx~-2e308\x7d @\x7b1+1\x7d".toList "-inf 2".toList := by
  let line : Line := ⟨[.slot ⟨"x~-2e308".toList, ['x'], .fixed "-2e308".toList⟩, .char ' ',
    .formula [.char '1', .char '+', .char '1']], []⟩
  let template : Template := ⟨.standard, [line], [⟨['x'], .fixed "-2e308".toList, 1⟩], []⟩
  have read : ofText? .standard "$\x7bx~-2e308\x7d @\x7b1+1\x7d".toList = .ok template := by
    decide +kernel
  have spans : template.topMarkers.map Marker.span = [⟨0, 11⟩, ⟨12, 18⟩] := by
    rw [topMarkers_eq]
    decide +kernel
  have infinity : (Value.ofLiteral "-2e308".toList).render = "-inf".toList := by
    decide +kernel
  have sum (v : Value) : Piece.evaluate [(['x'], v)] .none [.char '1', .char '+', .char '1'] =
      .ok (.int 2) := by
    have read : Formula.parse "1+1".toList =
        .ok (.binary .add (.literal (.int 1)) (.literal (.int 1))) := by
      decide +kernel
    change Formula.evaluate "1+1".toList _ = _
    rw [Formula.evaluate, read]
    rfl
  have two : (Value.int 2).render = ['2'] := by
    decide +kernel
  have fills (v : Value) :
      compileLines .standard [(['x'], v)] .none 1 [line] = .ok (v.render ++ " 2".toList) := by
    simp [line, compileLines, compilePieces, Bindings.ofList, Except.map, sum, two]
  have compiled : template.compile true .none = .ok "-inf 2".toList := by
    rw [compile, resolve_none]
    refine (fills (.ofLiteral "-2e308".toList)).trans ?_
    rw [infinity]
    rfl
  obtain ⟨declared, compiles⟩ := infinities_are_written read
  obtain ⟨edits, markers, rewritten, -⟩ := compiles _ compiled
  refine ⟨template, edits, read, compiled, fun v member => ?_, ?_, rewritten⟩
  · obtain ⟨declaration, asWritten, -⟩ := declared v member
    exact ⟨declaration, asWritten⟩
  · rw [← spans, ← markers, List.map_map]
    rfl

/-- A default need not be finite, and a deck may have the text of an infinity that no text of the
deck is. -/
theorem infinite_default :
    ∃ template : Template, ofText? .standard "$\x7bx~1e999\x7d".toList = .ok template ∧
      (∃ v, (['x'], v) ∈ template.defaults ∧ v.isNonFinite = true) ∧
      template.compile true .none = .ok "inf".toList := by
  let line : Line := ⟨[.slot ⟨"x~1e999".toList, ['x'], .fixed "1e999".toList⟩], []⟩
  let template : Template := ⟨.standard, [line], [⟨['x'], .fixed "1e999".toList, 1⟩], []⟩
  have read : ofText? .standard "$\x7bx~1e999\x7d".toList = .ok template := by
    decide +kernel
  have infinity : (Value.ofLiteral "1e999".toList).render = "inf".toList := by
    decide +kernel
  have fills (v : Value) :
      compileLines .standard [(['x'], v)] .none 1 [line] = .ok v.render := by
    simp [line, compileLines, compilePieces, Bindings.ofList, Except.map]
  have compiled : template.compile true .none = .ok "inf".toList := by
    rw [compile, resolve_none, ← infinity]
    exact fills _
  refine ⟨template, read, ⟨_, List.mem_singleton_self _, ?_⟩, compiled⟩
  decide +kernel

end Template

end InputDeck
