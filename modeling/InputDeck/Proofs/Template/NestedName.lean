import InputDeck.Proofs.Template.Holes
import InputDeck.Proofs.Template.Naming

/-!
# A slot in a formula means its name

A bare slot inside a formula can be written as the name of its variable in parentheses, where these
characters stay characters. The deck then reads and compiles as before: the slot declares nothing,
its formula reads just as the other one does, and both have the same value.
-/

namespace InputDeck

/-! ## Errors of one kind -/

/-- The same error, the quoted text of a formula aside; two formulas may be malformed in different
ways. -/
inductive TemplateError.SameKind : TemplateError → TemplateError → Prop
  | same (error : TemplateError) : SameKind error error
  | formula (expression expression' : Text) (line : Nat) (cause : Formula.EvalError) :
      SameKind (.formula expression line cause) (.formula expression' line cause)
  | malformed (expression expression' : Text) (line : Nat) (fault fault' : Formula.Fault) :
      SameKind (.formula expression line (.malformed fault))
        (.formula expression' line (.malformed fault'))

namespace Template

open TemplateError (SameKind)

variable {style : MarkerStyle} {resolved : List (Text × Value)} {bindings : Bindings}
  {hole : Hole} {inner inner' : List Part} {parts parts' : List Part}

/-- A cause is reported alike for every text of a formula. -/
theorem formulaError_sameKind (style : MarkerStyle) (number : Nat) (parts parts' : List Part)
    (cause : Formula.EvalError) :
    SameKind (formulaError style number parts cause) (formulaError style number parts' cause) := by
  cases cause with
  | unbound name => exact .same _
  | malformed fault => exact .formula _ _ _ _
  | arithmetic fault => exact .formula _ _ _ _
  | nonNumeric name content => exact .formula _ _ _ _

/-- With a formula of the same value in the place of another a row of pieces compiles alike. -/
theorem compilePieces_alike
    (same : Piece.evaluate resolved bindings parts = Piece.evaluate resolved bindings parts')
    (number : Nat) (before after : List Piece) :
    Alike SameKind Eq
      (compilePieces style number resolved bindings (before ++ .formula parts :: after))
      (compilePieces style number resolved bindings (before ++ .formula parts' :: after)) := by
  induction before with
  | nil =>
    rw [List.nil_append, List.nil_append, compilePieces_cons, compilePieces_cons, Piece.compiled?,
      Piece.compiled?, same]
    cases Piece.evaluate resolved bindings parts' with
    | error cause => exact .error (formulaError_sameKind _ _ _ _ _)
    | ok v => exact .refl .same (fun _ => rfl) _
  | cons piece rest inductionHypothesis =>
    rw [List.cons_append, List.cons_append, compilePieces_cons, compilePieces_cons]
    cases (piece.compiled? style number resolved bindings).getD (.ok (piece.source style)) with
    | error error => exact .error (.same error)
    | ok new => exact inductionHypothesis.map fun _ _ same => congrArg (new ++ ·) same

/-- With a formula of the same value in the place of another the lines of a deck compile alike. -/
theorem compileLines_alike (same : Piece.evaluate resolved bindings (hole.parts inner) =
      Piece.evaluate resolved bindings (hole.parts inner')) (number : Nat) :
    Alike SameKind Eq (compileLines style resolved bindings number (hole.lines inner))
      (compileLines style resolved bindings number (hole.lines inner')) := by
  rw [Hole.lines, Hole.lines, compileLines_append, compileLines_append]
  cases compileLines style resolved bindings number hole.earlier with
  | error error => exact .error (.same error)
  | ok out =>
    refine Alike.map ?_ fun _ _ same => congrArg (out ++ ·) same
    have onLine : Alike SameKind Eq
        (compilePieces style (number + hole.earlier.length) resolved bindings
          (hole.line inner).pieces)
        (compilePieces style (number + hole.earlier.length) resolved bindings
          (hole.line inner').pieces) := compilePieces_alike same _ _ _
    rw [compileLines, compileLines]
    rcases onLine.cases with ⟨new, _, done, done', rfl⟩ | ⟨error, error', failed, failed', alike⟩
    · rw [done, done']
      exact .refl .same (fun _ => rfl) _
    · rw [failed, failed']
      exact .error alike

/-- With a formula that can be read alike in the place of another a row of pieces is checked
alike. -/
theorem checkPieces_alike
    (same : Piece.ReadAlike parts parts') (number : Nat) (before after : List Piece) :
    Alike SameKind Eq (checkPieces style number (before ++ .formula parts :: after))
      (checkPieces style number (before ++ .formula parts' :: after)) := by
  induction before with
  | nil =>
    rw [List.nil_append, List.nil_append, checkPieces, checkPieces]
    rcases same.cases with ⟨e, e', read, read', -⟩ |
      ⟨_, _, failed, failed', ⟨fault, rfl⟩, ⟨fault', rfl⟩⟩
    · rw [read, read']
      exact .refl .same (fun _ => rfl) _
    · rw [failed, failed']
      exact .error (.malformed _ _ _ _ _)
  | cons piece rest inductionHypothesis =>
    cases piece with
    | char c => exact inductionHypothesis
    | slot s => exact inductionHypothesis
    | formula others =>
      rw [List.cons_append, List.cons_append, checkPieces, checkPieces]
      cases Piece.checked others with
      | error cause => exact .error (.same _)
      | ok e => exact inductionHypothesis

/-- With a formula that can be read alike in the place of another the lines of a deck are checked
alike. -/
theorem checkLines_alike
    (same : Piece.ReadAlike (hole.parts inner) (hole.parts inner')) (number : Nat) :
    Alike SameKind Eq (checkLines style number (hole.lines inner))
      (checkLines style number (hole.lines inner')) := by
  have below : ∀ earlier number,
      Alike SameKind Eq (checkLines style number (earlier ++ hole.line inner :: hole.later))
        (checkLines style number (earlier ++ hole.line inner' :: hole.later)) := by
    intro earlier
    induction earlier with
    | nil =>
      intro number
      have onLine : Alike SameKind Eq (checkPieces style number (hole.line inner).pieces)
          (checkPieces style number (hole.line inner').pieces) := checkPieces_alike same _ _ _
      rw [List.nil_append, List.nil_append, checkLines, checkLines]
      rcases onLine.cases with ⟨_, _, passed, passed', -⟩ |
        ⟨error, error', failed, failed', alike⟩
      · rw [passed, passed']
        exact .refl .same (fun _ => rfl) _
      · rw [failed, failed']
        exact .error alike
    | cons line rest inductionHypothesis =>
      intro number
      rw [List.cons_append, List.cons_append, checkLines, checkLines]
      cases checkPieces style number line.pieces with
      | error error => exact .error (.same error)
      | ok _ => exact inductionHypothesis (number + 1)
  exact below hole.earlier number

/-- A scanned deck whose declarations go together is read if its formulas are. -/
theorem ofText?_of_declared {t : Text} {lines : List Line} {declared : List Variable}
    {notices : List Redeclaration} (scanned : scan style t = .ok lines)
    (done : Variable.declareAll [] (Line.declarations 1 lines) = .ok (declared, notices)) :
    ofText? style t =
      (checkLines style 1 lines).map fun _ => ⟨style, lines, declared, notices⟩ := by
  rw [ofText?, scanned]
  simp only [Line.map_declaration_slots, Variable.collect, done]
  cases checkLines style 1 lines <;> rfl

/-- A scanned deck whose declarations do not go together is not read. -/
theorem ofText?_of_failed {t : Text} {lines : List Line} {error : TemplateError}
    (scanned : scan style t = .ok lines)
    (failed : Variable.declareAll [] (Line.declarations 1 lines) = .error error) :
    ofText? style t = .error error := by
  rw [ofText?, scanned]
  simp only [Line.map_declaration_slots, Variable.collect, failed]

end Template

/-! ## Names -/

/-- No character of a name is white space, a tilde or a newline. -/
theorem Formula.visible_of_continuesName {c : Char} (continues : continuesName c = true) :
    Text.isBlank c = false ∧ c ≠ '~' ∧ c ≠ '\n' := by
  refine ⟨?_, ?_, ?_⟩
  · simp only [continuesName, beginsName, Text.isLetter, Text.isDigit, Bool.or_eq_true,
      Bool.and_eq_true, decide_eq_true_eq, beq_iff_eq, Char.le_def,
      UInt32.le_iff_toNat_le] at continues
    simp only [Text.isBlank, Char.toNat]
    rcases continues with ((capital | small) | rfl) | digit
    · simp at capital ⊢
      omega
    · simp at small ⊢
      omega
    · decide
    · simp at digit ⊢
      omega
  · rintro rfl
    exact absurd continues (by decide)
  · rintro rfl
    exact absurd continues (by decide)

/-- A name has a character, and all its characters go on with a name. -/
theorem Formula.continues_of_spells_name {name : Text} (isName : Spells (.name name) name) :
    name ≠ [] ∧ ∀ c ∈ name, continuesName c = true := by
  generalize same : Token.name name = token at isName
  cases isName with
  | @name c rest begins continues =>
    refine ⟨List.cons_ne_nil _ _, ?_⟩
    intro d member
    rcases List.mem_cons.1 member with rfl | later
    · simp [continuesName, begins]
    · exact continues d later
  | @number numeral t writes =>
    have word := numberToken_eq numeral
    rw [← same] at word
    rcases word with ⟨n, impossible⟩ | ⟨x, impossible⟩ <;> cases impossible
  | _ => cases same

/-- A bare mark of a name declares nothing. -/
theorem Slot.ofBody?_name {name : Text} (style : MarkerStyle)
    (isName : Formula.Spells (.name name) name) :
    Slot.ofBody? style name = .ok ⟨name, name, .unconstrained⟩ := by
  obtain ⟨nonempty, continues⟩ := Formula.continues_of_spells_name isName
  have bare : Text.splitFirst ['~'] name = none := by
    apply Option.eq_none_iff_forall_ne_some.2
    rintro ⟨before, following⟩ found
    have member : '~' ∈ name := by
      rw [Text.splitFirst_append found]
      simp
    exact (Formula.visible_of_continuesName (continues _ member)).2.1 rfl
  have trimmed : Text.trim name = name :=
    Text.trim_eq_self fun c member => (Formula.visible_of_continuesName (continues c member)).1
  simp only [ofBody?, bare, trimmed, nonempty, if_false]

namespace Template

open TemplateError (SameKind)

variable {style : MarkerStyle} {hole : Hole} {s : Slot} {name : Text} {bindings : Bindings}
  {bound v : Value} {resolved : List (Text × Value)}

/-- The slot in a place of a formula is what its text declares. -/
theorem declared_of_scanned (scanned : (hole.line [.slot s]).Scanned style) :
    Slot.ofBody? style s.body = .ok s := by
  have pieces := (Hole.marked_of_scanned scanned).of_append
  cases pieces with
  | formula balanced notBlank inside later =>
    rw [Hole.parts, List.append_assoc] at inside
    cases inside.of_append with
    | slot balanced declared later => exact declared

/-- Where a bound variable is resolved, its name in parentheses in the place of its slot gives a
formula the same value. -/
theorem evaluate_resolved (isName : Formula.IsSum name (.reference name))
    (names : s.name = name) (isBound : bindings name = some bound)
    (numeric : bound.toNumeric? = some v) (finite : v.isNonFinite = false)
    (notLeast : v ≠ .int Int64.minValue) {declared : List Variable}
    (own : name ∈ Variable.names declared) {e : Formula.Expr}
    (readable : Piece.checked (hole.parts [.slot s]) = .ok e) {useDefaults : Bool}
    (done : resolveAll useDefaults bindings declared = .ok resolved) :
    Piece.evaluate resolved bindings (hole.parts [.slot s]) =
      Piece.evaluate resolved bindings (hole.parts (Part.parenthesized name)) := by
  have here := ofList_of_resolveAll isBound done
  rw [if_pos own] at here
  have slotFormula : hole.parts [.slot s] = hole.front ++ .slot s :: hole.back := by
    simp [Hole.parts]
  rw [slotFormula] at readable ⊢
  exact Piece.evaluate_parenthesized isName names here numeric finite notLeast readable

/-- Two templates compile alike and give a formula the same value, where their variables are the
same but for a bound one, and its name stands in parentheses in the place of its slot. -/
theorem compile_parenthesized (isName : Formula.IsSum name (.reference name))
    (names : s.name = name) (isBound : bindings name = some bound)
    (numeric : bound.toNumeric? = some v) (finite : v.isNonFinite = false)
    (notLeast : v ≠ .int Int64.minValue) {declared declared' : List Variable}
    (notices notices' : List Redeclaration) (own : name ∈ Variable.names declared)
    (apart : Variable.others name declared = Variable.others name declared')
    (fewer : ∀ other ∈ Variable.names declared', other ∈ Variable.names declared)
    (mentioned : ∀ other ∈ Line.slotNames (hole.lines (Part.parenthesized name)),
      other ∈ Variable.names declared')
    {e : Formula.Expr} (readable : Piece.checked (hole.parts [.slot s]) = .ok e)
    (useDefaults : Bool) :
    Alike SameKind Eq
        (compile ⟨style, hole.lines [.slot s], declared, notices⟩ useDefaults bindings)
        (compile ⟨style, hole.lines (Part.parenthesized name), declared', notices'⟩ useDefaults
          bindings) ∧
      ∀ resolved resolved',
        resolve ⟨style, hole.lines [.slot s], declared, notices⟩ useDefaults bindings =
          .ok resolved →
        resolve ⟨style, hole.lines (Part.parenthesized name), declared', notices'⟩ useDefaults
          bindings = .ok resolved' →
        Piece.evaluate resolved bindings (hole.parts [.slot s]) =
          Piece.evaluate resolved' bindings (hole.parts (Part.parenthesized name)) := by
  have values : ∀ resolved, resolveAll useDefaults bindings declared = .ok resolved →
      Piece.evaluate resolved bindings (hole.parts [.slot s]) =
        Piece.evaluate resolved bindings (hole.parts (Part.parenthesized name)) := by
    intro resolved done
    exact evaluate_resolved isName names isBound numeric finite notLeast own readable done
  have resolveAlike : Alike Eq (fun resolved resolved' =>
        Bindings.Agree (Variable.names declared') resolved resolved' bindings bindings)
      (resolveAll useDefaults bindings declared) (resolveAll useDefaults bindings declared') :=
    resolveAll_alike isBound apart fewer
  constructor
  · rw [compile, compile, resolve, resolve]
    rcases resolveAlike.cases with ⟨resolved, resolved', done, done', agree⟩ |
      ⟨error, _, failed, failed', rfl⟩
    · rw [done, done']
      have sameValues := compileLines_congr style 1 (agree.mono mentioned)
      simp only
      rw [← sameValues]
      exact compileLines_alike (values resolved done) 1
    · rw [failed, failed']
      exact .error (.same error)
  · intro resolved resolved' done done'
    rw [resolve] at done done'
    simp only at done done'
    rw [done, done'] at resolveAlike
    cases resolveAlike with
    | ok agree =>
      rw [values resolved done]
      exact Piece.evaluate_congr (agree.mono fun other member =>
        mentioned other (hole.mem_slotNames_lines _ member))

/-- Two decks that are scanned alike, but for the name of a bound variable in parentheses in the
place of a bare slot of it, are read alike and compile alike. -/
theorem ofText?_alike {t t' : Text}
    (scanned : scan style t = .ok (hole.lines [.slot ⟨name, name, .unconstrained⟩]))
    (scanned' : scan style t' = .ok (hole.lines (Part.parenthesized name)))
    (isSum : Formula.IsSum name (.reference name)) (isBound : bindings name = some bound)
    (numeric : bound.toNumeric? = some v) (finite : v.isNonFinite = false)
    (notLeast : v ≠ .int Int64.minValue) :
    Alike SameKind (fun template template' => ∀ useDefaults,
        Alike SameKind Eq (template.compile useDefaults bindings)
          (template'.compile useDefaults bindings) ∧
        ∀ resolved resolved', template.resolve useDefaults bindings = .ok resolved →
          template'.resolve useDefaults bindings = .ok resolved' →
          Piece.evaluate resolved bindings
              (hole.parts [.slot ⟨name, name, .unconstrained⟩]) =
            Piece.evaluate resolved' bindings (hole.parts (Part.parenthesized name)))
      (ofText? style t) (ofText? style t') := by
  let bareMark : Declaration := ⟨name, .unconstrained, hole.number⟩
  have withMark : Line.declarations 1 (hole.lines [.slot ⟨name, name, .unconstrained⟩]) =
      hole.declaredAbove ++ bareMark :: hole.declaredBelow := by
    rw [Hole.declarations_lines]
    exact List.append_assoc _ [bareMark] _
  have withName : Line.declarations 1 (hole.lines (Part.parenthesized name)) =
      hole.declaredAbove ++ hole.declaredBelow := by
    rw [Hole.declarations_lines, Part.parenthesized, Part.filterMap_declaration?_char,
      List.append_nil]
  have unconstrained : bareMark.domain.kind = .unconstrained := rfl
  have collected : Alike Eq
      (fun after after' => Variable.SameApart name after.1 after'.1 ∧ after.2 = after'.2)
      (Variable.declareAll [] (hole.declaredAbove ++ bareMark :: hole.declaredBelow))
      (Variable.declareAll [] (hole.declaredAbove ++ hole.declaredBelow)) :=
    Variable.declareAll_bare unconstrained [] _ _
  rw [← withMark, ← withName] at collected
  rcases collected.cases with ⟨⟨declared, notices⟩, ⟨declared', notices'⟩, done, done', apart, -⟩ |
    ⟨error, _, failed, failed', rfl⟩
  · rw [ofText?_of_declared scanned done, ofText?_of_declared scanned' done']
    have formulas : Piece.ReadAlike (hole.parts [.slot ⟨name, name, .unconstrained⟩])
        (hole.parts (Part.parenthesized name)) := by
      rw [Hole.parts, Hole.parts, List.append_assoc]
      exact Piece.readAlike_parenthesized isSum rfl hole.front hole.back
    have checks : Alike SameKind Eq
        (checkLines style 1 (hole.lines [.slot ⟨name, name, .unconstrained⟩]))
        (checkLines style 1 (hole.lines (Part.parenthesized name))) := checkLines_alike formulas 1
    rcases checks.cases with ⟨_, _, passed, passed', -⟩ |
      ⟨error, error', failed, failed', alike⟩
    · have mem_names' := Variable.mem_names_declareAll_iff done'
      rw [withMark] at done
      rw [withName] at done'
      obtain ⟨own, fewer⟩ := Variable.names_of_declareAll done done'
      have mentioned : ∀ other ∈ Line.slotNames (hole.lines (Part.parenthesized name)),
          other ∈ Variable.names declared' := by
        intro other member
        rw [← Line.map_name_declarations style] at member
        exact (mem_names' other).2 (.inr member)
      obtain ⟨e, readable⟩ := checked_of_checkLines passed
        (hole.line [.slot ⟨name, name, .unconstrained⟩]) (by simp [Hole.lines])
        (hole.parts [.slot ⟨name, name, .unconstrained⟩]) (by simp [Hole.line])
      rw [passed, passed']
      apply Alike.ok
      intro useDefaults
      exact compile_parenthesized isSum rfl isBound numeric finite notLeast notices notices' own
        apart.others fewer mentioned readable useDefaults
    · rw [failed, failed']
      exact .error alike
  · rw [ofText?_of_failed scanned failed, ofText?_of_failed scanned' failed']
    exact .error (.same error)

/-- A bare slot inside a formula means the same as its name. Wherever the name in parentheses stands
as characters, and its line is no comment, a deck with these characters in the place of the slot
is read if the deck with the slot is, and it compiles to the same text, or either fails with an
error of the same kind; for the formula has the same value. This holds for all bindings that bind
the name to a number other than the least whole number, and for all other parts of the deck. -/
theorem nested_slot_means_name
    (scanned : scan style (hole.above style ++ s.source style ++ hole.below style) =
      .ok (hole.lines [.slot s]))
    (bare : s.body = name) (isName : Formula.Spells (.name name) name)
    (stands : style.StandsBetween ('(' :: (name ++ [')'])) (Piece.body style hole.front)
      (Piece.body style hole.back))
    (noComment : style.isComment
      (hole.left style ++ '(' :: (name ++ [')']) ++ hole.right style) = false)
    (isBound : bindings name = some bound) (numeric : bound.toNumeric? = some v)
    (finite : v.isNonFinite = false) (notLeast : v ≠ .int Int64.minValue) :
    Alike SameKind (fun template template' => ∀ useDefaults,
        Alike SameKind Eq (template.compile useDefaults bindings)
          (template'.compile useDefaults bindings) ∧
        ∀ resolved resolved', template.resolve useDefaults bindings = .ok resolved →
          template'.resolve useDefaults bindings = .ok resolved' →
          Piece.evaluate resolved bindings (hole.parts [.slot s]) =
            Piece.evaluate resolved' bindings (hole.parts (Part.parenthesized name)))
      (ofText? style (hole.above style ++ s.source style ++ hole.below style))
      (ofText? style (hole.above style ++ '(' :: (name ++ [')']) ++ hole.below style)) := by
  have lineScanned :=
    ((scan_eq_ok_iff _ _ _).1 scanned).2 (hole.line [.slot s]) (by simp [Hole.lines])
  have declared := declared_of_scanned lineScanned
  rw [bare, Slot.ofBody?_name style isName] at declared
  cases declared
  have content := hole.content_line style (Part.parenthesized name)
  rw [Part.parenthesized, Part.body_char] at content
  rw [← content] at noComment
  have visible : Text.isBlank '(' = false := by decide
  have noNewline : '\n' ∉ '(' :: (name ++ [')']) := by
    intro member
    have inside : '\n' ∈ name := by simpa using member
    have continues := (Formula.continues_of_spells_name isName).2 _ inside
    exact (Formula.visible_of_continuesName continues).2.2 rfl
  have lineScanned' :=
    Hole.scanned_line lineScanned List.mem_cons_self visible stands noComment
  have scanned' : scan style (hole.above style ++ '(' :: (name ++ [')']) ++ hole.below style) =
      .ok (hole.lines (Part.parenthesized name)) :=
    Hole.scan_char scanned lineScanned' noNewline
  exact ofText?_alike scanned scanned' (Formula.isSum_of_name isName) isBound numeric finite
    notLeast

/-- A text that reads as a number is bound to a name that is doubled in a formula. -/
theorem doubled_name_for_nested_slot :
    Alike SameKind Eq
        (compileText .standard "@\x7b2*$\x7bx\x7d\x7d $\x7bx\x7d".toList
          (Bindings.ofList [(['x'], .text ['-', '3'])]))
        (compileText .standard "@\x7b2*(x)\x7d $\x7bx\x7d".toList
          (Bindings.ofList [(['x'], .text ['-', '3'])])) ∧
      compileText .standard "@\x7b2*(x)\x7d $\x7bx\x7d".toList
        (Bindings.ofList [(['x'], .text ['-', '3'])]) = .ok "-6 -3".toList := by
  let bindings := Bindings.ofList [(['x'], .text ['-', '3'])]
  let bare : Slot := ⟨['x'], ['x'], .unconstrained⟩
  let hole : Hole := ⟨[], [], [.char '2', .char '*'], [], [.char ' ', .slot bare], [], []⟩
  have scanned : scan .standard "@\x7b2*$\x7bx\x7d\x7d $\x7bx\x7d".toList =
      .ok (hole.lines [.slot bare]) := by decide +kernel
  have isName : Formula.Spells (.name ['x']) ['x'] :=
    @Formula.Spells.name 'x' [] (by decide) (by simp)
  have inert : MarkerStyle.Inert .standard ['(', 'x', ')'] :=
    ⟨List.cons_ne_nil _ _, by simp [MarkerStyle.standard]⟩
  have balanced : MarkerStyle.standard.Balanced "2*(x)".toList := by
    unfold MarkerStyle.Balanced
    decide
  have numeric : (Value.text ['-', '3']).toNumeric? = some (.int (-3)) := by decide +kernel
  have notLeast : Value.int (-3) ≠ .int Int64.minValue := by
    intro same
    exact absurd (Value.int.inj same) (by decide)
  have alike := @nested_slot_means_name .standard hole bare ['x'] bindings (.text ['-', '3'])
    (.int (-3)) scanned rfl isName (inert.standsBetween balanced) rfl rfl numeric rfl notLeast
  refine ⟨?_, by decide +kernel⟩
  unfold compileText
  rcases alike.cases with ⟨template, template', read, read', related⟩ |
    ⟨error, error', failed, failed', kind⟩
  · change ofText? .standard "@\x7b2*$\x7bx\x7d\x7d $\x7bx\x7d".toList = _ at read
    change ofText? .standard "@\x7b2*(x)\x7d $\x7bx\x7d".toList = _ at read'
    rw [read, read']
    exact (related true).1
  · change ofText? .standard "@\x7b2*$\x7bx\x7d\x7d $\x7bx\x7d".toList = _ at failed
    change ofText? .standard "@\x7b2*(x)\x7d $\x7bx\x7d".toList = _ at failed'
    rw [failed, failed']
    exact .error kind

/-- The least whole number, written into a formula, becomes a real number there. -/
theorem compileText_least :
    compileText .standard "@\x7b$\x7bx\x7d\x7d".toList
      (Bindings.ofList [(['x'], .int Int64.minValue)]) = .ok "-9.223372036854776e18".toList := by
  let bindings := Bindings.ofList [(['x'], .int Int64.minValue)]
  let bare : Slot := ⟨['x'], ['x'], .unconstrained⟩
  let deck : Template :=
    ⟨.standard, [⟨[.formula [.slot bare]], []⟩], [⟨['x'], .unconstrained, 1⟩], []⟩
  let digits : Text := '(' :: ((Value.int Int64.minValue).render ++ [')'])
  let large : Value := .real (Decimal.toFloat ⟨9223372036854775808, 0⟩)
  have read : ofText? .standard "@\x7b$\x7bx\x7d\x7d".toList = .ok deck := by decide +kernel
  have values : resolveAll true bindings [⟨['x'], .unconstrained, 1⟩] =
      .ok [(['x'], .int Int64.minValue)] := rfl
  have filled : Piece.fill (fun name => Piece.fillNumber name
      ((Bindings.ofList [(['x'], .int Int64.minValue)] name).getD default)) [.slot bare] =
        .ok digits := rfl
  have trimmed : Text.trim digits = digits := by decide
  have finite : large.isNonFinite = false := by decide +kernel
  have opposite : large.neg.isNonFinite = false := by decide +kernel
  have written : large.neg.render = "-9.223372036854776e18".toList := by decide +kernel
  have evaluated : Piece.evaluate [(['x'], .int Int64.minValue)] bindings [.slot bare] =
      .ok large.neg := by
    rw [Piece.evaluate, filled]
    simp only [Formula.evaluate, trimmed]
    rw [Formula.parse_parenthesized Formula.isSum_render_least]
    exact Formula.eval_neg_literal finite opposite _
  rw [compileText, read]
  change compile deck true bindings = _
  simp only [compile, resolve, deck, values, compileLines, compilePieces, evaluated, written]
  rfl

/-- A name in parentheses does not stand for its slot where these characters belong to a marker,
close one or begin a comment, nor does it for the least whole number. -/
theorem parenthesized_name_unlike_slot :
    (∃ style, MarkerStyle.ofChars? '$' '@' '(' ')' '#' = .ok style ∧
      compileText style "@(2*$$(x))".toList (Bindings.ofList [(['x'], .int 3)]) =
        .error (.formula "2*$$(x)".toList 1 (.malformed (.unexpectedCharacter '$'))) ∧
      compileText style "@(2*$(x))".toList (Bindings.ofList [(['x'], .int 3)]) = .ok ['6']) ∧
    (∃ style, MarkerStyle.ofChars? '(' '@' 'a' 'b' '#' = .ok style ∧
      compileText style "@a2*(aabbb".toList (Bindings.ofList [(['a', 'b'], .int 3)]) = .ok ['6'] ∧
      compileText style "@a2*(ab)b".toList (Bindings.ofList [(['a', 'b'], .int 3)]) =
        .error (.malformedMarker 1 5 .emptyName)) ∧
    (∃ style, MarkerStyle.ofChars? '$' '@' '(' ']' '#' = .ok style ∧
      compileText style "@(2*$(x]]".toList (Bindings.ofList [(['x'], .int 3)]) = .ok ['6'] ∧
      compileText style "@(2*(x)]".toList (Bindings.ofList [(['x'], .int 3)]) =
        .error (.malformedMarker 1 1 (.unterminated ']'))) ∧
    (∃ style, MarkerStyle.ofChars? '$' ' ' '\t' ']' '(' = .ok style ∧
      compileText style " \t$\tx]]".toList (Bindings.ofList [(['x'], .int 3)]) = .ok ['3'] ∧
      compileText style " \t(x)]".toList (Bindings.ofList [(['x'], .int 3)]) =
        .ok " \t(x)]".toList) ∧
    compileText .standard "@\x7b$\x7bx\x7d\x7d".toList
        (Bindings.ofList [(['x'], .int Int64.minValue)]) = .ok "-9.223372036854776e18".toList ∧
      compileText .standard "@\x7b(x)\x7d".toList
        (Bindings.ofList [(['x'], .int Int64.minValue)]) = .ok "-9223372036854775808".toList := by
  refine ⟨⟨⟨'$', '@', '(', ')', '#', by decide, by decide, by decide, by decide⟩, rfl, ?_, ?_⟩,
    ⟨⟨'(', '@', 'a', 'b', '#', by decide, by decide, by decide, by decide⟩, rfl, ?_, ?_⟩,
    ⟨⟨'$', '@', '(', ']', '#', by decide, by decide, by decide, by decide⟩, rfl, ?_, ?_⟩,
    ⟨⟨'$', ' ', '\t', ']', '(', by decide, by decide, by decide, by decide⟩, rfl, ?_, ?_⟩,
    compileText_least, ?_⟩
  all_goals decide +kernel

end Template

end InputDeck
