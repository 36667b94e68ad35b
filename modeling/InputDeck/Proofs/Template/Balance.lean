import InputDeck.Template.Piece

/-!
# Balanced text

The content of a marker is balanced: read from the left, it never closes a pair that it has not
opened, and in the end every pair is closed. The search for the closing delimiter stops behind
the longest such content and nowhere else, so what follows a marker has no influence on where it
ends.
-/

namespace InputDeck

/-- Whether the text, read with `depth` pairs open, closes just these pairs and those it opens. -/
def balancedFrom (openDelimiter closeDelimiter : Char) : Nat → Text → Bool
  | depth, [] => depth == 0
  | depth, c :: rest =>
    if c = openDelimiter then balancedFrom openDelimiter closeDelimiter (depth + 1) rest
    else if c = closeDelimiter then
      match depth with
      | 0 => false
      | depth + 1 => balancedFrom openDelimiter closeDelimiter depth rest
    else balancedFrom openDelimiter closeDelimiter depth rest

/-- The search finds a closing delimiter exactly behind a balanced text. -/
theorem findClose_eq_some_iff {openDelimiter closeDelimiter : Char}
    (differ : openDelimiter ≠ closeDelimiter) (depth : Nat) (t body following : Text) :
    findClose openDelimiter closeDelimiter depth t = some (body, following) ↔
      t = body ++ closeDelimiter :: following ∧
        balancedFrom openDelimiter closeDelimiter depth body = true := by
  constructor
  · intro found
    refine ⟨findClose_append found, ?_⟩
    induction t generalizing depth body with
    | nil => simp [findClose] at found
    | cons c rest inductionHypothesis =>
      unfold findClose at found
      split at found
      case isTrue opens =>
        simp only [Option.map_eq_some_iff, Prod.mk.injEq] at found
        obtain ⟨⟨inner, outer⟩, deeper, rfl, rfl⟩ := found
        simpa [balancedFrom, opens] using inductionHypothesis _ _ deeper
      case isFalse notOpen =>
        split at found
        case isTrue closes =>
          cases depth with
          | zero =>
            simp only [Option.some.injEq, Prod.mk.injEq] at found
            simp [← found.1, balancedFrom]
          | succ depth =>
            simp only [Option.map_eq_some_iff, Prod.mk.injEq] at found
            obtain ⟨⟨inner, outer⟩, shallower, rfl, rfl⟩ := found
            simpa [balancedFrom, closes, Ne.symm differ] using
              inductionHypothesis _ _ shallower
        case isFalse notClose =>
          simp only [Option.map_eq_some_iff, Prod.mk.injEq] at found
          obtain ⟨⟨inner, outer⟩, level, rfl, rfl⟩ := found
          simpa [balancedFrom, notOpen, notClose] using inductionHypothesis _ _ level
  · rintro ⟨rfl, balanced⟩
    induction body generalizing depth with
    | nil =>
      have closed : depth = 0 := by simpa [balancedFrom] using balanced
      simp [findClose, closed, Ne.symm differ]
    | cons c rest inductionHypothesis =>
      unfold balancedFrom at balanced
      split at balanced
      case isTrue opens =>
        simp [findClose, opens, inductionHypothesis _ balanced]
      case isFalse notOpen =>
        split at balanced
        case isTrue closes =>
          cases depth with
          | zero => simp at balanced
          | succ depth =>
            simp [findClose, closes, Ne.symm differ, inductionHypothesis _ balanced]
        case isFalse notClose =>
          simp [findClose, notOpen, notClose, inductionHypothesis _ balanced]

namespace MarkerStyle

/-- Whether a text can stand between the delimiters of a marker. -/
def Balanced (style : MarkerStyle) (body : Text) : Prop :=
  balancedFrom style.openDelimiter style.closeDelimiter 0 body = true

/-- A marker closes exactly behind a balanced content. -/
theorem close?_eq_ok_iff (style : MarkerStyle) (inner body following : Text) :
    style.close? inner = .ok (body, following) ↔
      inner = body ++ style.closeDelimiter :: following ∧ style.Balanced body := by
  rw [Balanced, ← findClose_eq_some_iff style.delimiters_differ, close?]
  cases findClose style.openDelimiter style.closeDelimiter 0 inner <;> simp

/-- The kinds of marker are told apart by their prefixes. -/
theorem opening?_eq_some_iff (style : MarkerStyle) (c : Char) (rest inner : Text)
    (kind : MarkerKind) :
    style.opening? c rest = some (kind, inner) ↔
      rest = style.openDelimiter :: inner ∧
        (c = style.variableMark ∧ kind = .slot ∨ c = style.formulaMark ∧ kind = .formula) := by
  cases rest with
  | nil => simp [opening?]
  | cons next tail =>
    by_cases opens : next = style.openDelimiter
    · by_cases variableMark : c = style.variableMark
      · simp [opening?, opens, variableMark, style.marks_differ, eq_comm, and_comm]
      · by_cases formulaMark : c = style.formulaMark
        · simp [opening?, opens, formulaMark, Ne.symm style.marks_differ, eq_comm,
            and_comm]
        · simp [opening?, opens, variableMark, formulaMark]
    · simp [opening?, opens]

/-- The prefix of variables before the opening delimiter begins a slot. -/
@[simp]
theorem opening?_variableMark (style : MarkerStyle) (inner : Text) :
    style.opening? style.variableMark (style.openDelimiter :: inner) = some (.slot, inner) := by
  simp [opening?_eq_some_iff]

/-- The prefix of formulas before the opening delimiter begins a formula. -/
@[simp]
theorem opening?_formulaMark (style : MarkerStyle) (inner : Text) :
    style.opening? style.formulaMark (style.openDelimiter :: inner) = some (.formula, inner) := by
  simp [opening?_eq_some_iff]

/-- No marker begins at a character unless it is a prefix before the opening delimiter. -/
theorem opening?_eq_none_iff (style : MarkerStyle) (c : Char) (rest : Text) :
    style.opening? c rest = none ↔
      ∀ inner, rest = style.openDelimiter :: inner →
        c ≠ style.variableMark ∧ c ≠ style.formulaMark := by
  cases rest with
  | nil => simp [opening?]
  | cons next tail =>
    by_cases opens : next = style.openDelimiter
    · by_cases variableMark : c = style.variableMark
      · simp [opening?, opens, variableMark]
      · by_cases formulaMark : c = style.formulaMark
        · simp [opening?, opens, formulaMark, Ne.symm style.marks_differ]
        · simp [opening?, opens, variableMark, formulaMark]
    · simp [opening?, opens]

end MarkerStyle

end InputDeck
