import InputDeck.Text.Basic

/-!
# Searching text

The first occurrence of a mark splits a text in two; every other search is built on that split.
The fields of a text are what lies between the occurrences of a delimiter, taken from the left
and without overlap. The empty mark occurs at the very beginning of any text.
-/

namespace InputDeck.Text

/-- What follows the mark, when the text begins with it. -/
def after? (mark : Text) : Text → Option Text
  | t =>
    match mark, t with
    | [], t => some t
    | _ :: _, [] => none
    | m :: mark, c :: rest => if m = c then after? mark rest else none

/-- A text begins with a mark exactly when it is the mark followed by what is left. -/
theorem after?_eq_some_iff (mark t rest : Text) : after? mark t = some rest ↔ t = mark ++ rest := by
  induction mark generalizing t with
  | nil => simp [after?]
  | cons m mark inductionHypothesis =>
    cases t with
    | nil => simp [after?]
    | cons c t =>
      by_cases same : m = c
      · simp [after?, same, inductionHypothesis]
      · simp [after?, same, Ne.symm same]

/-- The text before and the text after the first occurrence of the mark. -/
def splitFirst (mark : Text) : Text → Option (Text × Text)
  | [] => if mark = [] then some ([], []) else none
  | c :: rest =>
    match after? mark (c :: rest) with
    | some following => some ([], following)
    | none => (splitFirst mark rest).map fun (before, following) => (c :: before, following)

/-- A split at a mark is a way of writing the text. -/
theorem splitFirst_append {mark t before following : Text}
    (found : splitFirst mark t = some (before, following)) : t = before ++ mark ++ following := by
  induction t generalizing before with
  | nil =>
    unfold splitFirst at found
    split at found
    · rename_i empty
      simp_all
    · simp at found
  | cons c rest inductionHypothesis =>
    unfold splitFirst at found
    split at found
    · rename_i tail begins
      simp only [Option.some.injEq, Prod.mk.injEq] at found
      obtain ⟨rfl, rfl⟩ := found
      simpa using (after?_eq_some_iff mark (c :: rest) tail).1 begins
    · simp only [Option.map_eq_some_iff, Prod.mk.injEq] at found
      obtain ⟨⟨earlier, later⟩, inside, rfl, rfl⟩ := found
      simpa using inductionHypothesis inside

/-- Splitting at a mark that is not empty leaves less text behind it. -/
theorem length_after_splitFirst {mark t before following : Text} (nonempty : mark ≠ [])
    (found : splitFirst mark t = some (before, following)) : following.length < t.length := by
  have written := splitFirst_append found
  have positive : 0 < mark.length := List.length_pos_iff.2 nonempty
  rw [written]
  simp only [List.length_append]
  omega

/-- Whether the mark occurs in the text. -/
def contains (mark t : Text) : Bool := (splitFirst mark t).isSome

/-- What lies between the occurrences of the delimiter. An empty delimiter occurs around every
character. -/
def fields (delimiter t : Text) : List Text :=
  if nonempty : delimiter = [] then [] :: (t.map fun c => [c]) ++ [[]]
  else
    match found : splitFirst delimiter t with
    | none => [t]
    | some (before, following) =>
      have _shorter := length_after_splitFirst nonempty found
      before :: fields delimiter following
termination_by t.length

/-- The text with every occurrence of one mark written as another, from the left and without
overlap. An empty mark is replaced around every character. -/
def replaceAll (old new t : Text) : Text :=
  if nonempty : old = [] then new ++ t.flatMap fun c => c :: new
  else
    match found : splitFirst old t with
    | none => t
    | some (before, following) =>
      have _shorter := length_after_splitFirst nonempty found
      before ++ new ++ replaceAll old new following
termination_by t.length

/-- What lies between the occurrences of a character. -/
def splitOnChar (separator : Char) : Text → List Text
  | [] => [[]]
  | c :: rest =>
    if c = separator then [] :: splitOnChar separator rest
    else
      match splitOnChar separator rest with
      | [] => [[c]]
      | field :: others => (c :: field) :: others

end InputDeck.Text
