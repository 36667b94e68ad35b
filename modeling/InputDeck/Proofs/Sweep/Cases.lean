import Mathlib.Algebra.BigOperators.Ring.List
import Mathlib.Algebra.Ring.Nat
import Mathlib.Data.List.Forall2
import InputDeck.Sweep

/-!
# Cases of a sweep

A choice takes one position in the list of each variable, and a case holds the values at these
positions. The number of a case, divided by the number of choices for the later variables, leaves
the position for the first one, so cases are numbered in the order of their choices, the first
variable counting most. There are as many choices as the product of the lengths says.
-/

namespace InputDeck

/-- How many choices there are. -/
def choiceCount (axes : List (Text × List Value)) : ℕ := (axes.map (·.2.length)).prod

/-- The case of a choice: every variable in its place, with the value at the chosen position. -/
inductive Chooses : List (Text × List Value) → List ℕ → Case → Prop
  | nil : Chooses [] [] []
  | cons {name : Text} {values : List Value} {position : ℕ} {value : Value}
      (chosen : values[position]? = some value) {axes : List (Text × List Value)} {choice : List ℕ}
      {later : Case} (rest : Chooses axes choice later) :
      Chooses ((name, values) :: axes) (position :: choice) ((name, value) :: later)

/-- Every choice of one position in each list, once and in lexicographic order. -/
structure ListsChoices (axes : List (Text × List Value)) (choices : List (List ℕ)) : Prop where
  complete : ∀ choice, choice ∈ choices ↔
    List.Forall₂ (fun position axis => position < axis.2.length) choice axes
  ordered : choices.Pairwise (List.Lex (· < ·))

/-- For each value of the first variable there are as many choices as for the others. -/
theorem choiceCount_cons (axis : Text × List Value) (rest : List (Text × List Value)) :
    choiceCount (axis :: rest) = axis.2.length * choiceCount rest := rfl

/-- There is no choice exactly if a list is empty. -/
theorem choiceCount_eq_zero_iff (axes : List (Text × List Value)) :
    choiceCount axes = 0 ↔ ∃ axis ∈ axes, axis.2 = [] := by
  simp [choiceCount, List.prod_eq_zero_iff]

/-! ## Choices in order -/

/-- The choices in their order: for each position in the first list the choices for the others. -/
def allChoices : List (Text × List Value) → List (List ℕ)
  | [] => [[]]
  | (_, values) :: rest =>
    (List.range values.length).flatMap fun position => (allChoices rest).map (position :: ·)

/-- Every choice is listed. -/
theorem mem_allChoices_iff (axes : List (Text × List Value)) (choice : List ℕ) :
    choice ∈ allChoices axes ↔
      List.Forall₂ (fun position axis => position < axis.2.length) choice axes := by
  induction axes generalizing choice with
  | nil => simp [allChoices]
  | cons axis rest inductionHypothesis =>
    obtain ⟨name, values⟩ := axis
    simp only [allChoices, List.mem_flatMap, List.mem_range, List.mem_map, inductionHypothesis,
      List.forall₂_cons_right_iff]
    constructor
    · rintro ⟨position, inList, later, chosen, rfl⟩
      exact ⟨position, later, inList, chosen, rfl⟩
    · rintro ⟨position, later, inList, chosen, rfl⟩
      exact ⟨position, inList, later, chosen, rfl⟩

/-- The choices are listed in lexicographic order. -/
theorem pairwise_allChoices (axes : List (Text × List Value)) :
    (allChoices axes).Pairwise (List.Lex (· < ·)) := by
  induction axes with
  | nil => exact List.pairwise_singleton _ _
  | cons axis rest inductionHypothesis =>
    rw [allChoices, List.pairwise_flatMap]
    constructor
    · intro position _
      exact List.pairwise_map.2 (inductionHypothesis.imp List.Lex.cons)
    · refine List.pairwise_lt_range.imp fun {former latter} less => ?_
      intro first firstMember second secondMember
      obtain ⟨_, _, rfl⟩ := List.mem_map.1 firstMember
      obtain ⟨_, _, rfl⟩ := List.mem_map.1 secondMember
      exact .rel less

/-- The list of all choices is one. -/
theorem listsChoices_allChoices (axes : List (Text × List Value)) :
    ListsChoices axes (allChoices axes) :=
  ⟨mem_allChoices_iff axes, pairwise_allChoices axes⟩

/-! ## Cases in order -/

/-- The cases of all numbers, as many as there are choices. -/
def allCases (axes : List (Text × List Value)) : List Case :=
  (List.range (choiceCount axes)).map fun number => (Case.ofNumber number axes).1

/-- A case holds all variables in their order. -/
theorem keys_ofNumber (number : ℕ) (axes : List (Text × List Value)) :
    (Case.ofNumber number axes).1.map (·.1) = axes.map (·.1) := by
  induction axes with
  | nil => rfl
  | cons axis rest inductionHypothesis =>
    simp only [Case.ofNumber, List.map_cons, inductionHypothesis]

/-- The number of a case is taken apart: what is below the number of choices tells the case, and the
rest of it is left over. -/
theorem ofNumber_mul_add (axes : List (Text × List Value)) (left : ℕ) {number : ℕ}
    (small : number < choiceCount axes) :
    Case.ofNumber (left * choiceCount axes + number) axes =
      ((Case.ofNumber number axes).1, left) := by
  induction axes generalizing left number with
  | nil =>
    have zero : number = 0 := Nat.lt_one_iff.1 small
    simp [Case.ofNumber, choiceCount, zero]
  | cons axis rest inductionHypothesis =>
    obtain ⟨name, values⟩ := axis
    rw [choiceCount_cons] at small ⊢
    have some : 0 < choiceCount rest := Nat.pos_of_mul_pos_left (Nat.zero_lt_of_lt small)
    have digit : number / choiceCount rest < values.length :=
      (Nat.div_lt_iff_lt_mul some).2 small
    have lower : number % choiceCount rest < choiceCount rest := Nat.mod_lt _ some
    have parts :
        number / choiceCount rest * choiceCount rest + number % choiceCount rest = number :=
      Nat.div_add_mod' _ _
    have whole : left * (values.length * choiceCount rest) + number =
        (left * values.length + number / choiceCount rest) * choiceCount rest +
          number % choiceCount rest := by
      rw [Nat.add_mul, Nat.add_assoc, parts, Nat.mul_assoc]
    have alone := inductionHypothesis (number / choiceCount rest) lower
    rw [parts] at alone
    have position : (left * values.length + number / choiceCount rest) % values.length =
        number / choiceCount rest := by
      rw [Nat.mul_add_mod', Nat.mod_eq_of_lt digit]
    have quotient : (left * values.length + number / choiceCount rest) / values.length = left := by
      rw [Nat.mul_comm, Nat.mul_add_div (Nat.zero_lt_of_lt digit), Nat.div_eq_of_lt digit,
        Nat.add_zero]
    simp only [whole, Case.ofNumber, inductionHypothesis _ lower, alone, position, quotient,
      Nat.mod_eq_of_lt digit]

/-- The numbers below a product in runs of one factor. -/
theorem range_mul (runs length : ℕ) :
    List.range (runs * length) =
      (List.range runs).flatMap fun run => (List.range length).map (run * length + ·) := by
  induction runs with
  | zero => simp
  | succ runs inductionHypothesis =>
    rw [Nat.succ_mul, List.range_add, inductionHypothesis, List.range_succ, List.flatMap_append,
      List.flatMap_singleton]

/-- The cases for each value of the first variable are the cases of the others. -/
theorem allCases_cons (name : Text) (values : List Value) (rest : List (Text × List Value)) :
    allCases ((name, values) :: rest) =
      (List.range values.length).flatMap fun position =>
        (allCases rest).map ((name, values[position]?.getD default) :: ·) := by
  rw [allCases, choiceCount_cons, range_mul, List.map_flatMap]
  refine List.flatMap_congr fun position inList => ?_
  rw [allCases, List.map_map, List.map_map]
  refine List.map_congr_left fun number small => ?_
  rw [List.mem_range] at inList small
  simp only [Function.comp_apply, Case.ofNumber, ofNumber_mul_add rest position small,
    Nat.mod_eq_of_lt inList]

/-- The cases are those of the choices in their order. -/
theorem chooses_allCases (axes : List (Text × List Value)) :
    List.Forall₂ (Chooses axes) (allChoices axes) (allCases axes) := by
  induction axes with
  | nil => exact .cons .nil .nil
  | cons axis rest inductionHypothesis =>
    obtain ⟨name, values⟩ := axis
    rw [allCases_cons, allChoices]
    have positions : List.Forall₂ (fun former latter => former = latter ∧ former < values.length)
        (List.range values.length) (List.range values.length) :=
      List.forall₂_same.2 fun position inList => ⟨rfl, List.mem_range.1 inList⟩
    refine List.rel_flatMap positions ?_
    rintro position _ ⟨rfl, inList⟩
    rw [List.forall₂_map_left_iff, List.forall₂_map_right_iff]
    refine inductionHypothesis.imp fun choice made chooses => .cons ?_ chooses
    simp [inList]

/-- There are as many cases as choices. -/
theorem length_allCases (axes : List (Text × List Value)) :
    (allCases axes).length = choiceCount axes := by
  simp [allCases]

/-- The first cases are those of the first numbers. -/
theorem take_allCases {count : ℕ} {axes : List (Text × List Value)}
    (atMost : count ≤ choiceCount axes) :
    (allCases axes).take count =
      (List.range count).map fun number => (Case.ofNumber number axes).1 := by
  rw [allCases, ← List.map_take, List.take_range, Nat.min_eq_left atMost]

end InputDeck
