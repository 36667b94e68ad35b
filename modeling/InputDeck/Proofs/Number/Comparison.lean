import InputDeck.Value.Basic

/-!
# The order of numbers

Two numbers compare unless one of them is NaN, and change places in the opposite way. So a number
that is not NaN equals itself, and one that is not greater than another is at most the other. This
includes the zeros, which are equal, and the infinities.
-/

namespace InputDeck

open Float.Model Float.Model.UnpackedFloat

/-- In the other order two numbers compare in the opposite way. -/
theorem compare_swap (a b : UnpackedFloat) :
    b.compare a = (a.compare b).map Ordering.swap := by
  have signs (s s' : Sign) : compare s' s = (compare s s').swap := by
    cases s <;> cases s' <;> rfl
  cases a with
  | notANumber => cases b <;> rfl
  | infinity sign => cases b with
    | infinity sign' => exact congrArg some (signs sign sign')
    | notANumber => rfl
    | zero => cases sign <;> rfl
    | finite => cases sign <;> rfl
  | zero sign => cases b with
    | infinity sign' => cases sign' <;> rfl
    | notANumber => rfl
    | zero => rfl
    | finite sign' => cases sign' <;> rfl
  | finite sign m e => cases b with
    | infinity sign' => cases sign <;> cases sign' <;> rfl
    | notANumber => cases sign <;> rfl
    | zero => cases sign <;> rfl
    | finite sign' n f =>
      have sizes : (compare f e).then (compare n m) = ((compare e f).then (compare m n)).swap := by
        rw [Ordering.swap_then, Int.compare_swap, Nat.compare_swap]
      cases sign with
      | positive => cases sign' with
        | positive => exact congrArg some sizes
        | negative => rfl
      | negative => cases sign' with
        | positive => rfl
        | negative => exact congrArg (fun ordering => some ordering.swap) sizes

/-- Unless one of them is NaN, two numbers compare. -/
theorem exists_compare {a b : UnpackedFloat} (left : a.isNaN = false) (right : b.isNaN = false) :
    ∃ ordering, a.compare b = some ordering := by
  cases a with
  | notANumber => cases left
  | infinity sign => cases b with
    | infinity => exact ⟨_, rfl⟩
    | notANumber => cases right
    | zero => cases sign <;> exact ⟨_, rfl⟩
    | finite => cases sign <;> exact ⟨_, rfl⟩
  | zero => cases b with
    | infinity sign => cases sign <;> exact ⟨_, rfl⟩
    | notANumber => cases right
    | zero => exact ⟨_, rfl⟩
    | finite sign => cases sign <;> exact ⟨_, rfl⟩
  | finite sign => cases b with
    | infinity sign' => cases sign <;> cases sign' <;> exact ⟨_, rfl⟩
    | notANumber => cases right
    | zero => cases sign <;> exact ⟨_, rfl⟩
    | finite sign' => cases sign <;> cases sign' <;> exact ⟨_, rfl⟩

/-- Unless it is NaN, a number equals itself. -/
theorem compare_self {a : UnpackedFloat} (number : a.isNaN = false) :
    a.compare a = some .eq := by
  obtain ⟨ordering, compares⟩ := exists_compare number number
  have swapped := compare_swap a a
  rw [compares] at swapped ⊢
  cases ordering
  · cases swapped
  · rfl
  · cases swapped

/-- A number is at most another if they compare so. -/
theorem float_le_iff (x y : Float) : x ≤ y ↔ x.toModel.unpack.le y.toModel.unpack = true :=
  decide_eq_true_iff

/-- A number is less than another if they compare so. -/
theorem float_lt_iff (x y : Float) : x < y ↔ x.toModel.unpack.lt y.toModel.unpack = true :=
  decide_eq_true_iff

/-- Unless it is NaN, a number is at most itself. -/
theorem float_le_refl {x : Float} (number : x.isNaN = false) : x ≤ x := by
  rw [float_le_iff, UnpackedFloat.le, compare_self number]
  rfl

/-- Unless it is NaN, a number equals itself. -/
theorem float_beq_self {x : Float} (number : x.isNaN = false) : (x == x) = true := by
  change (x.toModel.unpack.compare x.toModel.unpack == some .eq) = true
  rw [compare_self number]
  rfl

/-- Of two numbers that are not NaN, one that is not greater is at most the other. -/
theorem float_le_of_not_lt {x y : Float} (left : x.isNaN = false) (right : y.isNaN = false)
    (notGreater : ¬y < x) : x ≤ y := by
  obtain ⟨ordering, compares⟩ := exists_compare left right
  rw [float_le_iff, UnpackedFloat.le, compares]
  cases ordering with
  | lt => rfl
  | eq => rfl
  | gt =>
    refine absurd ?_ notGreater
    rw [float_lt_iff, UnpackedFloat.lt, compare_swap, compares]
    rfl

end InputDeck
