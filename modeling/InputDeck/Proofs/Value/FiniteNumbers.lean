import InputDeck.Value.Arithmetic

/-!
# Finite numbers among the values

Text becomes a number when it is looked up as one, or it does not become an operand. No operation
makes text of numbers. So what is calculated from finite numbers and is neither an infinity nor NaN
is a finite number again.
-/

namespace InputDeck.Value

/-- A whole number, or a real number that is neither an infinity nor NaN. -/
inductive FiniteNumber : Value → Prop
  | int (n : Int64) : FiniteNumber (.int n)
  | real {x : Float} (finite : x.isFinite = true) : FiniteNumber (.real x)

/-- The value is a number of either kind. -/
def NotText (v : Value) : Prop := ∀ t, v ≠ .text t

/-- A whole number is no text. -/
theorem notText_int (n : Int64) : (int n).NotText := fun _ => Value.noConfusion

/-- A real number is no text. -/
theorem notText_real (x : Float) : (real x).NotText := fun _ => Value.noConfusion

/-- A finite number is what is neither text nor an infinity nor NaN. -/
theorem finiteNumber_iff (v : Value) :
    v.FiniteNumber ↔ v.NotText ∧ v.isNonFinite = false := by
  constructor
  · rintro (n | finite)
    · exact ⟨notText_int n, rfl⟩
    · exact ⟨notText_real _, by simp [isNonFinite, finite]⟩
  · rintro ⟨notText, finite⟩
    cases v with
    | int n => exact .int n
    | real x => exact .real (by simpa [isNonFinite] using finite)
    | text t => exact absurd rfl (notText t)

/-- What stands in for a number is no text. -/
theorem ne_text_of_toNumeric? {v number : Value} (numeric : v.toNumeric? = some number)
    (t : Text) : number ≠ .text t := by
  rintro rfl
  unfold toNumeric? at numeric
  split at numeric
  · split at numeric
    · cases numeric
    · rename_i notText
      exact notText t (Option.some.inj numeric)
  · rename_i notText
    exact notText t (Option.some.inj numeric)

/-- A calculation does not give text. -/
theorem notText_calculate (exact : Int64 → Int64 → Option Int64)
    (rounded : Float → Float → Float) (left right : Value) :
    (calculate exact rounded left right).NotText := by
  unfold calculate
  split
  · split
    · exact notText_int _
    · exact notText_real _
  · exact notText_real _

/-- An opposite is no text. -/
theorem notText_neg (v : Value) : v.neg.NotText := by
  unfold neg
  split
  · split
    · exact notText_int _
    · exact notText_real _
  · exact notText_real _

end InputDeck.Value
