import InputDeck.Number.Word
import InputDeck.Proofs.Number.Notation

/-!
# Written integers

An integer is written in digits, at least one, and may have a sign in front. It is read as the word
with its value, if there is one; zeros in front of the other digits do not count.
-/

namespace InputDeck

open Numeral

/-- The ways of writing an integer. -/
inductive WritesInteger (n : Int64) : Text → Prop
  | written {sign digits : Text} (isSign : sign = [] ∨ sign = ['+'] ∨ sign = ['-'])
      (nonempty : digits ≠ []) (allDigits : Digits digits)
      (value : n.toInt = if sign = ['-'] then -(digitsValue digits : Int) else digitsValue digits) :
      WritesInteger n (sign ++ digits)

/-- A text is read as a word exactly when it writes this integer. -/
theorem readWord?_eq_some_iff (t : Text) (n : Int64) :
    readWord? t = some n ↔ WritesInteger n t := by
  constructor
  · intro read
    obtain ⟨sign, signSplit, isSign, negative⟩ := scanSign_split t
    obtain ⟨digits, digitSplit⟩ := spanDigits_split (scanSign t).2
    simp only [readWord?] at read
    split at read
    · cases read
    · rename_i admitted
      obtain ⟨nonempty, exhausted⟩ := not_or.1 admitted
      rw [Decidable.not_not.1 exhausted, List.append_nil] at digitSplit
      rw [signSplit, digitSplit]
      refine .written isSign nonempty digits ?_
      rw [(wordOfInt?_eq_some_iff _ _).1 read]
      simp only [negative]
  · rintro ⟨isSign, nonempty, allDigits, value⟩
    rename_i sign digits
    simp only [readWord?, scanSign_append_digits isSign allDigits, spanDigits_of_digits allDigits,
      nonempty, ne_eq, not_true, or_self, ite_false, decide_eq_true_eq]
    exact (wordOfInt?_eq_some_iff _ _).2 value

/-- A word is written as this integer. -/
theorem writesInteger_renderInt (n : Int64) : WritesInteger n (renderInt n.toInt) := by
  rw [renderInt_eq]
  refine .written ?_ (renderNat_ne_nil _) (digits_renderNat _) ?_
  · by_cases negative : n.toInt < 0
    · simp [negative]
    · simp [negative]
  · rw [digitsValue_renderNat]
    by_cases negative : n.toInt < 0
    · rw [if_pos negative, if_pos rfl]
      omega
    · rw [if_neg negative, if_neg (by simp)]
      omega

end InputDeck
