import InputDeck.Text.Basic

/-!
# Letters, digits and white space

The classes of characters that a pipeline's text is read by are told apart by their codes. A capital
and its small letter are letters both, the underscore is neither of any letter, and white space is
no letter, no digit and no underscore.
-/

namespace InputDeck.Text

/-- Between two characters stand those with codes between theirs. -/
theorem between_iff (low high c : Char) :
    low ≤ c ∧ c ≤ high ↔ low.toNat ≤ c.toNat ∧ c.toNat ≤ high.toNat := Iff.rfl

/-- The character made of a code has this code. -/
theorem toNat_ofNat {code : Nat} (valid : code.isValidChar) : (Char.ofNat code).toNat = code := by
  rw [Char.ofNat, dif_pos valid]
  rfl

/-- A digit has one of ten codes. -/
theorem isDigit_iff (c : Char) : isDigit c = true ↔ 48 ≤ c.toNat ∧ c.toNat ≤ 57 := by
  simp only [isDigit, Bool.and_eq_true, decide_eq_true_eq, between_iff]
  rfl

/-- A letter has the code of a capital or that of a small letter. -/
theorem isLetter_iff (c : Char) :
    isLetter c = true ↔ 65 ≤ c.toNat ∧ c.toNat ≤ 90 ∨ 97 ≤ c.toNat ∧ c.toNat ≤ 122 := by
  simp only [isLetter, Bool.or_eq_true, Bool.and_eq_true, decide_eq_true_eq, between_iff]
  rfl

/-- The code of a small letter stands 32 behind that of its capital. -/
theorem toNat_lowerAscii (c : Char) :
    (lowerAscii c).toNat = if 65 ≤ c.toNat ∧ c.toNat ≤ 90 then c.toNat + 32 else c.toNat := by
  unfold lowerAscii
  by_cases capital : 65 ≤ c.toNat ∧ c.toNat ≤ 90
  · have valid : (c.toNat + 32).isValidChar := by
      unfold Nat.isValidChar
      omega
    rw [if_pos capital, if_pos ((between_iff 'A' 'Z' c).2 capital), toNat_ofNat valid]
  · rw [if_neg capital, if_neg (fun within => capital ((between_iff 'A' 'Z' c).1 within))]

/-- A letter stays one as a small letter, and nothing else becomes one. -/
theorem isLetter_lowerAscii (c : Char) : isLetter (lowerAscii c) = isLetter c := by
  rw [Bool.eq_iff_iff, isLetter_iff, isLetter_iff, toNat_lowerAscii]
  split
  · omega
  · rfl

/-- Only the underscore has itself for a small letter. -/
theorem eq_underscore_of_lowerAscii {c : Char} (small : lowerAscii c = '_') : c = '_' := by
  have code : (lowerAscii c).toNat = 95 := congrArg Char.toNat small
  rw [toNat_lowerAscii] at code
  apply Char.toNat_inj.1
  change c.toNat = 95
  split at code
  · omega
  · exact code

/-- White space has a code below those of digits and letters, or behind them. -/
theorem code_of_isBlank {c : Char} (blank : isBlank c = true) : c.toNat ≤ 32 ∨ 133 ≤ c.toNat := by
  simp only [isBlank, Bool.or_eq_true, Bool.and_eq_true, decide_eq_true_eq, beq_iff_eq] at blank
  omega

/-- White space holds no digits. -/
theorem not_isDigit_of_isBlank {c : Char} (blank : isBlank c = true) : isDigit c = false := by
  have code := code_of_isBlank blank
  rw [Bool.eq_false_iff, ne_eq, isDigit_iff]
  omega

/-- White space holds no letters. -/
theorem not_isLetter_of_isBlank {c : Char} (blank : isBlank c = true) : isLetter c = false := by
  have code := code_of_isBlank blank
  rw [Bool.eq_false_iff, ne_eq, isLetter_iff]
  omega

end InputDeck.Text
