import InputDeck.Proofs.Formula.Printed
import InputDeck.Proofs.Number.Integer
import InputDeck.Proofs.Text.Letters
import InputDeck.Proofs.Text.Trimming

/-!
# Printed numbers

A printed number goes back into the program in two ways, as the text of a value and as a formula.
Both readers take it for the number that was printed, whole or real as it was: a whole number is
printed in digits alone, and a real one with a point or an exponent, which no whole number has.
-/

namespace InputDeck

open Numeral

/-! ## Characters of a number -/

/-- No character of a number is white space. -/
theorem visible_of_looksNumeric {t : Text} (looks : Value.looksNumeric t = true) :
    ∀ c ∈ t, Text.isBlank c = false := by
  intro c member
  simp only [Value.looksNumeric, Bool.and_eq_true, List.all_eq_true] at looks
  have numeric := looks.2 c member
  simp only [Bool.or_eq_true, beq_iff_eq] at numeric
  rcases numeric with ((((digit | rfl) | rfl) | rfl) | rfl) | rfl
  · refine Bool.eq_false_iff.2 fun blank => ?_
    rw [Text.not_isDigit_of_isBlank blank] at digit
    cases digit
  all_goals rfl

/-- Text that looks like a number is read as a whole number if it writes one, and else as a real
one if it writes one. -/
theorem ofLiteral_of_looksNumeric {t : Text} (looks : Value.looksNumeric t = true) :
    Value.ofLiteral t =
      match readWord? t with
      | some n => .int n
      | none =>
        match readReal? t with
        | some x => .real x
        | none => .text t := by
  have trimmed := Text.trim_eq_self (visible_of_looksNumeric looks)
  unfold Value.ofLiteral
  rw [trimmed]
  exact if_pos looks

/-- A numeral consists of digits, a point, the letter of an exponent and a sign behind it. -/
theorem Numeral.IsWritten.mem_cases {t whole : Text} {fraction : Option Text}
    {exponent : Option (Bool × Text)} (isWritten : IsWritten t whole fraction exponent) :
    ∀ c ∈ t, Text.isDigit c = true ∨ c = '.' ∨ c = 'e' ∨ c = '-' := by
  intro c member
  rw [isWritten.written, List.mem_append, List.mem_append] at member
  rcases member with (inWhole | inFraction) | inExponent
  · exact .inl (isWritten.wholeDigits c inWhole)
  · cases fraction with
    | none => cases inFraction
    | some digits =>
      rcases List.mem_cons.1 inFraction with point | digit
      · exact .inr (.inl point)
      · exact .inl (isWritten.fractionDigits digits rfl c digit)
  · rcases exponent with _ | ⟨_ | _, digits⟩
    · cases inExponent
    · obtain ⟨-, allDigits⟩ := isWritten.exponentDigits false digits rfl
      rcases List.mem_cons.1 inExponent with letter | digit
      · exact .inr (.inr (.inl letter))
      · exact .inl (allDigits c digit)
    · obtain ⟨-, allDigits⟩ := isWritten.exponentDigits true digits rfl
      rcases List.mem_cons.1 inExponent with letter | behind
      · exact .inr (.inr (.inl letter))
      · rcases List.mem_cons.1 behind with sign | digit
        · exact .inr (.inr (.inr sign))
        · exact .inl (allDigits c digit)

/-- A numeral looks like a number, with a sign in front of it or without. -/
theorem looksNumeric_of_isSigned {t : Text} (signed : IsSigned t) :
    Value.looksNumeric t = true := by
  have numeral {t whole : Text} {fraction : Option Text} {exponent : Option (Bool × Text)}
      (isWritten : IsWritten t whole fraction exponent) : Value.looksNumeric t = true := by
    obtain ⟨c, rest, begins, digit⟩ := isWritten.begins
    simp only [Value.looksNumeric, Bool.and_eq_true, List.any_eq_true, List.all_eq_true]
    refine ⟨⟨c, begins ▸ List.mem_cons_self, digit⟩, fun d member => ?_⟩
    rcases isWritten.mem_cases d member with isDigit | rfl | rfl | rfl
    · simp [isDigit]
    all_goals rfl
  cases signed with
  | unsigned isWritten => exact numeral isWritten
  | negative isWritten =>
    have looks := numeral isWritten
    simp only [Value.looksNumeric, Bool.and_eq_true] at looks
    simp [Value.looksNumeric, looks.1, looks.2]

/-! ## The reader of values -/

section

variable {t whole : Text} {fraction : Option Text} {exponent : Option (Bool × Text)}

/-- A numeral has no sign in front. -/
theorem Numeral.IsWritten.scanSign_eq (isWritten : IsWritten t whole fraction exponent) :
    scanSign t = (false, t) := by
  obtain ⟨c, rest, rfl, digit⟩ := isWritten.begins
  unfold scanSign
  split
  · rename_i begins
    cases begins
    exact absurd digit (by decide)
  · rename_i begins
    cases begins
    exact absurd digit (by decide)
  · rfl

/-- Behind the first digits of a numeral that is not whole stands something. -/
theorem Numeral.IsWritten.spanDigits_ne_nil (isWritten : IsWritten t whole fraction exponent)
    (notWhole : Numeral.isWhole ⟨whole, fraction, exponent.map exponentValue⟩ = false) :
    (spanDigits t).2 ≠ [] := by
  have behind : ∃ c rest, writtenFraction fraction ++ writtenExponent exponent = c :: rest ∧
      Text.isDigit c = false := by
    cases fraction with
    | some digits => exact ⟨'.', _, rfl, rfl⟩
    | none =>
      rcases exponent with _ | ⟨_ | _, digits⟩
      · cases notWhole
      · exact ⟨'e', _, rfl, rfl⟩
      · exact ⟨'e', _, rfl, rfl⟩
  obtain ⟨c, rest, begins, notDigit⟩ := behind
  have ends : ∀ d others, c :: rest = d :: others → Text.isDigit d = false := by
    intro d others same
    cases same
    exact notDigit
  have spanned : spanDigits (whole ++ c :: rest) = (whole, c :: rest) :=
    spanDigits_append_of_not_digit isWritten.wholeDigits ends
  rw [isWritten.written, List.append_assoc, begins, spanned]
  exact List.cons_ne_nil c rest

/-- A numeral has a digit in front of its exponent. -/
theorem Numeral.IsWritten.hasDigits (isWritten : IsWritten t whole fraction exponent) :
    Numeral.hasDigits ⟨whole, fraction, exponent.map exponentValue⟩ = true := by
  simp [Numeral.hasDigits, isWritten.whole_ne_nil]

end

/-- The text of a real number is read as it, and not as a whole number. -/
theorem reads_of_writesReal {t : Text} {x : Float} (writes : WritesReal t x) :
    readWord? t = none ∧ readReal? t = some x := by
  cases writes with
  | unsigned isWritten notWhole reads _ =>
    have more := isWritten.spanDigits_ne_nil notWhole
    constructor
    · simp only [readWord?, isWritten.scanSign_eq, more, ne_eq, not_false_eq_true, or_true, if_true]
    · simp only [readReal?, isWritten.scanSign_eq, isWritten.scan_eq, isWritten.hasDigits, reads,
        and_self, if_true, Bool.false_eq_true, if_false]
  | negative isWritten notWhole reads _ =>
    have more := isWritten.spanDigits_ne_nil notWhole
    constructor
    · simp only [readWord?, scanSign, more, ne_eq, not_false_eq_true, or_true, if_true]
    · simp only [readReal?, scanSign, isWritten.scan_eq, isWritten.hasDigits, reads, and_self,
        if_true]

/-- A printed whole number is read as a value as itself. -/
theorem ofLiteral_renderInt (n : Int64) : Value.ofLiteral (renderInt n.toInt) = .int n := by
  rw [ofLiteral_of_looksNumeric (looksNumeric_of_isSigned (isSigned_renderInt _)),
    (readWord?_eq_some_iff _ _).2 (writesInteger_renderInt n)]

/-- A printed real number is read as a value as itself. -/
theorem ofLiteral_renderDeckReal {x : Float} (finite : x.isFinite = true) :
    Value.ofLiteral (renderDeckReal x) = .real x := by
  obtain ⟨notWord, reads⟩ := reads_of_writesReal (writesReal_renderDeckReal finite)
  rw [ofLiteral_of_looksNumeric (looksNumeric_of_isSigned (isSigned_renderDeckReal finite)),
    notWord, reads]

/-! ## The reader of formulas -/

namespace Formula

/-- A text whose only token is an operand is a formula. -/
theorem parse_of_operand {t : Text} {token : Token} {v : Value} (one : tokenize t = .ok [token])
    (notMinus : token ≠ .minus) (notPlus : token ≠ .plus)
    (reads : Reads .operand [token] (.literal v) []) : parse t = .ok (.literal v) := by
  rw [parse, one]
  refine (ofTokens?_eq_ok_iff _ _).2 ?_
  refine .sum (.product (.unsigned ⟨?_, ?_⟩ (.unraised reads (by simp))) (.productStop rfl))
    (.sumStop rfl)
  · simpa using notMinus
  · simpa using notPlus

/-- A printed whole number without a sign is a formula of it alone. -/
theorem parse_renderInt {n : Int64} (unsigned : (renderInt n.toInt).head? ≠ some '-') :
    parse (renderInt n.toInt) = .ok (.literal (.int n)) := by
  have natural : ¬n.toInt < 0 := by
    intro negative
    simp [renderInt, negative] at unsigned
  have absolute : n.toInt = n.toInt.natAbs := by omega
  have one := tokenize_renderNat n.toInt.natAbs
  rw [(wordOfInt?_eq_some_iff _ _).2 absolute] at one
  rw [renderInt, if_neg natural]
  exact parse_of_operand one Token.noConfusion Token.noConfusion (.whole n [])

/-- A printed real number without a sign is a formula of it alone. -/
theorem parse_of_writesReal {t : Text} {x : Float} (writes : WritesReal t x)
    (unsigned : t.head? ≠ some '-') : parse t = .ok (.literal (.real x)) := by
  cases writes with
  | unsigned isWritten notWhole reads _ =>
    have one := tokenize_of_isWritten isWritten
    rw [numberToken_of_not_whole notWhole reads] at one
    exact parse_of_operand one Token.noConfusion Token.noConfusion (.real x [])
  | negative => exact absurd rfl unsigned

end Formula

/-- A printed number is read as a value as itself, with its kind, and without a sign it is a formula
of this number alone. -/
theorem Value.printed_number_reads_back {v : Value} (number : ∀ t, v ≠ .text t)
    (finite : v.isNonFinite = false) :
    ofLiteral v.render = v ∧
      (v.render.head? ≠ some '-' → Formula.parse v.render = .ok (.literal v)) := by
  cases v with
  | int n => exact ⟨ofLiteral_renderInt n, Formula.parse_renderInt⟩
  | real x =>
    have xFinite : x.isFinite = true := by simpa [isNonFinite] using finite
    exact ⟨ofLiteral_renderDeckReal xFinite,
      Formula.parse_of_writesReal (writesReal_renderDeckReal xFinite)⟩
  | text t => exact absurd rfl (number t)

/-- An integral real number is printed with an exponent and stays real though it has no
fraction. -/
theorem Value.printed_power_of_ten :
    (∀ t, Value.real 1e22 ≠ .text t) ∧ (Value.real 1e22).isNonFinite = false ∧
      (Value.real 1e22).render = "1e22".toList ∧ ofLiteral "1e22".toList = .real 1e22 ∧
      Formula.parse "1e22".toList = .ok (.literal (.real 1e22)) := by
  have number : ∀ t, Value.real 1e22 ≠ .text t := by simp
  have finite : (Value.real 1e22).isNonFinite = false := by decide +kernel
  have printed : (Value.real 1e22).render = "1e22".toList := by decide +kernel
  obtain ⟨value, formula⟩ := printed_number_reads_back number finite
  rw [printed] at value formula
  exact ⟨number, finite, printed, value, formula (by decide)⟩

end InputDeck
