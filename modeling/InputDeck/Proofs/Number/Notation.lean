import InputDeck.Number.Notation

/-!
# Written numbers are numerals

Every notation writes digits, a point with digits or none, and an exponent or none, so scanning a
written number takes it as a whole and finds these parts again. A finite number has digits in
every notation.
-/

namespace InputDeck

/-- A row of characters of a class ends before a character outside of it. -/
theorem Text.spanWhile_append_of_ends {inClass : Char → Bool} {t behind : Text}
    (inside : ∀ c ∈ t, inClass c = true)
    (ends : ∀ c rest, behind = c :: rest → inClass c = false) :
    spanWhile inClass (t ++ behind) = (t, behind) := by
  simp only [spanWhile, List.takeWhile_append_of_pos inside, List.dropWhile_append_of_pos inside]
  cases behind with
  | nil => simp
  | cons c rest => simp [ends c rest rfl]

namespace Numeral

/-- All characters are digits. -/
def Digits (t : Text) : Prop := ∀ c ∈ t, Text.isDigit c = true

/-- A fraction as written: nothing, or a point and digits. -/
def writtenFraction : Option Text → Text
  | none => []
  | some digits => '.' :: digits

/-- An exponent as written: nothing, or its letter, a sign if it is negative, and digits. -/
def writtenExponent : Option (Bool × Text) → Text
  | none => []
  | some (true, digits) => 'e' :: '-' :: digits
  | some (false, digits) => 'e' :: digits

/-- The exponent that is written. -/
def exponentValue : Bool × Text → Int
  | (true, digits) => -(digitsValue digits : Int)
  | (false, digits) => digitsValue digits

/-- Digits end before a character that is none. -/
theorem spanDigits_append_of_not_digit {digits : Text} (allDigits : Digits digits) {behind : Text}
    (ends : ∀ c rest, behind = c :: rest → Text.isDigit c = false) :
    spanDigits (digits ++ behind) = (digits, behind) :=
  Text.spanWhile_append_of_ends allDigits ends

/-- Digits alone are taken as a whole. -/
theorem spanDigits_of_digits {digits : Text} (allDigits : Digits digits) :
    spanDigits digits = (digits, []) := by
  have ends : ∀ c rest, ([] : Text) = c :: rest → Text.isDigit c = false :=
    fun c rest impossible => absurd impossible.symm (List.cons_ne_nil c rest)
  have spanned := spanDigits_append_of_not_digit allDigits ends
  rwa [List.append_nil] at spanned

/-- A sign is scanned in front of what does not begin with one. -/
theorem scanSign_written {sign rest : Text} (isSign : sign = [] ∨ sign = ['+'] ∨ sign = ['-'])
    (unsigned : ∀ c others, rest = c :: others → c ≠ '-' ∧ c ≠ '+') :
    scanSign (sign ++ rest) = (decide (sign = ['-']), rest) := by
  rcases isSign with rfl | rfl | rfl
  · rw [List.nil_append, scanSign]
    · rfl
    · rintro others rfl
      exact (unsigned '-' others rfl).1 rfl
    · rintro others rfl
      exact (unsigned '+' others rfl).2 rfl
  · rfl
  · rfl

/-- A digit is no sign. -/
theorem ne_sign_of_isDigit {c : Char} (digit : Text.isDigit c = true) : c ≠ '-' ∧ c ≠ '+' := by
  constructor <;> rintro rfl <;> cases digit

/-- A sign is taken off the digits behind it. -/
theorem scanSign_append_digits {sign digits : Text}
    (isSign : sign = [] ∨ sign = ['+'] ∨ sign = ['-']) (allDigits : Digits digits) :
    scanSign (sign ++ digits) = (decide (sign = ['-']), digits) :=
  scanSign_written isSign fun c _ begins =>
    ne_sign_of_isDigit (allDigits c (begins ▸ List.mem_cons_self))

/-- Digits do not begin with a sign. -/
theorem scanSign_of_digits {digits : Text} (allDigits : Digits digits) :
    scanSign digits = (false, digits) :=
  scanSign_append_digits (.inl rfl) allDigits

/-- Digits at the beginning of a text, and the rest of it. -/
theorem spanDigits_split (t : Text) :
    Digits (spanDigits t).1 ∧ t = (spanDigits t).1 ++ (spanDigits t).2 := by
  refine ⟨fun c member => ?_, ?_⟩
  · exact List.all_eq_true.1 List.all_takeWhile c member
  · exact (List.takeWhile_append_dropWhile).symm

/-- A scanned sign is written in front of the rest, or there is none. -/
theorem scanSign_split (t : Text) :
    ∃ sign, t = sign ++ (scanSign t).2 ∧ (sign = [] ∨ sign = ['+'] ∨ sign = ['-']) ∧
      ((scanSign t).1 = true ↔ sign = ['-']) := by
  unfold scanSign
  split
  · exact ⟨['-'], rfl, .inr (.inr rfl), by simp⟩
  · exact ⟨['+'], rfl, .inr (.inl rfl), by simp⟩
  · exact ⟨[], rfl, .inl rfl, by simp⟩

/-- A written exponent is scanned as a whole. -/
theorem scanExponent_written {exponent : Option (Bool × Text)}
    (allDigits : ∀ sign digits, exponent = some (sign, digits) → digits ≠ [] ∧ Digits digits) :
    scanExponent (writtenExponent exponent) =
      exponent.map fun written => (exponentValue written, []) := by
  rcases exponent with _ | ⟨_ | _, digits⟩
  · rfl
  · obtain ⟨nonempty, each⟩ := allDigits false digits rfl
    simp [writtenExponent, scanExponent, scanSign_of_digits each, spanDigits_of_digits each,
      nonempty, exponentValue]
  · obtain ⟨nonempty, each⟩ := allDigits true digits rfl
    simp [writtenExponent, scanExponent, scanSign, spanDigits_of_digits each, nonempty,
      exponentValue]

/-- A fraction is scanned in front of what does not go on with a digit or begin with a point. -/
theorem scanFraction_written {fraction : Option Text} {rest : Text}
    (fractionDigits : ∀ digits, fraction = some digits → Digits digits)
    (ends : ∀ c others, rest = c :: others → Text.isDigit c = false ∧ c ≠ '.') :
    scanFraction (writtenFraction fraction ++ rest) = (fraction, rest) := by
  cases fraction with
  | none =>
    rw [writtenFraction, List.nil_append, scanFraction]
    rintro others rfl
    exact (ends '.' others rfl).2 rfl
  | some digits =>
    simp only [writtenFraction, List.cons_append, scanFraction,
      spanDigits_append_of_not_digit (fractionDigits digits rfl)
        fun c others same => (ends c others same).1]

/-- Digits and a fraction are scanned in front of what does not go on with a digit or begin with a
point, and then the exponent is. -/
theorem scan_written_append {whole : Text} {fraction : Option Text} {rest : Text}
    (wholeDigits : Digits whole) (fractionDigits : ∀ digits, fraction = some digits → Digits digits)
    (ends : ∀ c others, rest = c :: others → Text.isDigit c = false ∧ c ≠ '.') :
    scan (whole ++ writtenFraction fraction ++ rest) =
      (scanExponent rest).elim (⟨whole, fraction, none⟩, rest)
        fun (exponent, behind) => (⟨whole, fraction, some exponent⟩, behind) := by
  have first : spanDigits (whole ++ (writtenFraction fraction ++ rest)) =
      (whole, writtenFraction fraction ++ rest) := by
    refine spanDigits_append_of_not_digit wholeDigits fun c others same => ?_
    cases fraction with
    | none => exact (ends c others same).1
    | some digits =>
      cases same
      rfl
  simp only [List.append_assoc, scan, first, scanFraction_written fractionDigits ends]
  cases scanExponent rest with
  | none => rfl
  | some found => rfl

/-- A written numeral is scanned as a whole, and its parts are found again. -/
theorem scan_written {whole : Text} {fraction : Option Text} {exponent : Option (Bool × Text)}
    (wholeDigits : Digits whole) (fractionDigits : ∀ digits, fraction = some digits → Digits digits)
    (exponentDigits :
      ∀ sign digits, exponent = some (sign, digits) → digits ≠ [] ∧ Digits digits) :
    scan (whole ++ writtenFraction fraction ++ writtenExponent exponent) =
      (⟨whole, fraction, exponent.map exponentValue⟩, []) := by
  have ends : ∀ c rest, writtenExponent exponent = c :: rest →
      Text.isDigit c = false ∧ c ≠ '.' := by
    intro c rest same
    rcases exponent with _ | ⟨_ | _, digits⟩
    · cases same
    · cases same
      exact ⟨rfl, by decide⟩
    · cases same
      exact ⟨rfl, by decide⟩
  rw [scan_written_append wholeDigits fractionDigits ends, scanExponent_written exponentDigits]
  cases exponent <;> rfl

/-- The text is a numeral with a digit in front. -/
structure IsWritten (t : Text) (whole : Text) (fraction : Option Text)
    (exponent : Option (Bool × Text)) : Prop where
  written : t = whole ++ writtenFraction fraction ++ writtenExponent exponent
  whole_ne_nil : whole ≠ []
  wholeDigits : Digits whole
  fractionDigits : ∀ digits, fraction = some digits → Digits digits
  exponentDigits : ∀ sign digits, exponent = some (sign, digits) → digits ≠ [] ∧ Digits digits

/-- A written numeral is scanned as a whole. -/
theorem IsWritten.scan_eq {t whole : Text} {fraction : Option Text}
    {exponent : Option (Bool × Text)} (isWritten : IsWritten t whole fraction exponent) :
    scan t = (⟨whole, fraction, exponent.map exponentValue⟩, []) := by
  rw [isWritten.written]
  exact scan_written isWritten.wholeDigits isWritten.fractionDigits isWritten.exponentDigits

/-- A written numeral begins with a digit. -/
theorem IsWritten.begins {t whole : Text} {fraction : Option Text}
    {exponent : Option (Bool × Text)} (isWritten : IsWritten t whole fraction exponent) :
    ∃ c rest, t = c :: rest ∧ Text.isDigit c = true := by
  obtain ⟨c, rest, same⟩ := List.exists_cons_of_ne_nil isWritten.whole_ne_nil
  refine ⟨c, rest ++ writtenFraction fraction ++ writtenExponent exponent, ?_, ?_⟩
  · rw [isWritten.written, same]
    rfl
  · exact isWritten.wholeDigits c (same ▸ List.mem_cons_self)

end Numeral

open Numeral

/-- A natural number is written in digits. -/
theorem digits_renderNat (n : Nat) : Digits (renderNat n) := by
  intro c member
  have digit := Nat.isDigit_of_mem_toDigits (by decide) (by decide) member
  simpa [Text.isDigit, Char.isDigit, Char.le_def] using digit

/-- At least one digit is written. -/
theorem renderNat_ne_nil (n : Nat) : renderNat n ≠ [] := Nat.toDigits_ne_nil

/-- The digits of a natural number name it. -/
theorem digitsValue_renderNat (n : Nat) : digitsValue (renderNat n) = n :=
  Nat.ofDigitChars_ten_toDigits

/-- An integer is written as a sign if it is negative, and digits. -/
theorem renderInt_eq (n : Int) :
    renderInt n = (if n < 0 then ['-'] else []) ++ renderNat n.natAbs := by
  unfold renderInt
  split <;> rfl

namespace Decimal

/-- Zeros are digits. -/
theorem digits_replicate (n : Nat) : Digits (List.replicate n '0') := by
  intro c member
  obtain ⟨-, rfl⟩ := List.mem_replicate.1 member
  rfl

/-- There are only digits before and behind the point, and some before it. -/
theorem digits_split (d : Decimal) :
    d.split.1 ≠ [] ∧ Digits d.split.1 ∧ Digits d.split.2 := by
  have allDigits := digits_renderNat d.digits
  have nonempty := renderNat_ne_nil d.digits
  unfold split
  by_cases whole : 0 ≤ d.exponent
  · simp only [whole, ite_true]
    refine ⟨by simp [nonempty], ?_, by simp [Digits]⟩
    intro c member
    exact (List.mem_append.1 member).elim (allDigits c) (digits_replicate _ c)
  · simp only [whole, ite_false]
    by_cases small : (renderNat d.digits).length ≤ d.exponent.natAbs
    · simp only [small, ite_true]
      refine ⟨by simp, by simp [Digits, Text.isDigit], ?_⟩
      intro c member
      exact (List.mem_append.1 member).elim (digits_replicate _ c) (allDigits c)
    · simp only [small, ite_false]
      refine ⟨?_, fun c member => allDigits c (List.mem_of_mem_take member),
        fun c member => allDigits c (List.mem_of_mem_drop member)⟩
      intro empty
      rcases List.take_eq_nil_iff.1 empty with none | none
      · omega
      · exact nonempty none

/-- Plain notation is a numeral. -/
theorem isWritten_plain (d : Decimal) :
    IsWritten d.plain d.split.1 (if d.split.2 = [] then none else some d.split.2) none := by
  obtain ⟨nonempty, whole, fraction⟩ := d.digits_split
  refine ⟨?_, nonempty, whole, ?_, by simp⟩
  · unfold plain
    by_cases empty : d.split.2 = []
    · simp [empty, writtenFraction, writtenExponent]
    · simp [empty, writtenFraction, writtenExponent]
  · intro digits same
    by_cases empty : d.split.2 = []
    · simp [empty] at same
    · simp only [empty, ite_false, Option.some.injEq] at same
      exact same ▸ fraction

/-- Pointed notation is a numeral. -/
theorem isWritten_pointed (d : Decimal) :
    IsWritten d.pointed d.split.1 (some (if d.split.2 = [] then ['0'] else d.split.2)) none := by
  obtain ⟨nonempty, whole, fraction⟩ := d.digits_split
  refine ⟨by simp [pointed, writtenFraction, writtenExponent], nonempty, whole, ?_, by simp⟩
  intro digits same
  cases same
  by_cases empty : d.split.2 = []
  · simp [empty, Digits, Text.isDigit]
  · simpa [empty] using fraction

/-- The exponent behind the first digit. -/
def power (d : Decimal) : Int := d.exponent + (renderNat d.digits).length - 1

/-- Scientific notation is a numeral. -/
theorem isWritten_scientific (d : Decimal) :
    IsWritten d.scientific ((renderNat d.digits).take 1)
      (if (renderNat d.digits).drop 1 = [] then none else some ((renderNat d.digits).drop 1))
      (some (decide (d.power < 0), renderNat d.power.natAbs)) := by
  have allDigits := digits_renderNat d.digits
  have nonempty := renderNat_ne_nil d.digits
  refine ⟨?_, ?_, fun c member => allDigits c (List.mem_of_mem_take member), ?_, ?_⟩
  · have letter : writtenExponent (some (decide (d.power < 0), renderNat d.power.natAbs)) =
        'e' :: renderInt d.power := by
      rw [renderInt_eq]
      by_cases negative : d.power < 0
      · simp [writtenExponent, negative]
      · simp [writtenExponent, negative]
    rw [letter]
    by_cases empty : (renderNat d.digits).drop 1 = []
    · simp only [scientific, empty, ite_true, writtenFraction, power]
    · simp only [scientific, empty, ite_false, writtenFraction, power]
  · simpa using nonempty
  · intro digits same
    by_cases empty : (renderNat d.digits).drop 1 = []
    · simp [empty] at same
    · simp only [empty, ite_false, Option.some.injEq] at same
      exact same ▸ fun c member => allDigits c (List.mem_of_mem_drop member)
  · intro sign digits same
    cases same
    exact ⟨renderNat_ne_nil _, digits_renderNat _⟩

end Decimal

/-- A text is a numeral, perhaps behind a minus sign. -/
inductive IsSigned : Text → Prop
  | unsigned {t whole : Text} {fraction : Option Text} {exponent : Option (Bool × Text)}
      (isWritten : IsWritten t whole fraction exponent) : IsSigned t
  | negative {t whole : Text} {fraction : Option Text} {exponent : Option (Bool × Text)}
      (isWritten : IsWritten t whole fraction exponent) : IsSigned ('-' :: t)

/-- A finite number is neither NaN nor an infinity. -/
theorem status_of_isFinite {x : Float} (finite : x.isFinite = true) :
    x.isNaN = false ∧ x.isInf = false := by
  unfold Float.isFinite Float.Model.isFinite at finite
  unfold Float.isNaN Float.Model.isNaN Float.isInf Float.Model.isInf
  cases unpacked : x.toModel.unpack with
  | infinity sign =>
    rw [unpacked] at finite
    cases finite
  | notANumber =>
    rw [unpacked] at finite
    cases finite
  | zero sign => exact ⟨rfl, rfl⟩
  | finite sign mantissa exponent positive => exact ⟨rfl, rfl⟩

/-- An integer is written as a numeral with a sign. -/
theorem isSigned_renderInt (n : Int) : IsSigned (renderInt n) := by
  have isWritten : IsWritten (renderNat n.natAbs) (renderNat n.natAbs) none none :=
    ⟨by simp [writtenFraction, writtenExponent], renderNat_ne_nil _, digits_renderNat _, by simp,
      by simp⟩
  unfold renderInt
  split
  · exact .negative isWritten
  · exact .unsigned isWritten

/-- A finite number is written as a numeral with a sign, in every notation that writes
numerals. -/
theorem isSigned_renderReal {layout : Decimal → Text}
    (writes : ∀ d, ∃ whole fraction exponent, IsWritten (layout d) whole fraction exponent)
    {x : Float} (finite : x.isFinite = true) : IsSigned (renderReal layout x) := by
  obtain ⟨notNaN, notInf⟩ := status_of_isFinite finite
  obtain ⟨whole, fraction, exponent, isWritten⟩ := writes (Decimal.shortest x)
  unfold renderReal
  simp only [notNaN, notInf, Bool.false_eq_true, ite_false]
  split
  · exact .negative isWritten
  · exact .unsigned isWritten

/-- A deck writes a finite number as a numeral with a sign. -/
theorem isSigned_renderDeckReal {x : Float} (finite : x.isFinite = true) :
    IsSigned (renderDeckReal x) := by
  unfold renderDeckReal
  split
  · exact isSigned_renderReal (fun d => ⟨_, _, _, d.isWritten_plain⟩) finite
  · split
    · exact isSigned_renderReal (fun d => ⟨_, _, _, d.isWritten_pointed⟩) finite
    · exact isSigned_renderReal (fun d => ⟨_, _, _, d.isWritten_scientific⟩) finite

end InputDeck
