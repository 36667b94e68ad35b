import InputDeck.Proofs.Number.Integer
import InputDeck.Proofs.Number.Range

/-!
# Numerals of real numbers

A real number is written in digits with a point among them or not, at least one digit, perhaps behind
a sign, and perhaps with an exponent: a letter, perhaps a sign, and at least one digit. No other
character of a numeral is a letter, so a letter divides a numeral in one way only. A text is read as
a real number exactly if it is such a numeral, with one of the letters that the reader knows.
-/

namespace InputDeck

open Numeral

/-- A sign, or none. -/
def IsSign (t : Text) : Prop := t = [] ∨ t = ['+'] ∨ t = ['-']

/-- Digits with a point among them or not, perhaps behind a sign: whether it is a minus sign, and the
decimal without it. -/
inductive WritesMantissa : Text → Bool → Decimal → Prop
  | written {sign whole : Text} {fraction : Option Text} (isSign : IsSign sign)
      (wholeDigits : Digits whole)
      (fractionDigits : ∀ digits, fraction = some digits → Digits digits)
      (nonempty : whole ++ fraction.getD [] ≠ []) :
      WritesMantissa (sign ++ (whole ++ writtenFraction fraction)) (decide (sign = ['-']))
        ⟨digitsValue (whole ++ fraction.getD []), -((fraction.getD []).length : ℤ)⟩

/-- One of the letters and digits, perhaps with a sign in between, or nothing at all. -/
inductive WritesExponent (letters : Text) : Text → ℤ → Prop
  | none : WritesExponent letters [] 0
  | written {letter : Char} {sign digits : Text} (isLetter : letter ∈ letters) (isSign : IsSign sign)
      (nonempty : digits ≠ []) (allDigits : Digits digits) :
      WritesExponent letters (letter :: (sign ++ digits))
        (if sign = ['-'] then -(digitsValue digits : ℤ) else digitsValue digits)

/-- A mantissa with an exponent or without one. -/
inductive WritesDecimal (letters : Text) : Text → Bool → Decimal → Prop
  | written {mantissa behind : Text} {negative : Bool} {d : Decimal} {n : ℤ}
      (writes : WritesMantissa mantissa negative d) (exponent : WritesExponent letters behind n) :
      WritesDecimal letters (mantissa ++ behind) negative ⟨d.digits, d.exponent + n⟩

/-! ## Letters of a numeral -/

/-- A character that may stand in a numeral without being a letter. -/
def IsMark (c : Char) : Prop := Text.isDigit c = true ∨ c = '+' ∨ c = '-' ∨ c = '.'

/-- A sign is made of marks. -/
theorem IsSign.isMark {sign : Text} (isSign : IsSign sign) : ∀ c ∈ sign, IsMark c := by
  rcases isSign with rfl | rfl | rfl
  · simp
  · simp [IsMark]
  · simp [IsMark]

section

variable {letters t : Text} {negative : Bool} {d : Decimal} {n : ℤ}

/-- A mantissa is made of marks, and one of them is a digit. -/
theorem WritesMantissa.isMark (writes : WritesMantissa t negative d) :
    (∀ c ∈ t, IsMark c) ∧ ∃ c ∈ t, Text.isDigit c = true := by
  obtain ⟨isSign, wholeDigits, fractionDigits, nonempty⟩ := writes
  rename_i sign whole fraction
  cases fraction with
  | none =>
    obtain ⟨c, member⟩ := List.exists_mem_of_ne_nil whole (by simpa using nonempty)
    refine ⟨fun c member => ?_, c, by simp [member], wholeDigits c member⟩
    simp only [writtenFraction, List.append_nil, List.mem_append] at member
    rcases member with inSign | inWhole
    · exact isSign.isMark c inSign
    · exact .inl (wholeDigits c inWhole)
  | some digits =>
    have allDigits : ∀ c ∈ whole ++ digits, Text.isDigit c = true := by
      intro c member
      exact (List.mem_append.1 member).elim (wholeDigits c) (fractionDigits digits rfl c)
    obtain ⟨c, member⟩ := List.exists_mem_of_ne_nil (whole ++ digits) nonempty
    refine ⟨fun c member => ?_, c, ?_, allDigits c member⟩
    · simp only [writtenFraction, List.mem_append, List.mem_cons] at member
      rcases member with inSign | inWhole | rfl | inFraction
      · exact isSign.isMark c inSign
      · exact .inl (wholeDigits c inWhole)
      · exact .inr (.inr (.inr rfl))
      · exact .inl (fractionDigits digits rfl c inFraction)
    · simp only [writtenFraction, List.mem_append, List.mem_cons] at member ⊢
      tauto

/-- Behind its letter an exponent is made of marks. -/
theorem WritesExponent.isMark {letter : Char} (exponent : WritesExponent letters (letter :: t) n) :
    letter ∈ letters ∧ ∀ c ∈ t, IsMark c := by
  cases exponent with
  | written isLetter isSign nonempty allDigits =>
    refine ⟨isLetter, fun c member => ?_⟩
    exact (List.mem_append.1 member).elim (isSign.isMark c) fun digit => .inl (allDigits c digit)

/-- The letter of an exponent may be any known one. -/
theorem WritesExponent.change {others : Text} {letter other : Char}
    (exponent : WritesExponent letters (letter :: t) n) (known : other ∈ others) :
    WritesExponent others (other :: t) n := by
  cases exponent with
  | written isLetter isSign nonempty allDigits => exact .written known isSign nonempty allDigits

/-- The characters of a numeral are marks or letters, and one of them is a digit. -/
theorem WritesDecimal.characters (writes : WritesDecimal letters t negative d) :
    (∀ c ∈ t, IsMark c ∨ c ∈ letters) ∧ ∃ c ∈ t, Text.isDigit c = true := by
  cases writes with
  | @written mantissa behind _ _ _ writes exponent =>
    obtain ⟨marks, c, member, isDigit⟩ := writes.isMark
    refine ⟨fun c member => ?_, c, by simp [member], isDigit⟩
    rcases List.mem_append.1 member with inMantissa | inExponent
    · exact .inl (marks c inMantissa)
    · cases behind with
      | nil => cases inExponent
      | cons letter power =>
        obtain ⟨isLetter, powerMarks⟩ := exponent.isMark
        rcases List.mem_cons.1 inExponent with rfl | inPower
        · exact .inr isLetter
        · exact .inl (powerMarks c inPower)

/-- A letter that does not stand in a numeral need not be known. -/
theorem WritesDecimal.restrict {others : Text} (writes : WritesDecimal letters t negative d)
    (known : ∀ c ∈ letters, c ∈ t → c ∈ others) : WritesDecimal others t negative d := by
  obtain ⟨writes, exponent⟩ := writes
  refine .written writes ?_
  cases exponent with
  | none => exact .none
  | written isLetter isSign nonempty allDigits =>
    exact .written (known _ isLetter (by simp)) isSign nonempty allDigits

/-- A character that stands in neither of two texts tells where they were joined. -/
theorem join_unique {a b before behind : Text} {c letter : Char} (notBefore : c ∉ a)
    (notBehind : c ∉ b) (same : a ++ letter :: b = before ++ c :: behind) :
    a = before ∧ letter = c ∧ b = behind := by
  rcases List.append_eq_append_iff.1 same with ⟨between, rfl, split⟩ | ⟨between, rfl, split⟩
  · cases between with
    | nil =>
      obtain ⟨rfl, rfl⟩ := List.cons.inj split
      simp
    | cons first others =>
      obtain ⟨-, rfl⟩ := List.cons.inj split
      exact absurd (by simp) notBehind
  · cases between with
    | nil =>
      obtain ⟨rfl, rfl⟩ := List.cons.inj split
      simp
    | cons first others =>
      obtain ⟨rfl, -⟩ := List.cons.inj split
      exact absurd (by simp) notBefore

/-- A character that is no mark is the letter of the exponent, and any other letter may stand in its
place. -/
theorem WritesDecimal.change {others before behind : Text} {letter other : Char}
    (writes : WritesDecimal letters (before ++ letter :: behind) negative d)
    (noMark : ¬IsMark letter) (known : other ∈ others) :
    WritesDecimal others (before ++ other :: behind) negative d := by
  generalize same : before ++ letter :: behind = t at writes
  obtain ⟨mantissa, exponent⟩ := writes
  rename_i written rest d n
  have notBefore : letter ∉ written := fun member => noMark (mantissa.isMark.1 letter member)
  cases rest with
  | nil =>
    rw [List.append_nil] at same
    exact absurd (by simp [← same]) notBefore
  | cons found power =>
    have notBehind : letter ∉ power := fun member => noMark (exponent.isMark.2 letter member)
    obtain ⟨rfl, rfl, rfl⟩ := join_unique notBefore notBehind same.symm
    exact .written mantissa (exponent.change known)

end

/-! ## Scanning a numeral -/

/-- The letters that the reader knows. -/
def knownLetters : Text := ['e', 'E']

/-- A scanned fraction is written in front of the rest. -/
theorem scanFraction_split (t : Text) :
    t = writtenFraction (scanFraction t).1 ++ (scanFraction t).2 ∧
      ∀ digits, (scanFraction t).1 = some digits → Digits digits := by
  unfold scanFraction
  split
  · rename_i rest
    obtain ⟨allDigits, same⟩ := spanDigits_split rest
    refine ⟨congrArg ('.' :: ·) same, fun digits found => ?_⟩
    cases found
    exact allDigits
  · exact ⟨rfl, nofun⟩

/-- A scanned exponent is written in front of the rest. -/
theorem scanExponent_split {t rest : Text} {n : ℤ} (scanned : scanExponent t = some (n, rest)) :
    ∃ exponent, t = exponent ++ rest ∧ WritesExponent knownLetters exponent n := by
  cases t with
  | nil => cases scanned
  | cons letter behind =>
    obtain ⟨sign, signSplit, isSign, negative⟩ := scanSign_split behind
    obtain ⟨allDigits, digitSplit⟩ := spanDigits_split (scanSign behind).2
    simp only [scanExponent] at scanned
    split at scanned
    · rename_i isLetter
      split at scanned
      · cases scanned
      · rename_i nonempty
        simp only [negative, Option.some.injEq, Prod.mk.injEq] at scanned
        obtain ⟨rfl, rfl⟩ := scanned
        refine ⟨letter :: (sign ++ (spanDigits (scanSign behind).2).1), ?_,
          .written (by simpa [knownLetters] using isLetter) isSign nonempty allDigits⟩
        rw [List.cons_append, List.append_assoc, ← digitSplit, ← signSplit]
    · cases scanned

/-- An exponent is scanned as a whole. -/
theorem scanExponent_of_writes {t : Text} {n : ℤ} (writes : WritesExponent knownLetters t n) :
    t = [] ∧ n = 0 ∨ scanExponent t = some (n, []) := by
  cases writes with
  | none => exact .inl ⟨rfl, rfl⟩
  | @written letter sign digits isLetter isSign nonempty allDigits =>
    have known : letter = 'e' ∨ letter = 'E' := by simpa [knownLetters] using isLetter
    right
    simp only [scanExponent, known, if_true, scanSign_append_digits isSign allDigits,
      spanDigits_of_digits allDigits, nonempty, if_false, decide_eq_true_eq]

/-- What is scanned of a text stands in front of the rest. -/
theorem scan_split (t : Text) :
    ∃ numeral rest exponent, scan t = (numeral, rest) ∧ Digits numeral.whole ∧
      (∀ digits, numeral.fraction = some digits → Digits digits) ∧
      t = numeral.whole ++ writtenFraction numeral.fraction ++ (exponent ++ rest) ∧
      WritesExponent knownLetters exponent (numeral.exponent.getD 0) := by
  obtain ⟨wholeDigits, wholeSplit⟩ := spanDigits_split t
  obtain ⟨fractionSplit, fractionDigits⟩ := scanFraction_split (spanDigits t).2
  have same : t = (spanDigits t).1 ++ writtenFraction (scanFraction (spanDigits t).2).1 ++
      (scanFraction (spanDigits t).2).2 := by
    rw [List.append_assoc, ← fractionSplit, ← wholeSplit]
  cases scanned : scanExponent (scanFraction (spanDigits t).2).2 with
  | none =>
    refine ⟨⟨_, _, none⟩, _, [], ?_, wholeDigits, fractionDigits, same, .none⟩
    simp only [scan, scanned]
  | some found =>
    obtain ⟨n, rest⟩ := found
    obtain ⟨exponent, split, writes⟩ := scanExponent_split scanned
    refine ⟨⟨_, _, some n⟩, rest, exponent, ?_, wholeDigits, fractionDigits, ?_, writes⟩
    · simp only [scan, scanned]
    · rwa [split] at same

/-- A numeral without a sign is scanned as a whole. -/
theorem scan_of_writes {whole behind : Text} {fraction : Option Text} {n : ℤ}
    (wholeDigits : Digits whole)
    (fractionDigits : ∀ digits, fraction = some digits → Digits digits)
    (writes : WritesExponent knownLetters behind n) :
    ∃ exponent, scan (whole ++ writtenFraction fraction ++ behind) =
      (⟨whole, fraction, exponent⟩, []) ∧ exponent.getD 0 = n := by
  have ends : ∀ c others, behind = c :: others → Text.isDigit c = false ∧ c ≠ '.' := by
    rintro c others rfl
    have known : c = 'e' ∨ c = 'E' := by simpa [knownLetters] using writes.isMark.1
    rcases known with rfl | rfl <;> exact ⟨rfl, by decide⟩
  rw [scan_written_append wholeDigits fractionDigits ends]
  rcases scanExponent_of_writes writes with ⟨rfl, rfl⟩ | scanned
  · exact ⟨none, rfl, rfl⟩
  · exact ⟨some n, by rw [scanned]; rfl, rfl⟩

/-- A numeral names a number if it has a digit in front of its exponent. -/
theorem hasDigits_iff (numeral : Numeral) :
    numeral.hasDigits = true ↔ numeral.whole ++ numeral.fraction.getD [] ≠ [] := by
  simp [hasDigits]
  tauto

/-- Digits and a point do not begin with a sign. -/
theorem unsigned_of_digits {whole behind : Text} {fraction : Option Text}
    (wholeDigits : Digits whole) (nonempty : whole ++ fraction.getD [] ≠ []) :
    ∀ c others, whole ++ writtenFraction fraction ++ behind = c :: others → c ≠ '-' ∧ c ≠ '+' := by
  intro c others begins
  cases whole with
  | nil =>
    cases fraction with
    | none => exact absurd rfl nonempty
    | some digits =>
      cases begins
      exact ⟨by decide, by decide⟩
  | cons first digits =>
    cases begins
    exact ne_sign_of_isDigit (wholeDigits c List.mem_cons_self)

/-- A text is a numeral of a decimal, with the letters that the reader knows, exactly if it is read
as this decimal. -/
theorem writesDecimal_iff (t : Text) (negative : Bool) (d : Decimal) :
    WritesDecimal knownLetters t negative d ↔
      (scanSign t).1 = negative ∧ writtenDecimal? t = some d := by
  constructor
  · rintro ⟨⟨isSign, wholeDigits, fractionDigits, nonempty⟩, writes⟩
    rename_i behind n sign whole fraction
    obtain ⟨exponent, scanned, rfl⟩ := scan_of_writes wholeDigits fractionDigits writes
    rw [List.append_assoc, writtenDecimal?,
      scanSign_written isSign (unsigned_of_digits wholeDigits nonempty)]
    refine ⟨rfl, ?_⟩
    simp only [scanned]
    rw [if_pos ⟨trivial, (hasDigits_iff _).2 nonempty⟩, toDecimal, Int.sub_eq_add_neg, Int.add_comm]
  · rintro ⟨rfl, written⟩
    obtain ⟨sign, signSplit, isSign, negative⟩ := scanSign_split t
    obtain ⟨numeral, rest, behind, scanned, wholeDigits, fractionDigits, split, exponent⟩ :=
      scan_split (scanSign t).2
    simp only [writtenDecimal?, scanned, hasDigits_iff, Option.ite_none_right_eq_some] at written
    obtain ⟨⟨rfl, nonempty⟩, named⟩ := written
    have flag : (scanSign t).1 = decide (sign = ['-']) := by
      rw [Bool.eq_iff_iff, negative, decide_eq_true_eq]
    have parts : t = sign ++ (numeral.whole ++ writtenFraction numeral.fraction) ++ behind := by
      rw [split, List.append_nil] at signSplit
      rwa [List.append_assoc]
    have writes := WritesDecimal.written
      (.written isSign wholeDigits fractionDigits nonempty) exponent
    rw [← parts, ← flag] at writes
    cases named
    rwa [toDecimal, Int.sub_eq_add_neg, Int.add_comm]

/-- A text is read as the numbers that it is a numeral of. -/
theorem readReal?_eq_some_iff (t : Text) (x : Float) :
    readReal? t = some x ↔ ∃ negative d, WritesDecimal knownLetters t negative d ∧
      (if negative then -d.toFloat else d.toFloat) = x := by
  rw [readReal?_eq, Option.map_eq_some_iff]
  constructor
  · rintro ⟨d, written, same⟩
    exact ⟨_, d, (writesDecimal_iff t _ d).2 ⟨rfl, written⟩, same⟩
  · rintro ⟨negative, d, writes, same⟩
    obtain ⟨rfl, written⟩ := (writesDecimal_iff t negative d).1 writes
    exact ⟨d, written, same⟩

end InputDeck
