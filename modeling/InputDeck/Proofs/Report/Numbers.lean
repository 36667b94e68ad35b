import InputDeck.Report.Number
import InputDeck.Proofs.Number.Nearest
import InputDeck.Proofs.Number.Numerals
import InputDeck.Proofs.Text.Trimming
import InputDeck.Proofs.Value.Literals

/-!
# Numbers of reports

A report may have four letters in front of an exponent, and the reader of numbers knows two of them.
The first of the others is replaced before a second attempt, which is as good as making this attempt
alone: a text with one of the others is read at the first attempt never, and a text without them is
read the same way twice. So a report's number is the correct rounding of a numeral with any of the
four letters, and a text with neither of the other letters is a number to a report exactly if it is a
finite one to a deck.
-/

namespace InputDeck

open Numeral

/-! ## The letters of an exponent -/

/-- The letters in front of an exponent in a report. -/
def reportLetters : Text := ['e', 'E', 'd', 'D']

/-- The letters that are known in reports alone. -/
def IsReportLetter (c : Char) : Prop := c = 'd' ∨ c = 'D'

/-- A letter is no mark. -/
theorem not_isMark_of_mem {c : Char} (letter : c ∈ reportLetters) : ¬IsMark c := by
  simp only [reportLetters, List.mem_cons, List.not_mem_nil, or_false] at letter
  rcases letter with rfl | rfl | rfl | rfl <;> simp [IsMark, Text.isDigit]

/-- A letter that is known in reports alone. -/
theorem IsReportLetter.mem {c : Char} (isReport : IsReportLetter c) :
    c ∈ reportLetters ∧ c ∉ knownLetters := by
  rcases isReport with rfl | rfl <;> simp [reportLetters, knownLetters]

/-- The first letter that is known in reports alone is replaced, if there is one. -/
theorem withExponentLetter_cases (t : Text) :
    (∀ c ∈ t, ¬IsReportLetter c) ∧ withExponentLetter t = t ∨
      ∃ before letter behind, t = before ++ letter :: behind ∧ IsReportLetter letter ∧
        withExponentLetter t = before ++ 'E' :: behind := by
  induction t with
  | nil => exact .inl ⟨by simp, rfl⟩
  | cons c rest inductionHypothesis =>
    by_cases isReport : c = 'D' ∨ c = 'd'
    · exact .inr ⟨[], c, rest, rfl, isReport.symm, by simp [withExponentLetter, isReport]⟩
    · have kept : withExponentLetter (c :: rest) = c :: withExponentLetter rest := by
        simp [withExponentLetter, isReport]
      rw [kept]
      rcases inductionHypothesis with ⟨none, same⟩ | ⟨before, letter, behind, rfl, known, same⟩
      · exact .inl ⟨List.forall_mem_cons.2 ⟨fun own => isReport own.symm, none⟩, by rw [same]⟩
      · exact .inr ⟨c :: before, letter, behind, rfl, known, by rw [same]; rfl⟩

/-- A numeral of a report is one that the reader knows once a letter is replaced. -/
theorem writesDecimal_withExponentLetter_iff (t : Text) (negative : Bool) (d : Decimal) :
    WritesDecimal knownLetters (withExponentLetter t) negative d ↔
      WritesDecimal reportLetters t negative d := by
  rcases withExponentLetter_cases t with ⟨none, same⟩ | ⟨before, letter, behind, rfl, isReport, same⟩
  · rw [same]
    constructor
    · intro writes
      exact writes.restrict fun c known _ => by
        simp only [knownLetters, reportLetters, List.mem_cons] at known ⊢
        tauto
    · intro writes
      refine writes.restrict fun c known member => ?_
      have other := none c member
      simp only [reportLetters, knownLetters, List.mem_cons, IsReportLetter] at known other ⊢
      tauto
  · rw [same]
    constructor
    · intro writes
      exact writes.change (not_isMark_of_mem (by simp [reportLetters])) isReport.mem.1
    · intro writes
      exact writes.change (not_isMark_of_mem isReport.mem.1) (by simp [knownLetters])

/-- The second attempt alone finds what both attempts find. -/
theorem readReal?_or_withExponentLetter (t : Text) :
    (readReal? t).or (readReal? (withExponentLetter t)) = readReal? (withExponentLetter t) := by
  rcases withExponentLetter_cases t with ⟨-, same⟩ | ⟨before, letter, behind, rfl, isReport, -⟩
  · rw [same, Option.or_self]
  · have unread : readReal? (before ++ letter :: behind) = none := by
      rw [Option.eq_none_iff_forall_ne_some]
      intro x read
      obtain ⟨negative, d, writes, -⟩ := (readReal?_eq_some_iff _ x).1 read
      obtain ⟨isReport, unknown⟩ := isReport.mem
      rcases writes.characters.1 letter (by simp) with isMark | known
      · exact not_isMark_of_mem isReport isMark
      · exact unknown known
    rw [unread, Option.none_or]

/-- A letter of a report is no white space. -/
theorem isBlank_of_mem {c : Char} (letter : c ∈ reportLetters) : Text.isBlank c = false := by
  simp only [reportLetters, List.mem_cons, List.not_mem_nil, or_false] at letter
  rcases letter with rfl | rfl | rfl | rfl <;> rfl

/-! ## What a report reads -/

section

variable {t : Text} {x : Float}

/-- A report reads a finite number once a letter is replaced. -/
theorem readReportNumber?_eq_some_iff :
    readReportNumber? t = some x ↔
      readReal? (withExponentLetter (Text.trim t)) = some x ∧ x.isFinite = true := by
  have hasDigit (y : Float) (read : readReal? (withExponentLetter (Text.trim t)) = some y) :
      (Text.trim t).any Text.isDigit = true := by
    obtain ⟨negative, d, writes, -⟩ := (readReal?_eq_some_iff _ y).1 read
    rw [writesDecimal_withExponentLetter_iff] at writes
    exact List.any_eq_true.2 writes.characters.2
  simp only [readReportNumber?, readReal?_or_withExponentLetter]
  cases read : readReal? (withExponentLetter (Text.trim t)) with
  | none => simp
  | some y =>
    simp only [hasDigit y read, if_true, Option.ite_none_right_eq_some, Option.some.injEq]
    constructor
    · rintro ⟨finite, rfl⟩
      exact ⟨rfl, finite⟩
    · rintro ⟨rfl, finite⟩
      exact ⟨finite, rfl⟩

/-- A report reads the correct roundings of the numerals with its letters. -/
theorem readReportNumber?_iff_nearest :
    readReportNumber? t = some x ↔
      ∃ negative d, WritesDecimal reportLetters (Text.trim t) negative d ∧
        Rounding.Nearest d.value x ∧ isNegative x = negative := by
  simp only [readReportNumber?_eq_some_iff, readReal?_eq_some_iff,
    writesDecimal_withExponentLetter_iff, Decimal.isNearest_iff]
  constructor
  · rintro ⟨⟨negative, d, writes, same⟩, finite⟩
    exact ⟨negative, d, writes, same, finite⟩
  · rintro ⟨negative, d, writes, same, finite⟩
    exact ⟨⟨negative, d, writes, same⟩, finite⟩

/-- A letter of a report may be replaced by any other one. -/
theorem readReportNumber?_change {letter other : Char} (isLetter : letter ∈ reportLetters)
    (isOther : other ∈ reportLetters) (before behind : Text)
    (read : readReportNumber? (before ++ letter :: behind) = some x) :
    readReportNumber? (before ++ other :: behind) = some x := by
  rw [readReportNumber?_iff_nearest, Text.trim_append_cons (isBlank_of_mem isLetter)] at read
  rw [readReportNumber?_iff_nearest, Text.trim_append_cons (isBlank_of_mem isOther)]
  obtain ⟨negative, d, writes, nearest⟩ := read
  exact ⟨negative, d, writes.change (not_isMark_of_mem isLetter) isOther, nearest⟩

/-- Without the letters that are known in reports alone, a report reads a finite number. -/
theorem readReportNumber?_of_known (known : ∀ c ∈ t, ¬IsReportLetter c) :
    readReportNumber? t = some x ↔ readReal? (Text.trim t) = some x ∧ x.isFinite = true := by
  have inside : ∀ c ∈ Text.trim t, c ∈ t := by
    obtain ⟨before, behind, -, -, same⟩ := Text.exists_trim_between t
    intro c member
    rw [same]
    simp [member]
  rw [readReportNumber?_eq_some_iff]
  rcases withExponentLetter_cases (Text.trim t) with
    ⟨-, same⟩ | ⟨before, letter, behind, same, isReport, -⟩
  · rw [same]
  · exact absurd isReport (known letter (inside letter (by simp [same])))

end

/-! ## What a deck reads -/

/-- The opposite of a natural number is read as a real number like it is converted from an integer,
but for the sign of zero. -/
theorem neg_toFloat_beq_ofInt (n : ℕ) :
    (-(Decimal.mk n 0).toFloat == Float.ofInt (-n)) = true := by
  cases n with
  | zero => decide +kernel
  | succ n =>
    obtain ⟨sameNaN, -⟩ := Rounding.status_neg (Decimal.mk (n + 1) 0).toFloat
    exact float_beq_self (sameNaN.trans (Decimal.mk (n + 1) 0).status_toFloat.1)

/-- A numeral of a word is read as the number that the word becomes. -/
theorem readReal?_of_readWord? {t : Text} {n : Int64} (read : readWord? t = some n) :
    ∃ x, readReal? t = some x ∧ (x == Float.ofInt n.toInt) = true := by
  obtain ⟨isSign, nonempty, allDigits, value⟩ := (readWord?_eq_some_iff _ _).1 read
  rename_i sign digits
  have writes : WritesDecimal knownLetters (sign ++ digits) (decide (sign = ['-']))
      ⟨digitsValue digits, 0⟩ := by
    have mantissa := @WritesMantissa.written sign digits none isSign allDigits nofun
      (by simpa using nonempty)
    simpa [writtenFraction] using WritesDecimal.written mantissa (@WritesExponent.none knownLetters)
  refine ⟨_, (readReal?_eq_some_iff _ _).2 ⟨_, _, writes, rfl⟩, ?_⟩
  rw [value]
  -- Only a zero behind a minus sign is read as another number, and the two zeros are equal.
  by_cases negative : sign = ['-']
  · simp only [negative, decide_true, if_true]
    exact neg_toFloat_beq_ofInt _
  · simp only [negative, decide_false, Bool.false_eq_true, if_false]
    exact float_beq_self (Decimal.mk _ 0).status_toFloat.1

/-- A numeral that the reader knows looks like a number. -/
theorem looksNumeric_of_readReal? {t : Text} {x : Float} (read : readReal? t = some x) :
    Value.looksNumeric t = true := by
  obtain ⟨negative, d, writes, -⟩ := (readReal?_eq_some_iff t x).1 read
  obtain ⟨each, someDigit⟩ := writes.characters
  rw [Value.looksNumeric, Bool.and_eq_true, List.any_eq_true, List.all_eq_true]
  refine ⟨someDigit, fun c member => ?_⟩
  have own := each c member
  simp only [IsMark, knownLetters, List.mem_cons, List.not_mem_nil, or_false] at own
  simp only [Bool.or_eq_true, beq_iff_eq]
  tauto

/-- Two readings of a text: both nothing, or equal numbers of which both or neither are finite. -/
inductive SameReading : Option Float → Option Float → Prop
  | none : SameReading none none
  | some {x y : Float} (same : (x == y) = true) (finite : x.isFinite = true ↔ y.isFinite = true) :
      SameReading (some x) (some y)

/-- A deck takes a text for the number that is read of it without white space around. -/
theorem sameReading_toReal? (t : Text) :
    SameReading (readReal? (Text.trim t)) (Value.text t).toReal? := by
  have reading := Value.reading_ofLiteral t
  rw [Value.toReal?]
  generalize Value.ofLiteral t = v at reading
  cases reading with
  | @int n word =>
    obtain ⟨x, read, same⟩ := readReal?_of_readWord? word
    obtain ⟨d, written, -, finite⟩ := status_readReal? read
    obtain ⟨own, ownWritten, value⟩ := writtenDecimal?_of_readWord? word
    rw [written] at ownWritten
    cases ownWritten
    rw [read]
    refine .some same ?_
    rw [finite, value, (status_ofInt n.toInt).2]
  | real looks number =>
    rw [number]
    exact .some (float_beq_self (status_readReal? number).choose_spec.2.1) Iff.rfl
  | text noNumber =>
    have unread : readReal? (Text.trim t) = none := by
      rw [Option.eq_none_iff_forall_ne_some]
      intro x read
      rw [noNumber (looksNumeric_of_readReal? read)] at read
      cases read
    rw [unread]
    exact .none

/-! ## Both readers -/

/-- A report reads the correct roundings of the numerals with its letters, and it does not matter
which of the letters one has. Without the letters that are known in reports alone, it reads a number
exactly if a deck reads a finite one, and then these are equal. -/
theorem readReportNumber?_reads_numerals :
    (∀ t x, readReportNumber? t = some x ↔
      ∃ negative d, WritesDecimal reportLetters (Text.trim t) negative d ∧
        Rounding.Nearest d.value x ∧ isNegative x = negative) ∧
    (∀ before behind letter, letter = 'd' ∨ letter = 'D' →
      readReportNumber? (before ++ letter :: behind) =
        readReportNumber? (before ++ 'E' :: behind)) ∧
    ∀ t, 'd' ∉ t → 'D' ∉ t →
      (∀ x, readReportNumber? t = some x →
        ∃ y, (Value.text t).toReal? = some y ∧ y.isFinite = true ∧ (x == y) = true) ∧
      ∀ y, (Value.text t).toReal? = some y → y.isFinite = true →
        ∃ x, readReportNumber? t = some x ∧ (x == y) = true := by
  refine ⟨fun t x => readReportNumber?_iff_nearest, fun before behind letter isReport => ?_,
    fun t noSmall noCapital => ?_⟩
  · have isLetter := (IsReportLetter.mem isReport).1
    have capital : 'E' ∈ reportLetters := by simp [reportLetters]
    exact Option.ext fun x => ⟨readReportNumber?_change isLetter capital before behind,
      readReportNumber?_change capital isLetter before behind⟩
  · have known : ∀ c ∈ t, ¬IsReportLetter c := by
      rintro c member (rfl | rfl)
      · exact noSmall member
      · exact noCapital member
    have reading := sameReading_toReal? t
    generalize (Value.text t).toReal? = deck at reading
    constructor
    · intro x read
      obtain ⟨real, finite⟩ := (readReportNumber?_of_known known).1 read
      rw [real] at reading
      cases reading with
      | @some _ y same alike => exact ⟨y, rfl, alike.1 finite, same⟩
    · rintro y rfl finite
      generalize real : readReal? (Text.trim t) = found at reading
      cases reading with
      | @some x _ same alike =>
        exact ⟨x, (readReportNumber?_of_known known).2 ⟨real, alike.2 finite⟩, same⟩

end InputDeck
