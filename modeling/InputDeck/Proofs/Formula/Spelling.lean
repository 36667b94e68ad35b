import Mathlib.Data.List.Chain
import InputDeck.Proofs.Formula.Numbers

/-!
# Ways of writing a formula

A token can be written in more than one way: a numeral with leading zeros, with a point and no
digits behind it, with a signed exponent, and a caret as two stars. Between tokens there may be any
separators. Two tokens run together without them only if both are words, or if the first is a star
and the second begins with one. A text that keeps its tokens apart is read as these tokens, and any
text that is read is written so.
-/

namespace InputDeck

namespace Numeral

open Formula

/-- The ways of writing an exponent, or of leaving it out. -/
inductive WritesExponent : Option Int → Text → Prop
  | absent : WritesExponent none []
  | present {letter : Char} {sign digits : Text} (isLetter : letter = 'e' ∨ letter = 'E')
      (isSign : sign = [] ∨ sign = ['+'] ∨ sign = ['-']) (nonempty : digits ≠ [])
      (allDigits : Digits digits) :
      WritesExponent (some (if sign = ['-'] then -(digitsValue digits : Int)
        else digitsValue digits)) (letter :: (sign ++ digits))

/-- The ways of writing a numeral: with a digit before the point or behind it. -/
inductive Writes : Numeral → Text → Prop
  | written {whole : Text} {fraction : Option Text} {exponent : Option Int} {tail : Text}
      (wholeDigits : Digits whole)
      (fractionDigits : ∀ digits, fraction = some digits → Digits digits)
      (hasDigit : whole ≠ [] ∨ ∃ digits, fraction = some digits ∧ digits ≠ [])
      (writesExponent : WritesExponent exponent tail) :
      Writes ⟨whole, fraction, exponent⟩ (whole ++ (writtenFraction fraction ++ tail))

/-- The text does not begin with a character that goes on with a numeral. -/
def Ends (behind : Text) : Prop :=
  ∀ c rest, behind = c :: rest → continuesName c = false ∧ c ≠ '.'

/-- What goes on with no name goes on with no row of digits. -/
theorem Ends.notDigit {behind : Text} (ends : Ends behind) :
    ∀ c rest, behind = c :: rest → Text.isDigit c = false := by
  intro c rest same
  have notName := (ends c rest same).1
  unfold continuesName at notName
  exact (Bool.or_eq_false_iff.1 notName).2

/-- What goes on with no name begins no exponent. -/
theorem Ends.scanExponent_eq {behind : Text} (ends : Ends behind) :
    scanExponent behind = none := by
  cases behind with
  | nil => rfl
  | cons c rest =>
    have notName := (ends c rest rfl).1
    have notLetter : ¬(c = 'e' ∨ c = 'E') := by
      rintro (rfl | rfl)
      · exact absurd notName (by decide)
      · exact absurd notName (by decide)
    simp [scanExponent, notLetter]

/-- What goes on with no numeral begins no fraction. -/
theorem Ends.scanFraction_eq {behind : Text} (ends : Ends behind) :
    scanFraction behind = (none, behind) := by
  cases behind with
  | nil => rfl
  | cons c rest => simp [scanFraction, (ends c rest rfl).2]

/-- A written exponent is scanned in front of what does not go on with it. -/
theorem scanExponent_of_writes {exponent : Option Int} {tail behind : Text}
    (writes : WritesExponent exponent tail) (ends : Ends behind) :
    scanExponent (tail ++ behind) = exponent.map fun value => (value, behind) := by
  cases writes with
  | absent => exact ends.scanExponent_eq
  | @present letter sign digits isLetter isSign nonempty allDigits =>
    obtain ⟨first, rest, same⟩ := List.exists_cons_of_ne_nil nonempty
    have digit : Text.isDigit first = true := allDigits first (same ▸ List.mem_cons_self)
    have unsigned : scanSign (digits ++ behind) = (false, digits ++ behind) := by
      rw [same]
      unfold scanSign
      split
      · rename_i found
        cases found
        exact absurd digit (by decide)
      · rename_i found
        cases found
        exact absurd digit (by decide)
      · rfl
    have spanned := spanDigits_append_of_not_digit allDigits ends.notDigit
    rcases isSign with rfl | rfl | rfl
    · simp [scanExponent, isLetter, unsigned, spanned, nonempty]
    · simp [scanExponent, isLetter, scanSign, spanned, nonempty]
    · simp [scanExponent, isLetter, scanSign, spanned, nonempty]

/-- A written numeral is scanned in front of what does not go on with it. -/
theorem scan_of_writes {numeral : Numeral} {t behind : Text} (writes : numeral.Writes t)
    (ends : Ends behind) : scan (t ++ behind) = (numeral, behind) := by
  obtain ⟨wholeDigits, fractionDigits, -, writesExponent⟩ := writes
  rename_i whole fraction exponent tail
  have scanned := scanExponent_of_writes writesExponent ends
  have letterEnds : ∀ c rest, tail ++ behind = c :: rest → Text.isDigit c = false := by
    cases writesExponent with
    | absent => exact ends.notDigit
    | present isLetter _ _ _ =>
      intro c rest same
      cases same
      rcases isLetter with rfl | rfl <;> rfl
  cases fraction with
  | none =>
    have noPoint : scanFraction (tail ++ behind) = (none, tail ++ behind) := by
      cases writesExponent with
      | absent => exact ends.scanFraction_eq
      | present isLetter _ _ _ =>
        rcases isLetter with rfl | rfl <;> rfl
    simp only [writtenFraction, List.nil_append, List.append_assoc, scan,
      spanDigits_append_of_not_digit wholeDigits letterEnds, noPoint, scanned]
    cases writesExponent <;> rfl
  | some digits =>
    have pointEnds : ∀ c rest, '.' :: (digits ++ (tail ++ behind)) = c :: rest →
        Text.isDigit c = false := by
      intro c rest same
      cases same
      rfl
    simp only [writtenFraction, List.append_assoc, List.cons_append, scan, scanFraction,
      spanDigits_append_of_not_digit wholeDigits pointEnds,
      spanDigits_append_of_not_digit (fractionDigits digits rfl) letterEnds, scanned]
    cases writesExponent <;> rfl

/-- A written numeral begins like one. -/
theorem Writes.begins {numeral : Numeral} {t : Text} (writes : numeral.Writes t) :
    ∃ c rest, t = c :: rest ∧ ∀ behind, beginsNumeral c (rest ++ behind) = true := by
  obtain ⟨wholeDigits, fractionDigits, hasDigit, -⟩ := writes
  rename_i whole fraction exponent tail
  cases whole with
  | cons c rest =>
    refine ⟨c, _, rfl, ?_⟩
    intro behind
    simp [beginsNumeral, wholeDigits c List.mem_cons_self]
  | nil =>
    obtain ⟨digits, rfl, nonempty⟩ := hasDigit.resolve_left (fun nothing => nothing rfl)
    obtain ⟨first, later, rfl⟩ := List.exists_cons_of_ne_nil nonempty
    refine ⟨'.', _, rfl, ?_⟩
    intro behind
    have digit := fractionDigits _ rfl first List.mem_cons_self
    simp [beginsNumeral, digit]

/-- A scanned fraction is written in front of the rest. -/
theorem scanFraction_split (t : Text) :
    (∀ digits, (scanFraction t).1 = some digits → Digits digits) ∧
      t = writtenFraction (scanFraction t).1 ++ (scanFraction t).2 := by
  unfold scanFraction
  split
  · rename_i rest
    obtain ⟨digits, split⟩ := spanDigits_split rest
    refine ⟨?_, congrArg ('.' :: ·) split⟩
    intro found same
    cases same
    exact digits
  · refine ⟨?_, rfl⟩
    intro digits impossible
    cases impossible

/-- A scanned exponent is written in front of the rest. -/
theorem writes_of_scanExponent {t rest : Text} {value : Int}
    (scanned : scanExponent t = some (value, rest)) :
    ∃ tail, t = tail ++ rest ∧ WritesExponent (some value) tail := by
  cases t with
  | nil => cases scanned
  | cons c later =>
    by_cases isLetter : c = 'e' ∨ c = 'E'
    · obtain ⟨digits, split⟩ := spanDigits_split (scanSign later).2
      by_cases empty : (spanDigits (scanSign later).2).1 = []
      · simp [scanExponent, isLetter, empty] at scanned
      · simp only [scanExponent, isLetter, empty, ite_true, ite_false, Option.some.injEq,
          Prod.mk.injEq] at scanned
        obtain ⟨rfl, rfl⟩ := scanned
        obtain ⟨sign, signed, isSign, negative⟩ := scanSign_split later
        have writes := WritesExponent.present isLetter isSign empty digits
        simp only [← negative] at writes
        refine ⟨_, ?_, writes⟩
        rw [List.cons_append, List.append_assoc, ← split, ← signed]
    · simp [scanExponent, isLetter] at scanned

/-- What begins like a numeral has a digit in front of a point or behind it. -/
theorem hasDigit_of_beginsNumeral {c : Char} {rest : Text}
    (begins : beginsNumeral c rest = true) :
    (spanDigits (c :: rest)).1 ≠ [] ∨
      ∃ digits, (scanFraction (spanDigits (c :: rest)).2).1 = some digits ∧ digits ≠ [] := by
  simp only [beginsNumeral, Bool.or_eq_true, Bool.and_eq_true, beq_iff_eq] at begins
  rcases begins with digit | ⟨rfl, digit⟩
  · left
    simp [spanDigits, Text.spanWhile, digit]
  · right
    cases rest with
    | nil => cases digit
    | cons d later =>
      have first : Text.isDigit d = true := digit
      exact ⟨_, rfl, by simp [first]⟩

/-- A numeral that is scanned is written in front of the rest. -/
theorem writes_of_scan {c : Char} {rest : Text} (begins : beginsNumeral c rest = true) :
    ∃ text, c :: rest = text ++ (scan (c :: rest)).2 ∧ (scan (c :: rest)).1.Writes text := by
  have hasDigit := hasDigit_of_beginsNumeral begins
  generalize c :: rest = t at hasDigit ⊢
  obtain ⟨wholeDigits, wholeSplit⟩ := spanDigits_split t
  obtain ⟨fractionDigits, fractionSplit⟩ := scanFraction_split (spanDigits t).2
  cases scanned : scanExponent (scanFraction (spanDigits t).2).2 with
  | none =>
    have same : scan t = (⟨(spanDigits t).1, (scanFraction (spanDigits t).2).1, none⟩,
        (scanFraction (spanDigits t).2).2) := by
      simp [scan, scanned]
    rw [same]
    refine ⟨_, ?_, .written wholeDigits fractionDigits hasDigit .absent⟩
    rw [List.append_nil, List.append_assoc, ← fractionSplit, ← wholeSplit]
  | some found =>
    obtain ⟨value, rest⟩ := found
    obtain ⟨tail, tailSplit, writes⟩ := writes_of_scanExponent scanned
    have same : scan t = (⟨(spanDigits t).1, (scanFraction (spanDigits t).2).1, some value⟩,
        rest) := by
      simp [scan, scanned]
    rw [same]
    refine ⟨_, ?_, .written wholeDigits fractionDigits hasDigit writes⟩
    rw [List.append_assoc, List.append_assoc, ← tailSplit, ← fractionSplit, ← wholeSplit]

end Numeral

namespace Formula

/-- The ways of writing a token. -/
inductive Spells : Token → Text → Prop
  | number {numeral : Numeral} {t : Text} (writes : numeral.Writes t) :
      Spells (numberToken numeral) t
  | name {c : Char} {rest : Text} (begins : beginsName c = true)
      (continues : ∀ d ∈ rest, continuesName d = true) : Spells (.name (c :: rest)) (c :: rest)
  | plus : Spells .plus ['+']
  | minus : Spells .minus ['-']
  | star : Spells .star ['*']
  | slash : Spells .slash ['/']
  | caret : Spells .caret ['^']
  | stars : Spells .caret ['*', '*']
  | comma : Spells .comma [',']
  | openParen : Spells .openParen ['(']
  | closeParen : Spells .closeParen [')']

/-- The text writes the tokens one by one, with any separators around them. -/
inductive Spelled : List Token → Text → Prop
  | nil {gap : Text} (separates : ∀ c ∈ gap, isSeparator c = true) : Spelled [] gap
  | cons {token : Token} {tokens : List Token} {gap t later : Text}
      (separates : ∀ c ∈ gap, isSeparator c = true) (spells : Spells token t)
      (rest : Spelled tokens later) : Spelled (token :: tokens) (gap ++ (t ++ later))

/-- Whether a token is a number or a name. -/
def Token.isWord : Token → Bool
  | .whole _ | .real _ | .name _ => true
  | _ => false

/-- The tokens do not run together where nothing separates them. -/
structure Token.Apart (token next : Token) : Prop where
  words : token.isWord = true → next.isWord = false
  stars : token = .star → next ≠ .star ∧ next ≠ .caret

/-- The text does not begin with a character that goes on with the token. -/
structure Token.EndsBefore (token : Token) (behind : Text) : Prop where
  word : token.isWord = true → Numeral.Ends behind
  star : token = .star → ∀ rest, behind ≠ '*' :: rest

/-- The token of a numeral is a word. -/
theorem isWord_numberToken (numeral : Numeral) : (numberToken numeral).isWord = true := by
  rcases numberToken_eq numeral with ⟨n, same⟩ | ⟨x, same⟩
  · rw [same]
    rfl
  · rw [same]
    rfl

/-- A separator goes on with no token. -/
theorem ends_of_isSeparator {c : Char} (separates : isSeparator c = true) :
    continuesName c = false ∧ c ≠ '.' ∧ c ≠ '*' := by
  simp only [isSeparator, Bool.or_eq_true, beq_iff_eq] at separates
  rcases separates with ((rfl | rfl) | rfl) | rfl
  all_goals exact ⟨by decide, by decide, by decide⟩

/-- No numeral begins with a separator. -/
theorem not_isSeparator_of_beginsNumeral {c : Char} {rest : Text}
    (begins : beginsNumeral c rest = true) : isSeparator c = false := by
  apply Bool.eq_false_iff.2
  intro separates
  obtain ⟨notName, notPoint, -⟩ := ends_of_isSeparator separates
  unfold continuesName at notName
  simp [beginsNumeral, (Bool.or_eq_false_iff.1 notName).2, notPoint] at begins

/-- A letter begins a name, no numeral, and separates nothing. -/
theorem alone_of_beginsName {c : Char} (begins : beginsName c = true) :
    isSeparator c = false ∧ ∀ rest, beginsNumeral c rest = false := by
  have apart : ∀ d, beginsName d = false → c ≠ d := by
    rintro d other rfl
    rw [begins] at other
    cases other
  have notDigit : Text.isDigit c = false := by
    apply Bool.eq_false_iff.2
    intro digit
    simp only [beginsName, Text.isLetter, Text.isDigit, Bool.or_eq_true, Bool.and_eq_true,
      decide_eq_true_eq, beq_iff_eq, Char.le_def] at begins digit
    rcases begins with (letter | letter) | rfl
    · exact absurd (UInt32.le_trans letter.1 digit.2) (by decide)
    · exact absurd (UInt32.le_trans letter.1 digit.2) (by decide)
    · exact absurd digit.2 (by decide)
  constructor
  · simp [isSeparator, apart ' ' (by decide), apart '\t' (by decide), apart '\r' (by decide),
      apart '\n' (by decide)]
  · intro rest
    simp [beginsNumeral, notDigit, apart '.' (by decide)]

/-- A written token is scanned in front of what does not go on with it. -/
theorem scanToken_of_spells {token : Token} {t behind : Text} (spells : Spells token t)
    (ends : token.EndsBefore behind) :
    ∃ c rest, t = c :: rest ∧ isSeparator c = false ∧
      scanToken c (rest ++ behind) = .ok (token, behind) := by
  cases spells with
  | @number numeral _ writes =>
    obtain ⟨c, rest, rfl, begins⟩ := writes.begins
    have scanned := Numeral.scan_of_writes writes (ends.word (isWord_numberToken numeral))
    rw [List.cons_append] at scanned
    refine ⟨c, rest, rfl, not_isSeparator_of_beginsNumeral (begins []), ?_⟩
    simp [scanToken, begins behind, scanned]
  | @name c rest begins continues =>
    obtain ⟨visible, notNumeral⟩ := alone_of_beginsName begins
    have spanned : Text.spanWhile continuesName (rest ++ behind) = (rest, behind) :=
      Text.spanWhile_append_of_ends continues fun d later same => (ends.word rfl d later same).1
    refine ⟨c, rest, rfl, visible, ?_⟩
    simp [scanToken, notNumeral, begins, spanned]
  | star =>
    refine ⟨'*', [], rfl, rfl, ?_⟩
    have notStar := ends.star rfl
    change scanToken '*' behind = .ok (.star, behind)
    unfold scanToken
    split
    · rename_i numeral
      cases behind <;> cases numeral
    · split
      · rename_i letter
        exact absurd letter (by decide)
      · -- by `notStar` the next character makes no other token of the star
        simp only
  | plus | minus | slash | caret | stars | comma | openParen | closeParen =>
    exact ⟨_, _, rfl, rfl, rfl⟩

/-- What a written token begins with goes on with no token before it that stands apart from it. -/
theorem endsBefore_of_spells {token next : Token} {c : Char} {t : Text}
    (spells : Spells next (c :: t)) (apart : token.Apart next) (behind : Text) :
    token.EndsBefore (c :: behind) := by
  constructor
  · intro word d rest same
    cases same
    have symbol := apart.words word
    cases spells with
    | number writes =>
      rw [isWord_numberToken] at symbol
      cases symbol
    | name _ _ => cases symbol
    | plus | minus | star | slash | caret | stars | comma | openParen | closeParen =>
      exact ⟨by decide, by decide⟩
  · intro star rest same
    cases same
    obtain ⟨notStar, notCaret⟩ := apart.stars star
    cases spells with
    | @number numeral _ writes =>
      obtain ⟨_, _, same, begins⟩ := writes.begins
      cases same
      have impossible := begins []
      simp [beginsNumeral, Text.isDigit] at impossible
    | name begins _ => exact absurd begins (by decide)
    | star => exact notStar rfl
    | stars => exact notCaret rfl

/-- Every token goes on with nothing where the text ends. -/
theorem endsBefore_nil (token : Token) : token.EndsBefore [] := by
  constructor
  · rintro - c rest same
    cases same
  · rintro - rest same
    cases same

/-- No token goes on with a separator. -/
theorem endsBefore_of_isSeparator (token : Token) {c : Char} (separates : isSeparator c = true)
    (behind : Text) : token.EndsBefore (c :: behind) := by
  obtain ⟨notName, notPoint, notStar⟩ := ends_of_isSeparator separates
  constructor
  · rintro - d rest same
    cases same
    exact ⟨notName, notPoint⟩
  · rintro - rest same
    cases same
    exact notStar rfl

/-- A written token is not empty. -/
theorem Spells.exists_cons {token : Token} {t : Text} (spells : Spells token t) :
    ∃ c rest, t = c :: rest := by
  cases spells with
  | number writes =>
    obtain ⟨c, rest, same, -⟩ := writes.begins
    exact ⟨c, rest, same⟩
  | _ => exact ⟨_, _, rfl⟩

/-- A token does not go on with what is written behind it, if it stands apart from the next. -/
theorem endsBefore_of_spelled {token : Token} {tokens : List Token} {t : Text}
    (spelled : Spelled tokens t) (apart : ∀ next ∈ tokens.head?, token.Apart next) :
    token.EndsBefore t := by
  cases spelled with
  | nil separates =>
    cases t with
    | nil => exact endsBefore_nil token
    | cons c rest => exact endsBefore_of_isSeparator token (separates c List.mem_cons_self) rest
  | @cons next tokens gap written later separates spells rest =>
    cases gap with
    | nil =>
      obtain ⟨c, more, rfl⟩ := spells.exists_cons
      exact endsBefore_of_spells spells (apart next rfl) (more ++ later)
    | cons c more => exact endsBefore_of_isSeparator token (separates c List.mem_cons_self) _

/-- Separators are passed over. -/
theorem tokenize_gap {gap : Text} (separates : ∀ c ∈ gap, isSeparator c = true) (t : Text) :
    tokenize (gap ++ t) = tokenize t := by
  induction gap with
  | nil => rfl
  | cons c rest inductionHypothesis =>
    obtain ⟨first, later⟩ := List.forall_mem_cons.1 separates
    rw [List.cons_append, tokenize_cons, if_pos first, inductionHypothesis later]

/-- A text that writes tokens that stand apart is read as these tokens. -/
theorem tokenize_of_spelled {tokens : List Token} {t : Text} (spelled : Spelled tokens t)
    (apart : tokens.IsChain Token.Apart) : tokenize t = .ok tokens := by
  induction spelled with
  | @nil gap separates =>
    have passed := tokenize_gap separates []
    rw [List.append_nil] at passed
    rw [passed]
    simp [tokenize]
  | @cons token tokens gap t later separates spells rest inductionHypothesis =>
    have others := inductionHypothesis apart.tail
    have ends := endsBefore_of_spelled rest (List.isChain_cons.1 apart).1
    obtain ⟨c, more, rfl, visible, scanned⟩ := scanToken_of_spells spells ends
    rw [tokenize_gap separates, List.cons_append, tokenize_cons, if_neg (by simp [visible]),
      scanned]
    simp [others, Except.map]

/-- A token that is scanned is written in front of the rest. -/
theorem spells_of_scanToken {c : Char} {rest remaining : Text} {token : Token}
    (scanned : scanToken c rest = .ok (token, remaining)) :
    ∃ t, c :: rest = t ++ remaining ∧ Spells token t := by
  unfold scanToken at scanned
  split at scanned
  · rename_i begins
    cases scanned
    obtain ⟨t, split, writes⟩ := Numeral.writes_of_scan begins
    exact ⟨t, split, .number writes⟩
  · split at scanned
    · rename_i begins
      cases scanned
      refine ⟨c :: (Text.spanWhile continuesName rest).1, ?_, .name begins ?_⟩
      · exact congrArg (c :: ·) (List.takeWhile_append_dropWhile).symm
      · exact fun d member => List.all_eq_true.1 List.all_takeWhile d member
    · split at scanned
      case h_3 =>
        split at scanned
        · cases scanned
          exact ⟨_, rfl, .stars⟩
        · cases scanned
          exact ⟨_, rfl, .star⟩
      all_goals cases scanned
      all_goals exact ⟨_, rfl, by constructor⟩

/-- A text that is read writes its tokens. -/
theorem spelled_of_tokenize {t : Text} {tokens : List Token} (read : tokenize t = .ok tokens) :
    Spelled tokens t := by
  fun_induction tokenize t generalizing tokens with
  | case1 =>
    cases read
    exact .nil (fun c member => absurd member List.not_mem_nil)
  | case2 c rest separates inductionHypothesis =>
    cases inductionHypothesis read with
    | nil others => exact .nil (List.forall_mem_cons.2 ⟨separates, others⟩)
    | @cons token tokens gap t later others spells written =>
      change Spelled _ ((c :: gap) ++ (t ++ later))
      exact .cons (List.forall_mem_cons.2 ⟨separates, others⟩) spells written
  | case3 => cases read
  | case4 c rest visible token remaining scanned _ inductionHypothesis =>
    obtain ⟨later, laterRead, rfl⟩ := (map_eq_ok_iff _ _ _).1 read
    obtain ⟨t, split, spells⟩ := spells_of_scanToken scanned
    rw [split]
    change Spelled _ ([] ++ (t ++ remaining))
    exact .cons (fun c member => absurd member List.not_mem_nil) spells
      (inductionHypothesis laterRead)

end Formula

end InputDeck
