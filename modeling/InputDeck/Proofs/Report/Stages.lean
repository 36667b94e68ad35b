import InputDeck.Proofs.Number.Integer
import InputDeck.Proofs.Text.Letters
import InputDeck.Proofs.Text.Trimming
import InputDeck.Report.RuleParser

/-!
# Ways of writing a stage

A stage is written as the name of its operator, in letters of either case and with underscores
anywhere, and its arguments in parentheses with commas between them. Text stands between quotes of
either kind. A backslash before `n` or `t` stands there for a newline or a tabulator, and before any
other character for that character; what is neither a backslash nor the quote stands for itself, a
comma and a parenthesis included. White space may stand behind the name and around arguments.

A stage is read exactly where it is written so, whatever follows it.
-/

namespace InputDeck

/-- The ways of writing a text before its closing quote. -/
inductive WritesQuoted (quote : Char) : Text → Text → Prop
  | nil : WritesQuoted quote [] []
  | newline {content written : Text} (later : WritesQuoted quote content written) :
      WritesQuoted quote ('\n' :: content) ('\\' :: 'n' :: written)
  | tabulator {content written : Text} (later : WritesQuoted quote content written) :
      WritesQuoted quote ('\t' :: content) ('\\' :: 't' :: written)
  | escaped {c : Char} {content written : Text} (noLetter : c ≠ 'n' ∧ c ≠ 't')
      (later : WritesQuoted quote content written) :
      WritesQuoted quote (c :: content) ('\\' :: c :: written)
  | plain {c : Char} {content written : Text} (isPlain : c ≠ '\\' ∧ c ≠ quote)
      (later : WritesQuoted quote content written) :
      WritesQuoted quote (c :: content) (c :: written)

/-- The ways of writing an argument. -/
inductive WritesArgument : Argument → Text → Prop
  | text {quote : Char} {content written : Text} (isQuote : quote = '"' ∨ quote = '\'')
      (quoted : WritesQuoted quote content written) :
      WritesArgument (.text content) (quote :: (written ++ [quote]))
  | integer {n : Int64} {written : Text} (writes : WritesInteger n written) :
      WritesArgument (.integer n) written

/-- The ways of writing a row of arguments between its parentheses. -/
inductive WritesArguments : List Argument → Text → Prop
  | nil {gap : Text} (blank : Text.Blank gap) : WritesArguments [] gap
  | last {before behind written : Text} {only : Argument} (blankBefore : Text.Blank before)
      (writes : WritesArgument only written) (blankBehind : Text.Blank behind) :
      WritesArguments [only] (before ++ (written ++ behind))
  | cons {before behind written later : Text} {first second : Argument} {rest : List Argument}
      (blankBefore : Text.Blank before) (writes : WritesArgument first written)
      (blankBehind : Text.Blank behind) (others : WritesArguments (second :: rest) later) :
      WritesArguments (first :: second :: rest) (before ++ (written ++ (behind ++ ',' :: later)))

/-- The ways of writing a name: with letters of either case and underscores anywhere. -/
inductive WritesName : Text → Text → Prop
  | nil : WritesName [] []
  | underscore {name written : Text} (later : WritesName name written) :
      WritesName name ('_' :: written)
  | letter {c d : Char} {name written : Text} (sameLetter : Text.lowerAscii d = Text.lowerAscii c)
      (later : WritesName name written) : WritesName (c :: name) (d :: written)

/-- The arguments of an operation, as many and of the kinds that its operator asks for. -/
def Operation.arguments : Operation → List Argument
  | grep pattern files => [.text pattern, .text files]
  | get index => [.integer index]
  | cut delimiter index => [.text delimiter, .integer index]
  | replace old new => [.text old, .text new]
  | substring start stop => [.text start, .text stop]
  | asNumeric => []

/-- The ways of writing a stage. -/
inductive WritesStage (operation : Operation) : Text → Prop
  | call {name gap inner : Text} (named : WritesName operation.operator.name.toList name)
      (blank : Text.Blank gap) (arguments : WritesArguments operation.arguments inner) :
      WritesStage operation (name ++ (gap ++ '(' :: (inner ++ [')'])))

/-- The name of an operator has letters alone. -/
theorem Operator.isLetter_of_mem_name (operator : Operator) :
    ∀ c ∈ operator.name.toList, Text.isLetter c = true := by
  rw [← List.all_eq_true]
  cases operator <;> rfl

/-- No operator is without a name. -/
theorem Operator.name_ne_nil (operator : Operator) : operator.name.toList ≠ [] := by
  cases operator <;> decide

namespace Rule

/-- No quote is a backslash. -/
theorem notBackslash {quote : Char} (isQuote : quote = '"' ∨ quote = '\'') : quote ≠ '\\' := by
  rcases isQuote with rfl | rfl
  · decide
  · decide

/-- A text between quotes is read up to its closing quote. -/
theorem quotedContent?_eq_some_iff {quote : Char} (notBackslash : quote ≠ '\\')
    (t content rest : Text) :
    quotedContent? quote t = some (content, rest) ↔
      ∃ written, t = written ++ quote :: rest ∧ WritesQuoted quote content written := by
  constructor
  · intro read
    fun_induction quotedContent? quote t generalizing content with
    | case1 => cases read
    | case2 => cases read
    | case3 c later inductionHypothesis =>
      obtain ⟨⟨inner, outer⟩, found, same⟩ := Option.map_eq_some_iff.1 read
      cases same
      obtain ⟨written, rfl, quoted⟩ := inductionHypothesis inner found
      refine ⟨'\\' :: c :: written, rfl, ?_⟩
      unfold unescaped
      split
      · rename_i newline
        subst newline
        exact .newline quoted
      · split
        · rename_i tabulator
          subst tabulator
          exact .tabulator quoted
        · rename_i noNewline noTabulator
          exact .escaped ⟨noNewline, noTabulator⟩ quoted
    | case4 later =>
      cases read
      exact ⟨[], rfl, .nil⟩
    | case5 c later lone noEscape notQuote inductionHypothesis =>
      obtain ⟨⟨inner, outer⟩, found, same⟩ := Option.map_eq_some_iff.1 read
      cases same
      obtain ⟨written, rfl, quoted⟩ := inductionHypothesis inner found
      refine ⟨c :: written, rfl, .plain ⟨?_, notQuote⟩ quoted⟩
      rintro rfl
      cases written with
      | nil => exact noEscape _ _ rfl rfl
      | cons d more => exact noEscape _ _ rfl rfl
  · rintro ⟨written, rfl, quoted⟩
    induction quoted with
    | nil =>
      rw [List.nil_append, quotedContent?, if_pos rfl]
      · exact fun same => absurd same notBackslash
      · exact fun c more same => absurd same notBackslash
    | newline _ inductionHypothesis | tabulator _ inductionHypothesis =>
      rw [List.cons_append, List.cons_append, quotedContent?, inductionHypothesis]
      rfl
    | @escaped c content written noLetter _ inductionHypothesis =>
      rw [List.cons_append, List.cons_append, quotedContent?, inductionHypothesis]
      simp [unescaped, noLetter]
    | @plain c content written isPlain _ inductionHypothesis =>
      rw [List.cons_append, quotedContent?, if_neg isPlain.2, inductionHypothesis]
      · rfl
      · exact fun same => absurd same isPlain.1
      · exact fun c more same => absurd same isPlain.1

/-- An integer begins with a sign or a digit, and no quote. -/
theorem begins_of_writesInteger {n : Int64} {written : Text} (writes : WritesInteger n written) :
    ∃ c digits, written = c :: digits ∧ (c = '-' ∨ c = '+' ∨ Text.isDigit c = true) ∧
      ¬(c = '"' ∨ c = '\'') ∧ Numeral.Digits digits := by
  obtain ⟨isSign, nonempty, allDigits, -⟩ := writes
  rename_i sign digits
  rcases isSign with rfl | rfl | rfl
  · obtain ⟨first, rest, rfl⟩ := List.exists_cons_of_ne_nil nonempty
    obtain ⟨digit, others⟩ := List.forall_mem_cons.1 allDigits
    refine ⟨first, rest, rfl, .inr (.inr digit), ?_, others⟩
    rintro (rfl | rfl)
    · cases digit
    · cases digit
  · exact ⟨'+', digits, rfl, .inr (.inl rfl), by decide, allDigits⟩
  · exact ⟨'-', digits, rfl, .inl rfl, by decide, allDigits⟩

/-- An argument is read where it is written, in front of what does not go on with it. -/
theorem argument_append {found : Argument} {written : Text} (writes : WritesArgument found written)
    {rest : Text} (ends : ∀ c more, rest = c :: more → Text.isDigit c = false) :
    argument (written ++ rest) = .ok (found, rest) := by
  cases writes with
  | @text quote content written isQuote quoted =>
    have read := (quotedContent?_eq_some_iff (notBackslash isQuote) (written ++ quote :: rest) content
      rest).2 ⟨written, rfl, quoted⟩
    simp [argument, isQuote, read]
  | @integer n written integral =>
    obtain ⟨c, digits, rfl, begins, notQuote, allDigits⟩ := begins_of_writesInteger integral
    have spanned := Numeral.spanDigits_append_of_not_digit allDigits ends
    have read := (readWord?_eq_some_iff _ _).2 integral
    rw [List.cons_append, argument, if_neg notQuote, if_pos begins]
    simp only [spanned, read]

/-- What is read as an argument is written so. -/
theorem exists_of_argument {t rest : Text} {found : Argument}
    (read : argument t = .ok (found, rest)) :
    ∃ written, t = written ++ rest ∧ WritesArgument found written := by
  unfold argument at read
  split at read
  · cases read
  · rename_i c later
    split at read
    · rename_i isQuote
      split at read
      · rename_i content behind closed
        cases read
        obtain ⟨written, rfl, quoted⟩ := (quotedContent?_eq_some_iff (notBackslash isQuote) _ _ _).1 closed
        exact ⟨c :: (written ++ [c]), by simp, .text isQuote quoted⟩
      · cases read
    · split at read
      · simp only at read
        split at read
        · rename_i n integral
          cases read
          obtain ⟨-, split⟩ := Numeral.spanDigits_split later
          refine ⟨c :: (spanDigits later).1, ?_, .integer ((readWord?_eq_some_iff _ _).1 integral)⟩
          rw [List.cons_append, ← split]
        · cases read
      · cases read

/-- An integer goes on neither with white space nor with what closes it. -/
theorem notDigit_behind_gap {gap rest : Text} {c : Char} (blank : Text.Blank gap)
    (closes : Text.isDigit c = false) :
    ∀ d more, gap ++ c :: rest = d :: more → Text.isDigit d = false := by
  intro d more same
  cases gap with
  | nil =>
    cases same
    exact closes
  | cons =>
    cases same
    exact Text.not_isDigit_of_isBlank (blank d List.mem_cons_self)

/-- An argument does not begin with white space. -/
theorem visible_of_writesArgument {found : Argument} {written : Text}
    (writes : WritesArgument found written) (rest : Text) : Text.Visible (written ++ rest) := by
  rintro c more same
  cases writes with
  | @text quote content inner isQuote _ =>
    cases same
    rcases isQuote with rfl | rfl
    · rfl
    · rfl
  | integer integral =>
    obtain ⟨d, digits, rfl, begins, -⟩ := begins_of_writesInteger integral
    cases same
    apply Bool.eq_false_iff.2
    intro blank
    rcases begins with rfl | rfl | digit
    · cases blank
    · cases blank
    · rw [Text.not_isDigit_of_isBlank blank] at digit
      cases digit

/-- Behind an argument that is read, a comma goes on with others and a parenthesis closes the
row. -/
theorem argumentsFrom_of_argument {t after others : Text} {first : Argument} {c : Char}
    (read : argument (Text.trimStart t) = .ok (first, after))
    (remaining : Text.trimStart after = c :: others) :
    argumentsFrom t =
      if c = ',' then (argumentsFrom others).map fun (more, rest) => (first :: more, rest)
      else if c = ')' then .ok ([first], others)
      else .error ⟨c :: others, .separatorExpected c⟩ := by
  rw [argumentsFrom]
  split
  · rename_i fault failed
    rw [read] at failed
    cases failed
  · rename_i found behind again
    rw [read] at again
    cases again
    split
    · rename_i ended
      rw [remaining] at ended
      cases ended
    · rename_i d more same
      rw [remaining] at same
      cases same
      split
      · cases argumentsFrom others <;> rfl
      · rfl

/-- An argument with white space around it is read in front of what ends it. -/
theorem argument_between {found : Argument} {before written behind : Text}
    (blankBefore : Text.Blank before) (writes : WritesArgument found written)
    (blankBehind : Text.Blank behind) {c : Char} (digit : Text.isDigit c = false)
    (blank : Text.isBlank c = false) (rest : Text) :
    ∃ after, argument (Text.trimStart (before ++ (written ++ (behind ++ c :: rest)))) =
        .ok (found, after) ∧ Text.trimStart after = c :: rest := by
  refine ⟨behind ++ c :: rest, ?_, ?_⟩
  · rw [Text.trimStart_append blankBefore,
      Text.trimStart_of_visible (visible_of_writesArgument writes _)]
    exact argument_append writes (notDigit_behind_gap blankBehind digit)
  · rw [Text.trimStart_append blankBehind]
    apply Text.trimStart_of_visible
    intro d more same
    cases same
    exact blank

/-- Arguments are read where they are written, up to the closing parenthesis. -/
theorem argumentsFrom_append {found : List Argument} {written : Text}
    (writes : WritesArguments found written) (nonempty : found ≠ []) (rest : Text) :
    argumentsFrom (written ++ ')' :: rest) = .ok (found, rest) := by
  induction writes with
  | nil _ => exact absurd rfl nonempty
  | @last before behind written only blankBefore one blankBehind =>
    obtain ⟨after, read, remaining⟩ := argument_between blankBefore one blankBehind
      (c := ')') rfl rfl rest
    simp only [List.append_assoc]
    rw [argumentsFrom_of_argument read remaining]
    rfl
  | @cons before behind written later first second others blankBefore one blankBehind _
      inductionHypothesis =>
    obtain ⟨after, read, remaining⟩ := argument_between blankBefore one blankBehind
      (c := ',') rfl rfl (later ++ ')' :: rest)
    have more := inductionHypothesis (List.cons_ne_nil second others)
    simp only [List.append_assoc, List.cons_append]
    rw [argumentsFrom_of_argument read remaining, if_pos rfl, more]
    rfl

/-- What is read as an argument behind white space is written there, with white space around it. -/
theorem exists_between {t after : Text} {found : Argument}
    (read : argument (Text.trimStart t) = .ok (found, after)) :
    ∃ before written behind, Text.Blank before ∧ WritesArgument found written ∧
      Text.Blank behind ∧ t = before ++ (written ++ (behind ++ Text.trimStart after)) := by
  obtain ⟨-, before, blankBefore, first⟩ := Text.exists_gap t
  obtain ⟨written, second, writes⟩ := exists_of_argument read
  obtain ⟨-, behind, blankBehind, third⟩ := Text.exists_gap after
  exact ⟨before, written, behind, blankBefore, writes, blankBehind,
    by rw [← third, ← second, ← first]⟩

/-- What is read as arguments is written so in front of the closing parenthesis. -/
theorem exists_of_argumentsFrom {t rest : Text} {found : List Argument}
    (read : argumentsFrom t = .ok (found, rest)) :
    ∃ written, t = written ++ ')' :: rest ∧ WritesArguments found written ∧ found ≠ [] := by
  fun_induction argumentsFrom t generalizing found rest with
  | case1 | case2 | case3 | case6 => cases read
  | case4 t first after one others more last moreRead remaining _ inductionHypothesis =>
    cases read
    obtain ⟨before, written, behind, blankBefore, writes, blankBehind, split⟩ := exists_between one
    obtain ⟨later, rfl, writesMore, nonempty⟩ := inductionHypothesis moreRead
    obtain ⟨second, further, rfl⟩ := List.exists_cons_of_ne_nil nonempty
    refine ⟨_, ?_, .cons blankBefore writes blankBehind writesMore, by simp⟩
    simp [split, remaining]
  | case5 t first after one others remaining _ =>
    cases read
    obtain ⟨before, written, behind, blankBefore, writes, blankBehind, split⟩ := exists_between one
    refine ⟨_, ?_, .last blankBefore writes blankBehind, by simp⟩
    simp [split, remaining]

/-- No argument begins with a closing parenthesis. -/
theorem argument_closeParen (rest : Text) :
    argument (')' :: rest) = .error ⟨')' :: rest, .unexpectedInArgument ')'⟩ := rfl

/-- Arguments behind an opening parenthesis are read exactly where they are written in front of the
closing one. -/
theorem arguments_eq_ok_iff (t rest : Text) (found : List Argument) :
    arguments t = .ok (found, rest) ↔
      ∃ written, t = written ++ ')' :: rest ∧ WritesArguments found written := by
  constructor
  · intro read
    unfold arguments at read
    split at read
    · rename_i more closes
      cases read
      obtain ⟨-, gap, blank, split⟩ := Text.exists_gap t
      exact ⟨gap, by rw [← closes, ← split], .nil blank⟩
    · obtain ⟨written, split, writes, -⟩ := exists_of_argumentsFrom read
      exact ⟨written, split, writes⟩
  · rintro ⟨written, rfl, writes⟩
    by_cases none : found = []
    · subst none
      cases writes with
      | nil blank =>
        have closes : Text.trimStart (written ++ ')' :: rest) = ')' :: rest := by
          rw [Text.trimStart_append blank]
          rfl
        simp [arguments, closes]
    · have read := argumentsFrom_append writes none rest
      unfold arguments
      split
      · rename_i more closes
        unfold argumentsFrom at read
        split at read
        · cases read
        · rename_i first after one
          rw [closes, argument_closeParen] at one
          cases one
      · exact read

/-- A written name is the name without its underscores and in small letters. -/
theorem writesName_iff {name : Text} (noUnderscore : '_' ∉ name) (written : Text) :
    WritesName name written ↔
      (written.filter (· != '_')).map Text.lowerAscii = name.map Text.lowerAscii := by
  constructor
  · intro writes
    induction writes with
    | nil => rfl
    | underscore _ inductionHypothesis =>
      rw [List.filter_cons_of_neg (by simp), inductionHypothesis noUnderscore]
    | @letter c d name written same _ inductionHypothesis =>
      have plain : d ≠ '_' := by
        rintro rfl
        exact List.ne_of_not_mem_cons noUnderscore (Text.eq_underscore_of_lowerAscii same.symm).symm
      rw [List.filter_cons_of_pos (by simpa using plain), List.map_cons, List.map_cons, same,
        inductionHypothesis (List.not_mem_of_not_mem_cons noUnderscore)]
  · intro same
    induction written generalizing name with
    | nil =>
      cases name with
      | nil => exact .nil
      | cons => cases same
    | cons d written inductionHypothesis =>
      by_cases underscore : d = '_'
      · subst underscore
        rw [List.filter_cons_of_neg (by simp)] at same
        exact .underscore (inductionHypothesis noUnderscore same)
      · rw [List.filter_cons_of_pos (by simpa using underscore)] at same
        cases name with
        | nil => cases same
        | cons c name =>
          obtain ⟨first, others⟩ := List.cons.inj same
          exact .letter first
            (inductionHypothesis (List.not_mem_of_not_mem_cons noUnderscore) others)

/-- The operator of a name is the one that the name writes. -/
theorem operatorOf?_eq_some_iff (written : Text) (operator : Operator) :
    operatorOf? written = some operator ↔ WritesName operator.name.toList written := by
  have noUnderscore : '_' ∉ operator.name.toList := by
    intro member
    cases operator.isLetter_of_mem_name _ member
  rw [writesName_iff noUnderscore, operatorOf?]
  generalize (written.filter (· != '_')).map Text.lowerAscii = plain
  constructor
  · intro found
    -- One case for each of the names and one for none of them.
    repeat' split at found
    all_goals
      cases found
      try assumption
  · rintro rfl
    cases operator <;> decide

/-- An operation on two texts is made from two texts, and from nothing else. -/
theorem ofTexts_eq_ok_iff (name : Text) (build : Text → Text → Operation) (first second : String)
    (a b : Argument) (operation : Operation) :
    ofTexts name build first second a b = .ok operation ↔
      ∃ s t, a = .text s ∧ b = .text t ∧ operation = build s t := by
  cases a <;> cases b <;> simp [ofTexts, eq_comm]

/-- An operation is made from the name of its operator and from its arguments. -/
theorem operationOf?_eq_ok_iff (name : Text) (arguments : List Argument) (operation : Operation) :
    operationOf? name arguments = .ok operation ↔
      WritesName operation.operator.name.toList name ∧ arguments = operation.arguments := by
  rw [← operatorOf?_eq_some_iff]
  constructor
  · intro made
    unfold operationOf? at made
    split at made
    · cases made
    · rename_i operator named
      -- The rows of arguments that an operator takes, and those that it refuses.
      split at made
      case h_1 | h_2 | h_4 =>
        cases made
        exact ⟨named, rfl⟩
      case h_7 | h_8 | h_9 =>
        obtain ⟨s, t, rfl, rfl, rfl⟩ := (ofTexts_eq_ok_iff _ _ _ _ _ _ _).1 made
        exact ⟨named, rfl⟩
      case h_3 | h_5 | h_6 | h_10 => cases made
  · rintro ⟨named, rfl⟩
    cases operation
    all_goals
      simp only [Operation.operator] at named
      simp [operationOf?, named, Operation.arguments, ofTexts]

/-- A name that has letters is written in letters and underscores. -/
theorem inName_of_writesName {name written : Text} (letters : ∀ c ∈ name, Text.isLetter c = true)
    (writes : WritesName name written) : ∀ d ∈ written, inName d = true := by
  induction writes with
  | nil => simp
  | underscore _ inductionHypothesis =>
    exact List.forall_mem_cons.2 ⟨rfl, inductionHypothesis letters⟩
  | @letter c d name written same _ inductionHypothesis =>
    obtain ⟨first, others⟩ := List.forall_mem_cons.1 letters
    have letter : Text.isLetter d = true := by
      rw [← Text.isLetter_lowerAscii, same, Text.isLetter_lowerAscii]
      exact first
    exact List.forall_mem_cons.2 ⟨by simp [inName, letter], inductionHypothesis others⟩

/-- A name that has letters is not written as nothing. -/
theorem ne_nil_of_writesName {name written : Text} (nonempty : name ≠ [])
    (writes : WritesName name written) : written ≠ [] := by
  cases writes with
  | nil => exact absurd rfl nonempty
  | underscore => simp
  | letter => simp

/-- White space does not stand in a name. -/
theorem not_inName_of_isBlank {c : Char} (blank : Text.isBlank c = true) : inName c = false := by
  have noUnderscore : c ≠ '_' := by
    rintro rfl
    cases blank
  simp [inName, Text.not_isLetter_of_isBlank blank, Text.not_isDigit_of_isBlank blank,
    noUnderscore]

/-- A name does not go on with white space, nor with what behind it opens the arguments. -/
theorem notInName_behind_gap {gap : Text} (blank : Text.Blank gap) (rest : Text) :
    ∀ d more, gap ++ '(' :: rest = d :: more → inName d = false := by
  intro d more same
  cases gap with
  | nil =>
    cases same
    rfl
  | cons =>
    cases same
    exact not_inName_of_isBlank (blank d List.mem_cons_self)

/-- A stage is read exactly where it is written, whatever follows it. -/
theorem stage_eq_ok_iff (t rest : Text) (operation : Operation) :
    stage t = .ok (operation, rest) ↔
      ∃ written, t = written ++ rest ∧ WritesStage operation written := by
  constructor
  · intro read
    unfold stage at read
    have split : (Text.spanWhile inName t).1 ++ (Text.spanWhile inName t).2 = t :=
      List.takeWhile_append_dropWhile
    revert read split
    generalize Text.spanWhile inName t = spanned
    obtain ⟨name, after⟩ := spanned
    intro read split
    simp only at read split
    split at read
    · cases read
    · split at read
      · cases read
      · rename_i c inner opens
        split at read
        · rename_i paren
          split at read
          · cases read
          · rename_i found behind closed
            split at read
            · cases read
            · rename_i made
              cases read
              obtain ⟨-, gap, blank, passed⟩ := Text.exists_gap after
              obtain ⟨written, rfl, row⟩ := (arguments_eq_ok_iff _ _ _).1 closed
              obtain ⟨named, rfl⟩ := (operationOf?_eq_ok_iff _ _ _).1 made
              refine ⟨_, ?_, .call named blank row⟩
              rw [← split, passed, opens, paren]
              simp
        · cases read
  · rintro ⟨_, rfl, writes⟩
    obtain ⟨named, blank, row⟩ := writes
    rename_i name gap inner
    have nonempty := ne_nil_of_writesName operation.operator.name_ne_nil named
    -- The name ends where the white space or the parenthesis behind it begins.
    have spanned := Text.spanWhile_append_of_ends
      (inName_of_writesName operation.operator.isLetter_of_mem_name named)
      (notInName_behind_gap blank (inner ++ ')' :: rest))
    have opened : Text.trimStart (gap ++ '(' :: (inner ++ ')' :: rest)) =
        '(' :: (inner ++ ')' :: rest) := by
      rw [Text.trimStart_append blank]
      rfl
    have closed := (arguments_eq_ok_iff (inner ++ ')' :: rest) rest _).2 ⟨inner, rfl, row⟩
    have made := (operationOf?_eq_ok_iff name _ operation).2 ⟨named, rfl⟩
    simp only [List.append_assoc, List.cons_append, List.nil_append]
    simp only [stage, spanned, nonempty, if_false, opened, if_true,
      closed, made]

/-- A stage does not begin with white space. -/
theorem visible_of_writesStage {operation : Operation} {written : Text}
    (writes : WritesStage operation written) (rest : Text) : Text.Visible (written ++ rest) := by
  obtain ⟨named, -, -⟩ := writes
  rename_i name gap inner
  intro c more same
  obtain ⟨first, others, rfl⟩ :=
    List.exists_cons_of_ne_nil (ne_nil_of_writesName operation.operator.name_ne_nil named)
  have inside := inName_of_writesName operation.operator.isLetter_of_mem_name named first
    List.mem_cons_self
  cases same
  apply Bool.eq_false_iff.2
  intro blank
  rw [not_inName_of_isBlank blank] at inside
  cases inside

end Rule

end InputDeck
