import InputDeck.Proofs.Report.Endings
import InputDeck.Text.Slices

/-!
# Reading a pipeline at offsets

A pipeline can be read with the whole text at hand and an offset in bytes that is moved along: by
one character, by the chain token, and back by one character where a fault is reported. What stands
at an offset is sliced off each time, and there is no slice where the offset falls into a character
or behind the end.

Reading so, no slice is ever missing and every round of a loop gets ahead. The answer is the one
of the readers that take texts: an offset always is the length of what stands before the text that
is left.
-/

namespace InputDeck.Rule.Cursor

/-- What has been read and the offset behind it, or an error. A reader answers neither where a
slice does not exist or a loop does not get ahead. -/
abbrev Located (α : Type) := Except PipelineError (α × Nat)

variable (t : Text)

/-- The text behind an offset. -/
def rest? (offset : Nat) : Option Text := (t.cut? offset).map Prod.snd

variable {t} in
/-- Behind an offset where a character stands the text goes on with it. -/
theorem lt_of_rest? {offset : Nat} {c : Char} {rest : Text}
    (found : rest? t offset = some (c :: rest)) :
    offset < offset + c.utf8Size ∧ offset + c.utf8Size ≤ t.byteLength := by
  obtain ⟨⟨before, behind⟩, cut, same⟩ := Option.map_eq_some_iff.1 found
  obtain ⟨rfl, rfl⟩ := (Text.cut?_eq_some_iff _ _ _ _).1 cut
  cases same
  have positive := c.utf8Size_pos
  rw [Text.byteLength_append, Text.byteLength]
  omega

/-- The offset one character before another one, unless that is before the beginning. -/
def stepBack? (offset : Nat) (c : Char) : Option Nat :=
  if c.utf8Size ≤ offset then some (offset - c.utf8Size) else none

/-- The offset behind the characters of a class that stand at an offset. -/
def skip? (inClass : Char → Bool) (offset : Nat) : Option Nat :=
  match found : rest? t offset with
  | none => none
  | some [] => some offset
  | some (c :: _) =>
    if inClass c then
      have _ahead := lt_of_rest? found
      skip? inClass (offset + c.utf8Size)
    else some offset
termination_by t.byteLength - offset

/-- The text from an offset on up to the closing quote, behind what has been read of it. -/
def quoted? (quote : Char) (opening : Nat) (content : Text) (offset : Nat) :
    Option (Located Text) :=
  match found : rest? t offset with
  | none => none
  | some [] => some (.error ⟨opening, .unterminatedString⟩)
  | some (c :: _) =>
    have _ahead := lt_of_rest? found
    if c = '\\' then
      match escaped : rest? t (offset + c.utf8Size) with
      | none => none
      | some [] => some (.error ⟨opening, .unterminatedString⟩)
      | some (d :: _) =>
        have _further := lt_of_rest? escaped
        quoted? quote opening (content ++ [unescaped d]) (offset + c.utf8Size + d.utf8Size)
    else if c = quote then some (.ok (content, offset + c.utf8Size))
    else quoted? quote opening (content ++ [c]) (offset + c.utf8Size)
termination_by t.byteLength - offset

/-- The argument at an offset. -/
def argument? (offset : Nat) : Option (Located Argument) := do
  match ← rest? t offset with
  | [] => return .error ⟨offset, .missingArgument⟩
  | c :: _ =>
    let behind := offset + c.utf8Size
    if c = '"' ∨ c = '\'' then
      let opening ← stepBack? behind c
      return (← quoted? t c opening [] behind).map fun (content, stop) => (.text content, stop)
    else if c = '-' ∨ c = '+' ∨ Text.isDigit c then
      let stop ← skip? t Text.isDigit behind
      match readWord? (← t.slice? offset stop) with
      | some n => return .ok (.integer n, stop)
      | none => return .error ⟨offset, .badInteger⟩
    else return .error ⟨offset, .unexpectedInArgument c⟩

/-- The arguments from an offset on, one at least, up to the closing parenthesis. -/
def argumentsFrom? (offset : Nat) : Option (Located (List Argument)) := do
  let start ← skip? t Text.isBlank offset
  match ← argument? t start with
  | .error error => return .error error
  | .ok (first, stop) =>
    let next ← skip? t Text.isBlank stop
    match ← rest? t next with
    | [] => return .error ⟨next, .unterminatedArguments⟩
    | c :: _ =>
      let behind := next + c.utf8Size
      if c = ',' then
        -- A round that does not get ahead answers nothing; `ofText?_eq_some` says there is none.
        if _ahead : offset < behind ∧ behind ≤ t.byteLength then
          return (← argumentsFrom? behind).map fun (more, stop) => (first :: more, stop)
        else none
      else if c = ')' then return .ok ([first], behind)
      else return .error ⟨← stepBack? behind c, .separatorExpected c⟩
termination_by t.byteLength - offset

/-- The arguments behind an opening parenthesis, with the closing one. -/
def arguments? (offset : Nat) : Option (Located (List Argument)) := do
  let start ← skip? t Text.isBlank offset
  match ← rest? t start with
  | ')' :: _ => return .ok ([], start + ')'.utf8Size)
  | _ => argumentsFrom? t start

/-- The stage at an offset. -/
def stage? (offset : Nat) : Option (Located Operation) := do
  let stop ← skip? t inName offset
  let name ← t.slice? offset stop
  if name = [] then return .error ⟨stop, .operatorExpected⟩
  else
    let next ← skip? t Text.isBlank stop
    match ← rest? t next with
    | [] => return .error ⟨next, .parenExpected none⟩
    | c :: _ =>
      if c = '(' then
        match ← arguments? t (next + c.utf8Size) with
        | .error error => return .error error
        | .ok (arguments, behind) =>
          match operationOf? name arguments with
          | .error fault => return .error ⟨offset, fault⟩
          | .ok operation => return .ok (operation, behind)
      else return .error ⟨next, .parenExpected (some c)⟩

/-- The stages from an offset on, each with the offset where it begins. -/
def stages? (chain : Text) (offset : Nat) :
    Option (Except PipelineError (List (Operation × Nat))) := do
  let start ← skip? t Text.isBlank offset
  match ← stage? t start with
  | .error error => return .error error
  | .ok (operation, stop) =>
    let next ← skip? t Text.isBlank stop
    match ← rest? t next with
    | [] => return .ok [(operation, start)]
    | c :: others =>
      match Text.after? chain (c :: others) with
      | none => return .error ⟨next, .chainExpected chain⟩
      | some _ =>
        let behind := next + chain.byteLength
        if _ahead : offset < behind ∧ behind ≤ t.byteLength then
          return (← stages? chain behind).map ((operation, start) :: ·)
        else none
termination_by t.byteLength - offset

/-- Reads the rule of an output at offsets of the text of its pipeline. -/
def ofText? (output chain : Text) : Option (Except PipelineError Rule) := do
  if Text.trim chain = [] then return .error ⟨0, .emptyChain⟩
  else
    match ← stages? t chain 0 with
    | .error error => return .error error
    | .ok found => return Rule.admit output (found.map (·.1)) (found.map (·.2))

variable {t : Text}

/-- The offset of an ending is no place outside of the text. -/
theorem rest?_positionOf {ending : Text} (ends : ending <:+ t) :
    rest? t (positionOf t ending) = some ending := by
  obtain ⟨before, split, place⟩ := exists_before ends
  have cut := (Text.cut?_eq_some_iff _ _ _ _).2 ⟨split, place.symm⟩
  rw [rest?, cut, Option.map_some]

/-- A part of the text is the slice between the offsets where it begins and where the rest does. -/
theorem slice?_positionOf {part rest : Text} (ends : part ++ rest <:+ t) :
    t.slice? (positionOf t (part ++ rest)) (positionOf t rest) = some part := by
  obtain ⟨before, split, place⟩ := exists_before ends
  rw [← positionOf_append ends]
  exact (Text.slice?_eq_some_iff _ _ _ _).2 ⟨before, rest, by simp [split], place, by rw [place]⟩

/-- A step back from behind a character is a step to the character. -/
theorem stepBack?_positionOf {c : Char} {rest : Text} (ends : c :: rest <:+ t) :
    stepBack? (positionOf t rest) c = some (positionOf t (c :: rest)) := by
  have moved := positionOf_cons ends
  rw [stepBack?, if_pos (by omega)]
  congr 1
  omega

/-- What a reader of texts answers, with the offset where the text begins that is left. -/
def located (t : Text) {α : Type} : Read α → Located α
  | .ok (found, rest) => .ok (found, positionOf t rest)
  | .error ⟨rest, fault⟩ => .error ⟨positionOf t rest, fault⟩

/-- Nothing is skipped at the end of the text. -/
theorem skip?_end (inClass : Char → Bool) {offset : Nat} (found : rest? t offset = some []) :
    skip? t inClass offset = some offset := by
  rw [skip?]
  split
  all_goals
    rename_i again
    cases again.symm.trans found
  rfl

/-- A character is skipped if it is in the class. -/
theorem skip?_cons (inClass : Char → Bool) {offset : Nat} {c : Char} {rest : Text}
    (found : rest? t offset = some (c :: rest)) :
    skip? t inClass offset =
      if inClass c then skip? t inClass (offset + c.utf8Size) else some offset := by
  rw [skip?]
  split
  all_goals
    rename_i again
    cases again.symm.trans found
  rfl

/-- Skipping goes to where the first character outside of the class stands. -/
theorem skip?_positionOf (inClass : Char → Bool) {ending : Text} (ends : ending <:+ t) :
    skip? t inClass (positionOf t ending) =
      some (positionOf t (ending.dropWhile inClass)) := by
  induction ending with
  | nil => exact skip?_end inClass (rest?_positionOf ends)
  | cons c rest inductionHypothesis =>
    rw [skip?_cons inClass (rest?_positionOf ends), positionOf_cons ends,
      inductionHypothesis ((List.suffix_cons c rest).trans ends), List.dropWhile_cons,
      apply_ite (fun left => some (positionOf t left))]

section

variable (quote : Char) (opening : Nat) (content : Text) {offset : Nat} {c d : Char}
  {rest later : Text}

/-- No text ends in quotes. -/
theorem quoted?_end (found : rest? t offset = some []) :
    quoted? t quote opening content offset = some (.error ⟨opening, .unterminatedString⟩) := by
  rw [quoted?]
  split
  all_goals
    rename_i again
    cases again.symm.trans found
  rfl

/-- No text ends behind a backslash in quotes. -/
theorem quoted?_backslash (found : rest? t offset = some ('\\' :: rest))
    (ended : rest? t (offset + '\\'.utf8Size) = some []) :
    quoted? t quote opening content offset = some (.error ⟨opening, .unterminatedString⟩) := by
  rw [quoted?]
  split
  all_goals
    rename_i again
    cases again.symm.trans found
  simp only [if_true]
  split
  all_goals
    rename_i next
    cases next.symm.trans ended
  rfl

/-- Behind a backslash a character is read for what it stands for. -/
theorem quoted?_escaped (found : rest? t offset = some ('\\' :: rest))
    (behind : rest? t (offset + '\\'.utf8Size) = some (d :: later)) :
    quoted? t quote opening content offset =
      quoted? t quote opening (content ++ [unescaped d])
        (offset + '\\'.utf8Size + d.utf8Size) := by
  rw [quoted?]
  split
  all_goals
    rename_i again
    cases again.symm.trans found
  simp only [if_true]
  split
  all_goals
    rename_i next
    cases next.symm.trans behind
  rfl

/-- Any other character is the quote that closes or is read as it is. -/
theorem quoted?_plain (found : rest? t offset = some (c :: rest)) (noBackslash : c ≠ '\\') :
    quoted? t quote opening content offset =
      if c = quote then some (.ok (content, offset + c.utf8Size))
      else quoted? t quote opening (content ++ [c]) (offset + c.utf8Size) := by
  rw [quoted?]
  split
  all_goals
    rename_i again
    cases again.symm.trans found
  rw [if_neg noBackslash]

end

/-- A character that neither is the last one nor stands before another one is no backslash, if no
backslash does so. -/
theorem ne_backslash {c : Char} {rest : Text} (lone : c = '\\' → rest = [] → False)
    (noEscape : ∀ d more, c = '\\' → rest = d :: more → False) : c ≠ '\\' := by
  intro backslash
  cases rest with
  | nil => exact lone backslash rfl
  | cons d more => exact noEscape d more backslash rfl

/-- Quoted text is read up to where the text behind its closing quote stands. -/
theorem quoted?_positionOf (quote : Char) (opening : Nat) (content : Text) {ending : Text}
    (ends : ending <:+ t) :
    quoted? t quote opening content (positionOf t ending) =
      some ((quotedContent? quote ending).elim (.error ⟨opening, .unterminatedString⟩)
        fun (inner, rest) => .ok (content ++ inner, positionOf t rest)) := by
  have found := rest?_positionOf ends
  fun_induction quotedContent? quote ending generalizing content with
  | case1 => exact quoted?_end quote opening content found
  | case2 =>
    have ended := rest?_positionOf (suffix_of_cons ends)
    rw [← positionOf_cons ends] at ended
    exact quoted?_backslash quote opening content found ended
  | case3 c rest inductionHypothesis =>
    have behind := suffix_of_cons ends
    have escaped := rest?_positionOf behind
    rw [← positionOf_cons ends] at escaped
    rw [quoted?_escaped quote opening content found escaped, positionOf_cons ends,
      positionOf_cons behind, inductionHypothesis _ (suffix_of_cons behind)
        (rest?_positionOf (suffix_of_cons behind))]
    cases quotedContent? quote rest <;> simp
  | case4 rest lone noEscape =>
    rw [quoted?_plain quote opening content found (ne_backslash lone noEscape), if_pos rfl,
      positionOf_cons ends]
    simp
  | case5 c rest lone noEscape notQuote inductionHypothesis =>
    have behind := suffix_of_cons ends
    rw [quoted?_plain quote opening content found (ne_backslash lone noEscape), if_neg notQuote,
      positionOf_cons ends, inductionHypothesis _ behind (rest?_positionOf behind)]
    cases quotedContent? quote rest <;> simp

/-- Quoted text at an offset is read as it is from a text. -/
theorem argument?_quote {c : Char} {rest : Text} (isQuote : c = '"' ∨ c = '\'')
    (ends : c :: rest <:+ t) :
    argument? t (positionOf t (c :: rest)) = some (located t (argument (c :: rest))) := by
  have found := rest?_positionOf ends
  have back := stepBack?_positionOf ends
  have opened := quoted?_positionOf c (positionOf t (c :: rest)) [] (suffix_of_cons ends)
  simp only [argument?, argument, found, isQuote, if_true, positionOf_cons ends, back, opened,
    Option.bind_eq_bind, Option.bind_some]
  cases quotedContent? c rest <;> rfl

/-- An integer at an offset is read as it is from a text. -/
theorem argument?_integer {c : Char} {rest : Text} (noQuote : ¬(c = '"' ∨ c = '\''))
    (begins : c = '-' ∨ c = '+' ∨ Text.isDigit c) (ends : c :: rest <:+ t) :
    argument? t (positionOf t (c :: rest)) = some (located t (argument (c :: rest))) := by
  have found := rest?_positionOf ends
  have skipped := skip?_positionOf Text.isDigit (suffix_of_cons ends)
  have split : c :: rest = (c :: rest.takeWhile Text.isDigit) ++ rest.dropWhile Text.isDigit := by
    rw [List.cons_append, List.takeWhile_append_dropWhile]
  have sliced : t.slice? (positionOf t (c :: rest)) (positionOf t (rest.dropWhile Text.isDigit)) =
      some (c :: rest.takeWhile Text.isDigit) := by
    rw [split] at ends ⊢
    exact slice?_positionOf ends
  simp only [argument?, argument, found, noQuote, if_false, begins, if_true, positionOf_cons ends,
    skipped, sliced, spanDigits, Text.spanWhile, Option.bind_eq_bind, Option.bind_some]
  cases readWord? (c :: rest.takeWhile Text.isDigit) <;> rfl

/-- An argument at an offset is read as it is from a text. -/
theorem argument?_positionOf {ending : Text} (ends : ending <:+ t) :
    argument? t (positionOf t ending) = some (located t (argument ending)) := by
  have found := rest?_positionOf ends
  cases ending with
  | nil => simp [argument?, argument, found, located]
  | cons c rest =>
    by_cases isQuote : c = '"' ∨ c = '\''
    · exact argument?_quote isQuote ends
    · by_cases begins : c = '-' ∨ c = '+' ∨ Text.isDigit c
      · exact argument?_integer isQuote begins ends
      · simp [argument?, argument, found, isQuote, begins, located]

/-- White space is skipped to where the text behind it stands. -/
theorem skip?_blank {ending : Text} (ends : ending <:+ t) :
    skip? t Text.isBlank (positionOf t ending) = some (positionOf t (Text.trimStart ending)) :=
  skip?_positionOf Text.isBlank ends

/-- Arguments are at fault where the first of them is. -/
theorem argumentsFrom?_of_error {ending : Text} {fault : ReadFault} (ends : ending <:+ t)
    (failed : argument (Text.trimStart ending) = .error fault) :
    argumentsFrom? t (positionOf t ending) =
      some (.error ⟨positionOf t fault.rest, fault.fault⟩) := by
  rw [argumentsFrom?]
  simp only [skip?_blank ends, argument?_positionOf (suffix_trimStart ends), failed, located,
    Option.bind_eq_bind, Option.bind_some, Option.pure_def]

/-- Arguments do not end with the text. -/
theorem argumentsFrom?_of_end {ending after : Text} {first : Argument} (ends : ending <:+ t)
    (read : argument (Text.trimStart ending) = .ok (first, after))
    (remaining : Text.trimStart after = []) :
    argumentsFrom? t (positionOf t ending) =
      some (.error ⟨positionOf t [], .unterminatedArguments⟩) := by
  have start := suffix_trimStart ends
  have stop := suffix_of_argument start read
  have next := suffix_trimStart stop
  rw [remaining] at next
  rw [argumentsFrom?]
  simp only [skip?_blank ends, argument?_positionOf start, read, located, skip?_blank stop,
    remaining, rest?_positionOf next, Option.bind_eq_bind, Option.bind_some, Option.pure_def]

/-- Behind an argument a comma goes on with others and a parenthesis closes the row. -/
theorem argumentsFrom?_of_argument {ending after others : Text} {first : Argument} {c : Char}
    (ends : ending <:+ t) (read : argument (Text.trimStart ending) = .ok (first, after))
    (remaining : Text.trimStart after = c :: others) :
    argumentsFrom? t (positionOf t ending) =
      if c = ',' then
        (argumentsFrom? t (positionOf t others)).map
          (Except.map fun (more, stop) => (first :: more, stop))
      else if c = ')' then some (.ok ([first], positionOf t others))
      else some (.error ⟨positionOf t (c :: others), .separatorExpected c⟩) := by
  have start := suffix_trimStart ends
  have stop := suffix_of_argument start read
  have left : c :: others <:+ ending :=
    remaining ▸ suffix_behind_argument (List.suffix_refl ending) read
  have next := left.trans ends
  have ahead := positionOf_lt ends (suffix_of_cons left) left.length_le
  rw [argumentsFrom?]
  simp only [skip?_blank ends, argument?_positionOf start, read, located, skip?_blank stop,
    remaining, rest?_positionOf next, positionOf_cons next, stepBack?_positionOf next, ahead,
    and_true, dite_true, Option.bind_eq_bind, Option.bind_some, Option.pure_def]
  cases argumentsFrom? t (positionOf t others) <;> rfl

/-- Arguments at an offset are read as they are from a text. -/
theorem argumentsFrom?_positionOf {ending : Text} (ends : ending <:+ t) :
    argumentsFrom? t (positionOf t ending) = some (located t (argumentsFrom ending)) := by
  fun_induction argumentsFrom ending with
  | case1 _ fault failed => exact argumentsFrom?_of_error ends failed
  | case2 _ first rest one remaining => exact argumentsFrom?_of_end ends one remaining
  | case3 ending first rest one others fault failed remaining _ inductionHypothesis =>
    have later := suffix_of_cons (remaining ▸ suffix_behind_argument ends one)
    rw [argumentsFrom?_of_argument ends one remaining, if_pos rfl, inductionHypothesis later,
      failed]
    rfl
  | case4 ending first rest one others more last read remaining _ inductionHypothesis =>
    have later := suffix_of_cons (remaining ▸ suffix_behind_argument ends one)
    rw [argumentsFrom?_of_argument ends one remaining, if_pos rfl, inductionHypothesis later,
      read]
    rfl
  | case5 ending first rest one others remaining noComma =>
    rw [argumentsFrom?_of_argument ends one remaining, if_neg noComma, if_pos rfl]
    rfl
  | case6 ending first rest one c others remaining noComma noParen =>
    rw [argumentsFrom?_of_argument ends one remaining, if_neg noComma, if_neg noParen]
    rfl

/-- White space in front of arguments does not count. -/
theorem argumentsFrom_trimStart (t : Text) :
    argumentsFrom (Text.trimStart t) = argumentsFrom t := by
  have again : Text.trimStart (Text.trimStart t) = Text.trimStart t :=
    Text.trimStart_of_visible (Text.exists_gap t).1
  rw [argumentsFrom, argumentsFrom]
  simp only
  rw [again]

/-- The arguments at an offset are read as they are from a text, with their closing parenthesis. -/
theorem arguments?_positionOf {ending : Text} (ends : ending <:+ t) :
    arguments? t (positionOf t ending) = some (located t (arguments ending)) := by
  have start := suffix_trimStart ends
  -- The readers of a row pass over the white space a second time where it has arguments.
  by_cases closes : ∃ rest, Text.trimStart ending = ')' :: rest
  · obtain ⟨rest, closes⟩ := closes
    have found := rest?_positionOf start
    rw [closes] at start found
    simp only [arguments?, arguments, skip?_blank ends, closes, found, positionOf_cons start,
      Option.bind_eq_bind, Option.bind_some]
    rfl
  · have plain : arguments ending = argumentsFrom ending := by
      unfold arguments
      split
      · rename_i rest same
        exact absurd ⟨rest, same⟩ closes
      · rfl
    rw [plain, ← argumentsFrom_trimStart, ← argumentsFrom?_positionOf start, arguments?]
    simp only [skip?_blank ends, rest?_positionOf start, Option.bind_eq_bind, Option.bind_some]
    split
    · rename_i rest same
      exact absurd ⟨rest, same⟩ closes
    · rfl

/-- The name at the beginning of an ending is the slice up to where the rest stands. -/
theorem slice?_takeWhile (inClass : Char → Bool) {ending : Text} (ends : ending <:+ t) :
    t.slice? (positionOf t ending) (positionOf t (ending.dropWhile inClass)) =
      some (ending.takeWhile inClass) := by
  have split : ending.takeWhile inClass ++ ending.dropWhile inClass = ending :=
    List.takeWhile_append_dropWhile
  have sliced := slice?_positionOf (split.symm ▸ ends)
  rwa [split] at sliced

/-- Without a name there is no stage at an offset, as there is none in a text. -/
theorem stage?_unnamed {ending : Text} (ends : ending <:+ t)
    (unnamed : ending.takeWhile inName = []) :
    stage? t (positionOf t ending) = some (located t (stage ending)) := by
  have all : ending.dropWhile inName = ending := by
    simpa [unnamed] using ending.takeWhile_append_dropWhile (p := inName)
  simp only [stage?, stage, skip?_positionOf inName ends, slice?_takeWhile inName ends,
    Text.spanWhile, Option.bind_eq_bind, Option.bind_some, unnamed, if_true]
  rw [all]
  rfl

/-- A stage at an offset is read as it is from a text. -/
theorem stage?_positionOf {ending : Text} (ends : ending <:+ t) :
    stage? t (positionOf t ending) = some (located t (stage ending)) := by
  have stop : ending.dropWhile inName <:+ t := (List.dropWhile_suffix inName).trans ends
  have next := suffix_trimStart stop
  have found := rest?_positionOf next
  by_cases unnamed : ending.takeWhile inName = []
  · exact stage?_unnamed ends unnamed
  · simp only [stage?, stage, skip?_positionOf inName ends, slice?_takeWhile inName ends,
      skip?_blank stop, Text.spanWhile, Option.bind_eq_bind, Option.bind_some, unnamed, if_false]
    cases remaining : Text.trimStart (ending.dropWhile inName) with
    | nil =>
      rw [remaining] at found
      simp only [found, Option.bind_some]
      rfl
    | cons c inner =>
      rw [remaining] at found next
      simp only [found, positionOf_cons next, arguments?_positionOf (suffix_of_cons next),
        Option.bind_some]
      by_cases opens : c = '('
      · rw [if_pos opens, if_pos opens]
        cases arguments inner with
        | error fault => rfl
        | ok read =>
          obtain ⟨arguments, behind⟩ := read
          simp only [located]
          cases operationOf? (ending.takeWhile inName) arguments <;> rfl
      · rw [if_neg opens, if_neg opens]
        rfl

/-- The stages with the offsets where they begin, or the error. -/
def locatedStages (t : Text) :
    Except ReadFault (List (Operation × Text)) → Except PipelineError (List (Operation × Nat))
  | .ok found => .ok (found.map fun (operation, begins) => (operation, positionOf t begins))
  | .error ⟨rest, fault⟩ => .error ⟨positionOf t rest, fault⟩

section

variable (chain : Text) {ending : Text} (ends : ending <:+ t)

include ends

/-- Stages are at fault where the first of them is. -/
theorem stages?_of_error {fault : ReadFault}
    (failed : stage (Text.trimStart ending) = .error fault) :
    stages? t chain (positionOf t ending) =
      some (.error ⟨positionOf t fault.rest, fault.fault⟩) := by
  rw [stages?]
  simp only [skip?_blank ends, stage?_positionOf (suffix_trimStart ends), failed, located,
    Option.bind_eq_bind, Option.bind_some, Option.pure_def]

variable {rest : Text} {operation : Operation}
  (read : stage (Text.trimStart ending) = .ok (operation, rest))

include read

/-- A text ends behind its last stage. -/
theorem stages?_of_end (remaining : Text.trimStart rest = []) :
    stages? t chain (positionOf t ending) =
      some (.ok [(operation, positionOf t (Text.trimStart ending))]) := by
  have start := suffix_trimStart ends
  have stop := suffix_of_stage start read
  have next := suffix_trimStart stop
  rw [remaining] at next
  rw [stages?]
  simp only [skip?_blank ends, stage?_positionOf start, read, located, skip?_blank stop,
    remaining, rest?_positionOf next, Option.bind_eq_bind, Option.bind_some, Option.pure_def]

/-- Without a chain token behind it a stage is the last one. -/
theorem stages?_of_noChain {c : Char} {others : Text}
    (remaining : Text.trimStart rest = c :: others)
    (missing : Text.after? chain (c :: others) = none) :
    stages? t chain (positionOf t ending) =
      some (.error ⟨positionOf t (c :: others), .chainExpected chain⟩) := by
  have start := suffix_trimStart ends
  have stop := suffix_of_stage start read
  have next := suffix_trimStart stop
  rw [remaining] at next
  rw [stages?]
  simp only [skip?_blank ends, stage?_positionOf start, read, located, skip?_blank stop,
    remaining, rest?_positionOf next, missing, Option.bind_eq_bind, Option.bind_some,
    Option.pure_def]

/-- Behind a chain token there are further stages. -/
theorem stages?_of_chain {c : Char} {others behind : Text}
    (remaining : Text.trimStart rest = c :: others)
    (chained : Text.after? chain (c :: others) = some behind) :
    stages? t chain (positionOf t ending) =
      (stages? t chain (positionOf t behind)).map
        (Except.map ((operation, positionOf t (Text.trimStart ending)) :: ·)) := by
  have start := suffix_trimStart ends
  have stop := suffix_of_stage start read
  have next := suffix_trimStart stop
  rw [remaining] at next
  have token := (Text.after?_eq_some_iff _ _ _).1 chained
  have moved : positionOf t (c :: others) + chain.byteLength = positionOf t behind := by
    rw [token] at next ⊢
    exact positionOf_append next
  have left : behind <:+ rest := by
    have passed : c :: others <:+ rest := remaining ▸ List.dropWhile_suffix Text.isBlank
    rw [token] at passed
    exact (List.suffix_append chain behind).trans passed
  -- The stage takes a character, so the search gets ahead whatever the token.
  have ahead := positionOf_lt ends
    (left.trans (suffix_of_stage (List.dropWhile_suffix Text.isBlank) read))
    (left.length_le.trans_lt ((length_stage_lt read).trans_le (length_trimStart_le ending)))
  rw [stages?]
  simp only [skip?_blank ends, stage?_positionOf start, read, located, skip?_blank stop,
    remaining, rest?_positionOf next, chained, moved, ahead, and_true, dite_true,
    Option.bind_eq_bind, Option.bind_some, Option.pure_def]
  cases stages? t chain (positionOf t behind) <;> rfl

end

/-- The stages at an offset are read as they are from a text. -/
theorem stages?_positionOf (chain : Text) {ending : Text} (ends : ending <:+ t) :
    stages? t chain (positionOf t ending) = some (locatedStages t (stages chain ending)) := by
  fun_induction stages chain ending with
  | case1 ending start fault failed => exact stages?_of_error chain ends failed
  | case2 ending start operation rest one remaining =>
    exact stages?_of_end chain ends one remaining
  | case3 ending start operation rest one c others remaining missing =>
    exact stages?_of_noChain chain ends one remaining missing
  | case4 ending start operation rest one c others remaining behind chained _ fault failed
      inductionHypothesis =>
    have later := suffix_behind_chain ends one (remaining ▸ chained)
    rw [stages?_of_chain chain ends one remaining chained, inductionHypothesis later, failed]
    rfl
  | case5 ending start operation rest one c others remaining behind chained _ more taken
      inductionHypothesis =>
    have later := suffix_behind_chain ends one (remaining ▸ chained)
    rw [stages?_of_chain chain ends one remaining chained, inductionHypothesis later, taken]
    rfl

/-- Reading a rule at offsets never misses a slice, always gets ahead, and answers as reading it
from texts does. -/
theorem ofText?_eq_some (output chain t : Text) :
    ofText? t output chain = some (Rule.ofText? output t chain) := by
  have read := stages?_positionOf chain (List.suffix_refl t)
  rw [positionOf, Nat.sub_self] at read
  rw [ofText?, Rule.ofText?]
  split
  · rfl
  · simp only [read, Option.bind_eq_bind, Option.bind_some]
    cases stages chain t with
    | error fault => rfl
    | ok found =>
      simp only [locatedStages, List.map_map]
      rfl

end InputDeck.Rule.Cursor
