import InputDeck.Report.Rule

/-!
# Reading a pipeline

The stages of a pipeline stand behind one another with a chain token between them. A stage is the
name of an operator, in letters of either case and with underscores anywhere, and arguments in
parentheses: text in quotes of either kind, or an integer. In quotes a backslash before `n` or
`t` stands for a newline or a tabulator, and before any other character for that character; the
chain token, commas and parentheses are text there. White space may stand around stages, names and
arguments.

Each reader answers with the text that is left. A fault is kept with the text that begins there,
and its position is the length of the text before: so it lies within the text and between two
characters, whatever the text.
-/

namespace InputDeck

/-- A fault, and the text that begins where it lies. -/
structure ReadFault where
  rest : Text
  fault : PipelineFault

/-- What has been read, and the text that is left. -/
abbrev Read (α : Type) := Except ReadFault (α × Text)

/-- An argument of a stage. -/
inductive Argument where
  | text (t : Text)
  | integer (n : Int64)
deriving DecidableEq

namespace Rule

/-- White space does not make the text longer when it is passed over. -/
theorem length_trimStart_le (t : Text) : (Text.trimStart t).length ≤ t.length :=
  (List.dropWhile_sublist Text.isBlank).length_le

/-- What a character behind a backslash stands for. -/
def unescaped (c : Char) : Char := if c = 'n' then '\n' else if c = 't' then '\t' else c

/-- The text up to the closing quote, and the text behind it. -/
def quotedContent? (quote : Char) : Text → Option (Text × Text)
  | [] => none
  | ['\\'] => none
  | '\\' :: c :: rest =>
    (quotedContent? quote rest).map fun (content, rest) => (unescaped c :: content, rest)
  | c :: rest =>
    if c = quote then some ([], rest)
    else (quotedContent? quote rest).map fun (content, rest) => (c :: content, rest)

/-- The closing quote takes a character. -/
theorem length_quotedContent?_lt {quote : Char} {t content rest : Text}
    (found : quotedContent? quote t = some (content, rest)) : rest.length < t.length := by
  fun_induction quotedContent? quote t generalizing content with
  | case1 => simp at found
  | case2 => simp at found
  | case3 c tail inductionHypothesis =>
    simp only [Option.map_eq_some_iff, Prod.mk.injEq] at found
    obtain ⟨⟨inner, outer⟩, behind, -, rfl⟩ := found
    have shorter : outer.length < _ := inductionHypothesis behind
    simp only [List.length_cons]
    omega
  | case4 tail =>
    simp only [Option.some.injEq, Prod.mk.injEq] at found
    obtain ⟨-, rfl⟩ := found
    simp
  | case5 c tail _ _ _ inductionHypothesis =>
    simp only [Option.map_eq_some_iff, Prod.mk.injEq] at found
    obtain ⟨⟨inner, outer⟩, behind, -, rfl⟩ := found
    have shorter : outer.length < _ := inductionHypothesis behind
    simp only [List.length_cons]
    omega

/-- An argument at the beginning of a text. -/
def argument (t : Text) : Read Argument :=
  match t with
  | [] => .error ⟨t, .missingArgument⟩
  | c :: rest =>
    if c = '"' ∨ c = '\'' then
      match quotedContent? c rest with
      | some (content, rest) => .ok (.text content, rest)
      | none => .error ⟨t, .unterminatedString⟩
    else if c = '-' ∨ c = '+' ∨ Text.isDigit c then
      let (digits, rest) := spanDigits rest
      match readWord? (c :: digits) with
      | some n => .ok (.integer n, rest)
      | none => .error ⟨t, .badInteger⟩
    else .error ⟨t, .unexpectedInArgument c⟩

/-- An argument takes at least one character. -/
theorem length_argument_lt {t rest : Text} {found : Argument}
    (taken : argument t = .ok (found, rest)) : rest.length < t.length := by
  unfold argument at taken
  split at taken
  · cases taken
  · rename_i c tail
    split at taken
    · split at taken
      · rename_i closed
        cases taken
        have shorter := length_quotedContent?_lt closed
        simp only [List.length_cons]
        omega
      · cases taken
    · split at taken
      · simp only at taken
        split at taken
        · cases taken
          have shorter := Text.length_spanWhile_le Text.isDigit tail
          simp only [spanDigits, List.length_cons]
          omega
        · cases taken
      · cases taken

/-- The arguments that follow, one at least, up to the closing parenthesis. -/
def argumentsFrom (t : Text) : Read (List Argument) :=
  match taken : argument (Text.trimStart t) with
  | .error fault => .error fault
  | .ok (first, rest) =>
    match remaining : Text.trimStart rest with
    | [] => .error ⟨[], .unterminatedArguments⟩
    | c :: others =>
      if c = ',' then
        have _shorter : others.length < t.length := by
          have first := length_argument_lt taken
          have before := length_trimStart_le t
          have behind := length_trimStart_le rest
          rw [remaining, List.length_cons] at behind
          omega
        match argumentsFrom others with
        | .error fault => .error fault
        | .ok (more, rest) => .ok (first :: more, rest)
      else if c = ')' then .ok ([first], others)
      else .error ⟨c :: others, .separatorExpected c⟩
termination_by t.length

/-- Arguments and the closing parenthesis take at least one character. -/
theorem length_argumentsFrom_lt {t rest : Text} {found : List Argument}
    (taken : argumentsFrom t = .ok (found, rest)) : rest.length < t.length := by
  induction bound : t.length using Nat.strongRecOn generalizing t rest found with
  | _ bound inductionHypothesis =>
    subst bound
    unfold argumentsFrom at taken
    split at taken
    · cases taken
    · rename_i first after one
      have oneShorter := length_argument_lt one
      have before := length_trimStart_le t
      have behind := length_trimStart_le after
      split at taken
      · cases taken
      · rename_i c others remaining
        rw [remaining, List.length_cons] at behind
        split at taken
        · simp only at taken
          split at taken
          · cases taken
          · rename_i more last rest'
            cases taken
            have shorter := inductionHypothesis others.length (by omega) rest' rfl
            omega
        · split at taken
          · cases taken
            omega
          · cases taken

/-- The arguments behind an opening parenthesis, with the closing one. -/
def arguments (t : Text) : Read (List Argument) :=
  match Text.trimStart t with
  | ')' :: rest => .ok ([], rest)
  | _ => argumentsFrom t

/-- Arguments with their closing parenthesis take at least one character. -/
theorem length_arguments_lt {t rest : Text} {found : List Argument}
    (taken : arguments t = .ok (found, rest)) : rest.length < t.length := by
  unfold arguments at taken
  split at taken
  · rename_i closes
    cases taken
    have before := length_trimStart_le t
    rw [closes, List.length_cons] at before
    omega
  · exact length_argumentsFrom_lt taken

/-- The operator with a name, which may have capitals and underscores. -/
def operatorOf? (name : Text) : Option Operator :=
  let plain := (name.filter (· != '_')).map Text.lowerAscii
  if plain = "grep".toList then some .grep
  else if plain = "get".toList then some .get
  else if plain = "cut".toList then some .cut
  else if plain = "replace".toList then some .replace
  else if plain = "substring".toList then some .substring
  else if plain = "asnumeric".toList then some .asNumeric
  else none

/-- The number of arguments of an operator. -/
def arity : Operator → Nat
  | .asNumeric => 0
  | .get => 1
  | _ => 2

/-- An operation on two texts. -/
def ofTexts (name : Text) (build : Text → Text → Operation) (first second : String) :
    Argument → Argument → Except PipelineFault Operation
  | .text s, .text t => .ok (build s t)
  | .text _, .integer _ => .error (.textExpected name second)
  | .integer _, _ => .error (.textExpected name first)

/-- The operation of an operator, as it was named, and its arguments. -/
def operationOf? (name : Text) (arguments : List Argument) : Except PipelineFault Operation :=
  match operatorOf? name with
  | none => .error (.unknownOperator name)
  | some operator =>
    match operator, arguments with
    | .asNumeric, [] => .ok .asNumeric
    | .get, [.integer index] => .ok (.get index)
    | .get, [.text _] => .error (.indexExpected name)
    | .cut, [.text delimiter, .integer index] => .ok (.cut delimiter index)
    | .cut, [.text _, .text _] => .error (.indexExpected name)
    | .cut, [.integer _, _] => .error (.textExpected name "delimiter")
    | .grep, [first, second] => ofTexts name .grep "pattern" "file glob" first second
    | .replace, [first, second] => ofTexts name .replace "old text" "new text" first second
    | .substring, [first, second] =>
      ofTexts name .substring "start marker" "end marker" first second
    | operator, arguments => .error (.wrongArity name (arity operator) arguments.length)

/-- The characters of an operator's name. -/
def inName (c : Char) : Bool := Text.isLetter c || Text.isDigit c || c == '_'

/-- A stage at the beginning of a text. -/
def stage (t : Text) : Read Operation :=
  let (name, rest) := Text.spanWhile inName t
  if name = [] then .error ⟨t, .operatorExpected⟩
  else
    match Text.trimStart rest with
    | [] => .error ⟨[], .parenExpected none⟩
    | c :: inner =>
      if c = '(' then
        match arguments inner with
        | .error fault => .error fault
        | .ok (arguments, rest) =>
          match operationOf? name arguments with
          | .error fault => .error ⟨t, fault⟩
          | .ok operation => .ok (operation, rest)
      else .error ⟨c :: inner, .parenExpected (some c)⟩

/-- A stage takes at least one character. -/
theorem length_stage_lt {t rest : Text} {found : Operation}
    (taken : stage t = .ok (found, rest)) : rest.length < t.length := by
  unfold stage at taken
  have named := Text.length_spanWhile_le inName t
  revert taken named
  generalize Text.spanWhile inName t = split
  obtain ⟨name, after⟩ := split
  intro taken named
  simp only at taken named
  split at taken
  · cases taken
  · split at taken
    · cases taken
    · rename_i c inner opens
      have before := length_trimStart_le after
      rw [opens, List.length_cons] at before
      split at taken
      · split at taken
        · cases taken
        · rename_i closed
          have shorter := length_arguments_lt closed
          split at taken
          · cases taken
          · cases taken
            omega
      · cases taken

/-- The stages of a text, each with the text that begins with it. -/
def stages (chain t : Text) : Except ReadFault (List (Operation × Text)) :=
  let begins := Text.trimStart t
  match taken : stage begins with
  | .error fault => .error fault
  | .ok (operation, rest) =>
    match remaining : Text.trimStart rest with
    | [] => .ok [(operation, begins)]
    | c :: others =>
      match chained : Text.after? chain (c :: others) with
      | none => .error ⟨c :: others, .chainExpected chain⟩
      | some next =>
        have _shorter : next.length < t.length := by
          have first := length_stage_lt taken
          have before := length_trimStart_le t
          have behind := length_trimStart_le rest
          have written := congrArg List.length ((Text.after?_eq_some_iff _ _ _).1 chained)
          rw [remaining] at behind
          simp only [List.length_append] at written
          simp only [begins] at first
          omega
        match stages chain next with
        | .error fault => .error fault
        | .ok more => .ok ((operation, begins) :: more)
termination_by t.length

/-- The byte of a text at which one of its endings begins. -/
def positionOf (t ending : Text) : Nat := Text.byteLength t - Text.byteLength ending

/-- Reads the rule of an output from the text of a pipeline, with a chain token that is not
blank. -/
def ofText? (output t chain : Text) : Except PipelineError Rule :=
  if Text.trim chain = [] then .error ⟨0, .emptyChain⟩
  else
    match stages chain t with
    | .error ⟨rest, fault⟩ => .error ⟨positionOf t rest, fault⟩
    | .ok found =>
      Rule.admit output (found.map (·.1)) (found.map fun (_, begins) => positionOf t begins)

end Rule

/-- What a rule is made from: operations, or the text of a pipeline and its chain token. -/
inductive RuleSource where
  | operations (pipeline : List Operation)
  | text (t chain : Text)

/-- The rule of an output. -/
def Rule.ofSource? (output : Text) : RuleSource → Except PipelineError Rule
  | .operations pipeline => ofOperations? output pipeline
  | .text t chain => ofText? output t chain

end InputDeck
