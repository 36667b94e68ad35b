import InputDeck.Text.Quoted
import InputDeck.Number.Word

/-!
# Marker styles

Five characters fix how a family of decks marks what varies: the prefix of a variable, the prefix
of a formula, the two delimiters around the content, and the character that begins a comment
line. A style exists only where a marker can be told from its content: the prefixes differ, the
delimiters differ, and no prefix is a delimiter. These three facts are part of the type.
-/

namespace InputDeck

/-- The characters that mark variables, formulas and comment lines. -/
structure MarkerStyle where
  variableMark : Char
  formulaMark : Char
  openDelimiter : Char
  closeDelimiter : Char
  commentMark : Char
  marks_differ : variableMark ≠ formulaMark := by decide
  delimiters_differ : openDelimiter ≠ closeDelimiter := by decide
  variableMark_not_delimiter :
    variableMark ≠ openDelimiter ∧ variableMark ≠ closeDelimiter := by decide
  formulaMark_not_delimiter :
    formulaMark ≠ openDelimiter ∧ formulaMark ≠ closeDelimiter := by decide
deriving DecidableEq

/-- The fields of a model file that name the characters of a style. -/
inductive StyleField where
  | variableMark
  | formulaMark
  | delimiters
  | commentMark
deriving DecidableEq

/-- Why characters are no style. -/
inductive StyleError where
  /-- Both prefixes are this character. -/
  | sameMark (mark : Char)
  /-- Both delimiters are this character. -/
  | sameDelimiter (delimiter : Char)
  /-- This prefix is a delimiter as well. -/
  | markIsDelimiter (mark : Char)
  /-- A field does not hold as many characters as it has to. -/
  | badField (field : StyleField) (content : Text)
deriving DecidableEq

/-- The name of a field in a model file. -/
def StyleField.name : StyleField → String
  | variableMark => "varprefix"
  | formulaMark => "formulaprefix"
  | delimiters => "delim"
  | commentMark => "commentline"

/-- How many characters a field holds. -/
def StyleField.size : StyleField → Nat
  | delimiters => 2
  | _ => 1

/-- The message of a style error. -/
def StyleError.message : StyleError → String
  | sameMark mark => "variable and formula prefixes are both '" ++ mark.toString ++ "'"
  | sameDelimiter delimiter =>
    "opening and closing delimiters are both '" ++ delimiter.toString ++ "'"
  | markIsDelimiter mark => "prefix '" ++ mark.toString ++ "' is also a delimiter"
  | badField field content =>
    field.name ++ " must be exactly " ++ String.ofList (renderNat field.size)
      ++ " character(s), got " ++ String.ofList (Text.quoted content)

namespace MarkerStyle

/-- The style of a deck that says nothing else. -/
def standard : MarkerStyle where
  variableMark := '$'
  formulaMark := '@'
  openDelimiter := '\x7b'
  closeDelimiter := '\x7d'
  commentMark := '#'

instance : Inhabited MarkerStyle := ⟨standard⟩

/-- The style of five characters. Equal prefixes are reported before equal delimiters, and these
before a prefix that is a delimiter, the variable's first. -/
def ofChars? (variableMark formulaMark openDelimiter closeDelimiter commentMark : Char) :
    Except StyleError MarkerStyle :=
  if sameMarks : variableMark = formulaMark then .error (.sameMark variableMark)
  else if sameDelimiters : openDelimiter = closeDelimiter then
    .error (.sameDelimiter openDelimiter)
  else if variableClash : variableMark = openDelimiter ∨ variableMark = closeDelimiter then
    .error (.markIsDelimiter variableMark)
  else if formulaClash : formulaMark = openDelimiter ∨ formulaMark = closeDelimiter then
    .error (.markIsDelimiter formulaMark)
  else
    .ok ⟨variableMark, formulaMark, openDelimiter, closeDelimiter, commentMark, sameMarks,
      sameDelimiters, not_or.1 variableClash, not_or.1 formulaClash⟩

/-- The only character of a field. -/
def onlyChar? (field : StyleField) : Text → Except StyleError Char
  | [c] => .ok c
  | content => .error (.badField field content)

/-- The style of the fields of a model file. The fields of one character are read before the
delimiters. -/
def ofFields? (variableField formulaField delimiterField commentField : Text) :
    Except StyleError MarkerStyle := do
  let variableMark ← onlyChar? .variableMark variableField
  let formulaMark ← onlyChar? .formulaMark formulaField
  let commentMark ← onlyChar? .commentMark commentField
  match delimiterField with
  | [openDelimiter, closeDelimiter] =>
    ofChars? variableMark formulaMark openDelimiter closeDelimiter commentMark
  | content => .error (.badField .delimiters content)

/-- Whether the first character that is not white space begins a comment. -/
def isComment (style : MarkerStyle) (line : Text) : Bool :=
  match Text.trimStart line with
  | [] => false
  | c :: _ => c == style.commentMark

end MarkerStyle

end InputDeck
