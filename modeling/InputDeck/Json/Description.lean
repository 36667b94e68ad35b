import InputDeck.Json.Basic
import InputDeck.Marker.Style
import InputDeck.Model.Description
import InputDeck.Report.Operation

/-!
# Descriptions in JSON

A description in JSON is an object with one member for each field, or an array with the fields in
their order of which the last ones may be missing. Every field has a default but the first. An
object may have other members, which are passed over; a field given twice or of the wrong kind
makes the description malformed.
-/

namespace InputDeck

/-- The fields of a description. -/
inductive DescriptionField where
  | id
  | variableMark
  | formulaMark
  | delimiters
  | commentMark
  | chain
  | output
deriving DecidableEq

namespace DescriptionField

/-- The fields in their order. -/
def all : List DescriptionField :=
  [id, variableMark, formulaMark, delimiters, commentMark, chain, output]

/-- The name of a field. -/
def name : DescriptionField → String
  | id => "id"
  | variableMark => StyleField.variableMark.name
  | formulaMark => StyleField.formulaMark.name
  | delimiters => StyleField.delimiters.name
  | commentMark => StyleField.commentMark.name
  | chain => "chain"
  | output => "output"

end DescriptionField

namespace Description

/-- The text of a field, or its default where the field is missing. -/
def textOr? (preset : Text) : Option Json → Option Text
  | none => some preset
  | some value => value.toText?

/-- A member whose name and value are both texts. -/
def entry? : Option Text × Json → Option (Text × Text)
  | (some name, value) => value.toText?.map (name, ·)
  | (none, _) => none

/-- The pipelines of the outputs. A name that is repeated keeps its place and takes the later
text. -/
def outputs? : Option Json → Option (Entries Text Text)
  | none => some Entries.empty
  | some (.object members) => (members.mapM entry?).map Entries.ofList
  | some _ => none

/-- The description with these fields. -/
def ofFields? (field? : DescriptionField → Option Json) : Option Description := do
  let id ← (field? .id).bind Json.toText?
  let variableMark ← textOr? [MarkerStyle.standard.variableMark] (field? .variableMark)
  let formulaMark ← textOr? [MarkerStyle.standard.formulaMark] (field? .formulaMark)
  let delimiters ← textOr?
    [MarkerStyle.standard.openDelimiter, MarkerStyle.standard.closeDelimiter] (field? .delimiters)
  let commentMark ← textOr? [MarkerStyle.standard.commentMark] (field? .commentMark)
  let chain ← textOr? defaultChain (field? .chain)
  let outputs ← outputs? (field? .output)
  some ⟨id, variableMark, formulaMark, delimiters, commentMark, chain, outputs⟩

/-- The values of the members with a name. -/
def membersNamed (name : Text) (members : List (Option Text × Json)) : List Json :=
  (members.filter (·.1 == some name)).map (·.2)

/-- Whether every name of a row of members stands for a text and no field is given twice. -/
def distinctFields (members : List (Option Text × Json)) : Bool :=
  members.all (·.1.isSome)
    && DescriptionField.all.all fun field => (membersNamed field.name.toList members).length ≤ 1

/-- The description that a JSON value is. -/
def ofJson? : Json → Option Description
  | .object members =>
    if distinctFields members then
      ofFields? fun field => (membersNamed field.name.toList members).head?
    else none
  | .array items =>
    if items.length ≤ DescriptionField.all.length then
      ofFields? fun field => items[DescriptionField.all.idxOf field]?
    else none
  | _ => none

end Description

/-- The decoder of descriptions in JSON. -/
def Decoder.json : Decoder where
  decode? t := (Json.ofText? t).bind Description.ofJson?

end InputDeck
