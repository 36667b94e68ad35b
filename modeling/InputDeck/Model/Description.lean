import InputDeck.Entries

/-!
# Descriptions of simulation codes

A simulation code is described by a text that names its marker characters and the pipelines of its
outputs. How such a text is written is left to a decoder, and what is said of models holds for
every one. A description has no output twice, and its outputs keep the order of the text.
-/

namespace InputDeck

/-- What a description says. -/
structure Description where
  id : Text
  variableMark : Text
  formulaMark : Text
  delimiters : Text
  commentMark : Text
  /-- The token between the stages of the pipelines. -/
  chain : Text
  /-- The text of the pipeline of each output. -/
  outputs : Entries Text Text
deriving DecidableEq

/-- A decoder of descriptions: what a text describes, if it describes anything. -/
structure Decoder where
  decode? : Text → Option Description

end InputDeck
