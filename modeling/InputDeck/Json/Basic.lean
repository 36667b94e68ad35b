import InputDeck.Json.Token

/-!
# JSON

JSON text is one value, and nothing but blanks may stand around it. A value keeps what the readers
of model files look at: texts, and the members of arrays and objects in the order of the text;
an object may repeat a name. The reader goes through the tokens once and holds the arrays and
objects that are still open on a stack, so values may be nested to any depth.
-/

namespace InputDeck

/-- A JSON value. -/
inductive Json where
  /-- A number, a truth value or null. -/
  | scalar
  /-- A string, with the text that it stands for if it stands for one. -/
  | text (content : Option Text)
  | array (items : List Json)
  | object (members : List (Option Text × Json))

namespace Json

/-- An array or object that is still open. What it has so far stands in reverse. -/
inductive Open where
  | array (items : List Json)
  /-- An object and the name of the member that comes next. -/
  | object (members : List (Option Text × Json)) (name : Option Text)

/-- Reads tokens after what is open, the innermost first. Either a value is complete, or one is
expected. -/
def read? (complete : Option Json) (stack : List Open) : List Token → Option Json
  | [] =>
    match stack with
    | [] => complete
    | _ :: _ => none
  | token :: rest =>
    match complete, stack, token, rest with
    | none, stack, .word, rest => read? (some .scalar) stack rest
    | none, stack, .number, rest => read? (some .scalar) stack rest
    | none, stack, .text content, rest => read? (some (.text content)) stack rest
    | none, stack, .openArray, .closeArray :: rest => read? (some (.array [])) stack rest
    | none, stack, .openArray, rest => read? none (.array [] :: stack) rest
    | none, stack, .openObject, .closeObject :: rest => read? (some (.object [])) stack rest
    | none, stack, .openObject, .text name :: .colon :: rest =>
      read? none (.object [] name :: stack) rest
    | some value, .array items :: stack, .comma, rest =>
      read? none (.array (value :: items) :: stack) rest
    | some value, .array items :: stack, .closeArray, rest =>
      read? (some (.array (value :: items).reverse)) stack rest
    | some value, .object members name :: stack, .comma, .text next :: .colon :: rest =>
      read? none (.object ((name, value) :: members) next :: stack) rest
    | some value, .object members name :: stack, .closeObject, rest =>
      read? (some (.object ((name, value) :: members).reverse)) stack rest
    | _, _, _, _ => none

/-- The value of a JSON text. -/
def ofText? (t : Text) : Option Json := (tokens? t).bind (read? none [])

/-- The text of a string that stands for one. -/
def toText? : Json → Option Text
  | text content => content
  | _ => none

end Json

end InputDeck
