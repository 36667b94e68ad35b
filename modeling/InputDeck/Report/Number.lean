import InputDeck.Number.Decimal

/-!
# Numbers in reports

A report writes a number with white space around it and may use the letter `D` before an
exponent. If the text is no number as it stands, its first `D` or `d` is taken for an `E`.
Infinities and NaN are no numbers.
-/

namespace InputDeck

/-- The text with an `E` for its first `D` or `d`. -/
def withExponentLetter : Text → Text
  | [] => []
  | c :: rest => if c = 'D' ∨ c = 'd' then 'E' :: rest else c :: withExponentLetter rest

/-- The number that a report means by a text. -/
def readReportNumber? (t : Text) : Option Float :=
  let trimmed := Text.trim t
  if trimmed.any Text.isDigit then
    match (readReal? trimmed).or (readReal? (withExponentLetter trimmed)) with
    | some x => if x.isFinite then some x else none
    | none => none
  else none

end InputDeck
