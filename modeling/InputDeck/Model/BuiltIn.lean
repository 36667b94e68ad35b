import InputDeck.Model.Basic

/-!
# Models at hand

Some simulation codes are described here, so that they can be used without a file. They are looked
up by name, whatever the case of its letters.
-/

namespace InputDeck

/-- A description that is at hand. -/
structure BuiltIn where
  id : Text
  description : Text

/-- Lines of text, each closed by a newline. -/
def closedLines (lines : List String) : Text := lines.flatMap fun line => line.toList ++ ['\n']

/-- A neutron transport code by the Monte Carlo method. -/
def moret : BuiltIn where
  id := "Moret".toList
  description := closedLines
    [ "\x7b",
      "  \"id\": \"Moret\",",
      "  \"varprefix\": \"$\",",
      "  \"formulaprefix\": \"@\",",
      "  \"delim\": \"\x7b\x7d\",",
      "  \"commentline\": \"*\",",
      "  \"output\": \x7b",
      "    \"mean_keff\": \"grep('ESTI. + FAIBLE SIGMA', '*.listing') | get(0)"
        ++ " | substring('SIGMA', '+/-') | asNumeric()\",",
      "    \"sigma_keff\": \"grep('ESTI. + FAIBLE SIGMA', '*.listing') | get(0)"
        ++ " | substring('+/-', ':') | asNumeric()\",",
      "    \"dkeff_pertu\": \"grep('DELTA KEFF =', '*.listing') | get(0)"
        ++ " | substring('=', '+/-') | asNumeric()\",",
      "    \"sigma_dkeff_pertu\": \"grep('DELTA KEFF =', '*.listing') | get(0)"
        ++ " | cut('+/-', 1) | replace('D', 'E') | asNumeric()\"",
      "  \x7d",
      "\x7d" ]

namespace BuiltIn

/-- Every description at hand. -/
def all : List BuiltIn := [moret]

/-- The description with a name, whatever the case of its letters A to Z. -/
def find? (id : Text) : Option BuiltIn := all.find? fun known => Text.sameIgnoringCase known.id id

/-- The model that is described. -/
def model? (decoder : Decoder) (known : BuiltIn) :
    Except ModelError (Model × List SkippedOutput) :=
  Model.ofText? decoder known.description

end BuiltIn

end InputDeck
