import InputDeck.Pattern.CharSet

/-!
# Sets of characters as ranges

What an automaton makes of a set depends on the ranges of code points that the set consists of,
so every set can be written out as ranges.
-/

namespace InputDeck

/-- The characters of white space. -/
def spaceRanges : Text.Ranges :=
  [(0x9, 0xD), (0x20, 0x20), (0x85, 0x85), (0xA0, 0xA0), (0x1680, 0x1680), (0x2000, 0x200A),
   (0x2028, 0x2029), (0x202F, 0x202F), (0x205F, 0x205F), (0x3000, 0x3000)]

/-- The ASCII characters of words. -/
def asciiWordRanges : Text.Ranges := [(0x30, 0x39), (0x41, 0x5A), (0x5F, 0x5F), (0x61, 0x7A)]

namespace CharSet

/-- The characters of the set as ranges. -/
def ranges : CharSet → Text.Ranges
  | empty => []
  | range low high => Text.Ranges.between low.toNat high.toNat
  | digit => Text.Ranges.normal (Text.decimalZeros.map fun first => (first, first + 9))
  | space => spaceRanges
  | word => asciiWordRanges ++ Text.wordRanges
  | union first second => first.ranges.union second.ranges
  | inter first second => first.ranges.inter second.ranges
  | complement set => set.ranges.complement
  | ignoringCase set => set.ranges.caseClosed

end CharSet

end InputDeck
