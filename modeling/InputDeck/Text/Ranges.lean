/-!
# Character classes given by ranges

A class of characters is a list of closed ranges of code points, in ascending order. Membership
asks each range in turn. Surrogates are code points but no characters, so ranges that are
calculated never hold any; they stay apart at that gap, and are otherwise as long as they can be.
-/

namespace InputDeck.Text

/-- Closed ranges of code points. -/
abbrev Ranges := List (Nat × Nat)

namespace Ranges

/-- Whether some range holds the code point. -/
def holdsCode (ranges : Ranges) (code : Nat) : Bool :=
  ranges.any fun (low, high) => low ≤ code && code ≤ high

/-- Whether some range holds the character. -/
def holds (ranges : Ranges) (c : Char) : Bool := ranges.holdsCode c.toNat

/-- The last code point. -/
def lastCode : Nat := 0x10FFFF

/-- The code points that are no characters. -/
def surrogates : Nat × Nat := (0xD800, 0xDFFF)

/-- Melts a range with the ascending ranges behind it wherever nothing lies between them. -/
def melt (low high : Nat) : Ranges → Ranges
  | [] => [(low, high)]
  | (nextLow, nextHigh) :: rest =>
    if nextLow ≤ high + 1 then melt low (max high nextHigh) rest
    else (low, high) :: melt nextLow nextHigh rest

/-- The same class by ascending ranges with something between any two of them. -/
def normal (ranges : Ranges) : Ranges :=
  match ranges.mergeSort fun first second => first.1 ≤ second.1 with
  | [] => []
  | (low, high) :: rest => melt low high rest

/-- The code points of two classes. -/
def union (first second : Ranges) : Ranges := normal (first ++ second)

/-- The code points from `next` on that lie between ascending ranges or behind them. -/
def gapsFrom (next : Nat) : Ranges → Ranges
  | [] => if next ≤ lastCode then [(next, lastCode)] else []
  | (low, high) :: rest =>
    if next < low then (next, low - 1) :: gapsFrom (high + 1) rest else gapsFrom (high + 1) rest

/-- The characters outside of a class. -/
def complement (ranges : Ranges) : Ranges := gapsFrom 0 (union [surrogates] ranges)

/-- The characters of both classes. -/
def inter (first second : Ranges) : Ranges :=
  complement (union (complement first) (complement second))

/-- The characters from `low` to `high`. -/
def between (low high : Nat) : Ranges := inter [(low, high)] (complement [])

end Ranges

end InputDeck.Text
