import InputDeck.Text.Ranges

/-!
# Characters as bytes

An automaton reads a line as the bytes of its characters. The characters of a range are spelled
by rows of byte ranges: any choice of one byte from each range of a row spells a character of the
range, and every character is spelled by exactly one row. The rows come in the order of their
characters.
-/

namespace InputDeck

/-- A closed range of bytes. -/
structure ByteRange where
  first : UInt8
  last : UInt8
deriving DecidableEq

namespace ByteRange

/-- The ranges of code points that are spelled with equally many bytes. -/
def blocks : Text.Ranges :=
  [(0, 0x7F), (0x80, 0x7FF), (0x800, 0xD7FF), (0xE000, 0xFFFF), (0x10000, 0x10FFFF)]

/-- Where a range is to be divided if it does not fill the groups of `size` code points that it
has a part in: behind the group it begins in or before the group it ends in. -/
def divideAt? (low high size : Nat) : Option Nat :=
  if low / size = high / size then none
  else if low % size ≠ 0 then some ((low / size + 1) * size)
  else if high % size ≠ size - 1 then some (high / size * size)
  else none

/-- A range is divided inside of it. -/
theorem divideAt?_bounds {low high size place : Nat} (ascending : low ≤ high)
    (divided : divideAt? low high size = some place) : low < place ∧ place ≤ high := by
  unfold divideAt? at divided
  split at divided
  · simp at divided
  · rename_i apart
    rcases Nat.eq_zero_or_pos size with rfl | positive
    · simp at apart
    · have below : low / size < high / size :=
        Nat.lt_of_le_of_ne (Nat.div_le_div_right ascending) apart
      have under : low < (low / size + 1) * size := by
        rw [Nat.mul_comm]
        exact Nat.lt_mul_div_succ low positive
      have enough : (low / size + 1) * size ≤ high / size * size :=
        Nat.mul_le_mul_right size below
      have within : high / size * size ≤ high := Nat.div_mul_le_self high size
      split at divided
      · simp only [Option.some.injEq] at divided
        omega
      · split at divided
        · simp only [Option.some.injEq] at divided
          omega
        · simp at divided

/-- Where a range is to be divided so that each part is spelled by one row. -/
def division? (low high : Nat) : Option Nat :=
  (divideAt? low high 0x40).or ((divideAt? low high 0x1000).or (divideAt? low high 0x40000))

/-- A range is divided inside of it. -/
theorem division?_bounds {low high place : Nat} (ascending : low ≤ high)
    (divided : division? low high = some place) : low < place ∧ place ≤ high := by
  simp only [division?, Option.or_eq_some_iff] at divided
  rcases divided with found | ⟨_, found | ⟨_, found⟩⟩ <;>
    exact divideAt?_bounds ascending found

/-- The parts of a range in which every byte of a spelling but the first runs through all of its
values or stands still. -/
def divide (low high : Nat) : Text.Ranges :=
  if ascending : low ≤ high then
    match divided : division? low high with
    | none => [(low, high)]
    | some place =>
      have _bounds := division?_bounds ascending divided
      divide low (place - 1) ++ divide place high
  else []
termination_by high + 1 - low

/-- The row that spells a part. -/
def row (low high : Nat) : List ByteRange :=
  (String.utf8EncodeChar (Char.ofNat low)).zipWith mk (String.utf8EncodeChar (Char.ofNat high))

/-- The rows that spell the characters of a range. -/
def rowsOfRange (low high : Nat) : List (List ByteRange) :=
  blocks.flatMap fun (blockLow, blockHigh) =>
    let low := max low blockLow
    let high := min high blockHigh
    if blockHigh < 0x80 then if low ≤ high then [row low high] else []
    else (divide low high).map fun (low, high) => row low high

/-- The rows that spell the characters of a class. -/
def rows (ranges : Text.Ranges) : List (List ByteRange) :=
  ranges.flatMap fun (low, high) => rowsOfRange low high

end ByteRange

end InputDeck
