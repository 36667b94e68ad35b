import InputDeck.Number.Decimal

/-!
# The fewest digits that name a binary number

A finite binary number is a mantissa times a power of two, and so it has a finite decimal
expansion. The numbers that read back as it form an interval around it, half of the way to each
neighbour, with both ends exactly when its mantissa is even. The search goes from one digit
upwards and tries the two neighbours of the number on each decimal grid; on the finest grid the
number is its own neighbour, so the search always ends with an answer. Of two neighbours in the
interval the nearer is taken, and of two equally near ones the upper.
-/

namespace InputDeck

/-- The number `mantissa * 2 ^ exponent`. -/
structure Binary where
  mantissa : Nat
  exponent : Int
  /-- The neighbour below is half as far away as the neighbour above. -/
  narrowBelow : Bool

namespace Binary

/-- The magnitude of a finite number. -/
def ofFloat (x : Float) : Binary :=
  let bits := x.toBits
  let biased := ((bits >>> 52) &&& 0x7FF).toNat
  let stored := (bits &&& 0xFFFFFFFFFFFFF).toNat
  if biased = 0 then ⟨stored, -1074, false⟩
  else ⟨0x10000000000000 + stored, (biased : Int) - 1075, decide (stored = 0 ∧ 1 < biased)⟩

/-- Whether the number is an integer. -/
def isIntegral (b : Binary) : Bool :=
  b.exponent ≥ 0 || b.mantissa % Nat.pow 2 b.exponent.natAbs == 0

/-- One unit of the mantissa on the decimal scale of `decimalExponent`. -/
def unit (b : Binary) : Nat :=
  if 0 ≤ b.exponent then Nat.pow 2 b.exponent.natAbs else Nat.pow 5 b.exponent.natAbs

/-- The power of ten that scales the exact digits. -/
def decimalExponent (b : Binary) : Int := min b.exponent 0

/-- The exact digits: the number is `exactDigits * 10 ^ decimalExponent`. -/
def exactDigits (b : Binary) : Nat := b.mantissa * b.unit

/-- Whether `n`, on the scale of the exact digits, reads back as the number. -/
def readsBack (b : Binary) (n : Nat) : Bool :=
  let low := 4 * b.exactDigits - (if b.narrowBelow then b.unit else 2 * b.unit)
  let high := 4 * b.exactDigits + 2 * b.unit
  if b.mantissa % 2 = 0 then low ≤ 4 * n && 4 * n ≤ high else low < 4 * n && 4 * n < high

/-- The neighbour on the grid `10 ^ dropped` that reads back, as a multiple of the grid. -/
def nearest? (b : Binary) (dropped : Nat) : Option Nat :=
  let grid := Nat.pow 10 dropped
  let below := b.exactDigits / grid
  let above := below + 1
  match b.readsBack (below * grid), b.readsBack (above * grid) with
  | true, false => some below
  | false, true => some above
  | true, true =>
    if above * grid - b.exactDigits ≤ b.exactDigits - below * grid then some above else some below
  | false, false => none

/-- The coarsest grid, from `10 ^ dropped` on, with a neighbour that reads back. -/
def search (b : Binary) : Nat → Decimal
  | 0 => ⟨b.exactDigits, b.decimalExponent⟩
  | dropped + 1 =>
    match b.nearest? (dropped + 1) with
    | some n => ⟨n, b.decimalExponent + (dropped + 1 : Nat)⟩
    | none => search b dropped

end Binary

/-- The same number without zeros at the end of its digits. -/
def Decimal.strip (d : Decimal) : Decimal :=
  if positive : d.digits = 0 then ⟨0, 0⟩
  else if d.digits % 10 = 0 then Decimal.strip ⟨d.digits / 10, d.exponent + 1⟩
  else d
termination_by d.digits
decreasing_by exact Nat.div_lt_self (Nat.pos_of_ne_zero positive) (by decide)

/-- The decimal of fewest digits that reads back as the magnitude of a finite number. -/
def Decimal.shortest (x : Float) : Decimal :=
  let b := Binary.ofFloat x
  Decimal.strip (b.search ((Nat.toDigits 10 b.exactDigits).length - 1))

end InputDeck
