import Phrasebook.Real64.Round

/-!
# The fewest digits that read back

Of all decimals that round to a given finite number, `shortest` chooses one with the fewest digits,
and among those the nearest.  Everything is compared exactly: the numbers that round to a count of
steps form an interval, and for each number of digits the two neighbours of the count on that
decimal grid are tried.
-/

namespace Phrasebook.Real64

/-- The decimals that round to a number, in quarter steps; the ends belong to it when `closed`. -/
structure Basin where
  low : Nat
  high : Nat
  closed : Bool

/-- Below a power of two the neighbours are half as far apart as above it. -/
def basin (steps : Nat) : Basin :=
  let unit := Nat.pow 2 (excessBits steps)
  let below := if steps = Nat.pow 2 52 * unit && 1 < unit then unit else 2 * unit
  { low := 4 * steps - below, high := 4 * steps + 2 * unit, closed := steps / unit % 2 == 0 }

/-- Whether `num / den` quarter steps lie in the basin. -/
def Basin.holds (basin : Basin) (num den : Nat) : Bool :=
  let low := basin.low * den
  let high := basin.high * den
  if basin.closed then low ≤ num && num ≤ high else low < num && num < high

/-- A positive decimal `digits * 10 ^ exponent`. -/
structure Decimal where
  digits : Nat
  exponent : Int
  deriving DecidableEq, Repr

/-- The decimals with last place `10 ^ exponent` on both sides of the number, the nearer first, and
of two equally near ones the even one. -/
def neighbours (steps : Nat) (exponent : Int) : List Decimal :=
  let num := steps * Nat.pow 10 (-exponent).toNat
  let den := one * Nat.pow 10 exponent.toNat
  let below := num / den
  let twice := 2 * (num % den)
  if twice < den || (twice == den && below % 2 == 0) then
    [⟨below, exponent⟩, ⟨below + 1, exponent⟩]
  else [⟨below + 1, exponent⟩, ⟨below, exponent⟩]

def Decimal.readsBack (decimal : Decimal) (basin : Basin) : Bool :=
  basin.holds (decimal.digits * Nat.pow 10 decimal.exponent.toNat * (4 * one))
    (Nat.pow 10 (-decimal.exponent).toNat)

/-- The least number of tenfold steps that bring a positive count to at least one. -/
def tenfolds : (fuel : Nat) → Nat → Nat
  | 0, _ => 0
  | fuel + 1, steps => if one ≤ steps then 0 else tenfolds fuel (steps * 10) + 1

/-- The exponent of the leading decimal digit of a positive count of steps. -/
def leadingExponent (steps : Nat) : Int :=
  if one ≤ steps then ((Nat.toDigits 10 (steps / one)).length : Int) - 1
  else -(tenfolds 400 steps : Int)

/-- The first decimal that reads back, from the place `exponent` downwards. -/
def firstReadingBack (steps : Nat) (basin : Basin) : (fuel : Nat) → Int → Decimal
  | 0, exponent => ⟨steps * Nat.pow 10 (-exponent).toNat / one, exponent⟩
  | fuel + 1, exponent =>
      match (neighbours steps exponent).find? (·.readsBack basin) with
      | some decimal => decimal
      | none => firstReadingBack steps basin fuel (exponent - 1)

/-- A decimal with the fewest digits among those that round to a positive count of steps. -/
def shortest (steps : Nat) : Decimal :=
  firstReadingBack steps (basin steps) 17 (leadingExponent steps)

end Phrasebook.Real64
