/-!
# Binary floating-point numbers of 64 bits

Every finite number of the format is a whole multiple of its least positive number, `2 ^ -1074`.  A
finite number is kept as its sign and that multiple, so comparing numbers is comparing integers and
no rounding hides in the representation.  Numbers enter by the roundings of
`Phrasebook.Real64.Round`.
-/

namespace Phrasebook

/-- A number of the 64-bit binary format: `steps` counts the least positive number.  Zero keeps its
sign. -/
inductive Real64 where
  | nan
  | infinite (negative : Bool)
  | finite (negative : Bool) (steps : Nat)
  deriving DecidableEq, Repr

namespace Real64

/-- The number of least positive numbers that make one. -/
def one : Nat := Nat.pow 2 1074

/-- The first power of two that the format does not hold, in steps. -/
def overflow : Nat := Nat.pow 2 2098

def zero : Real64 := .finite false 0

def isFinite : Real64 → Bool
  | .finite _ _ => true
  | _ => false

def isNaN : Real64 → Bool
  | .nan => true
  | _ => false

/-- The signed count of steps. -/
def signed (negative : Bool) (steps : Nat) : Int := if negative then -steps else steps

end Real64

end Phrasebook
