import Phrasebook.Real64.Basic

/-!
# Rounding to the 64-bit format

A non-negative ratio is rounded to the nearest multiple of the least positive number that has at
most 53 significant bits, ties to the even neighbour; what reaches the overflow bound is infinite.
-/

namespace Phrasebook.Real64

/-- The quotient rounded to the nearest whole number, ties to the even one. -/
def roundDiv (num den : Nat) : Nat :=
  let quotient := num / den
  let rest := num % den
  if 2 * rest < den then quotient
  else if den < 2 * rest then quotient + 1
  else if quotient % 2 = 0 then quotient
  else quotient + 1

/-- The bits of a whole number beyond the 53 that the format keeps. -/
def excessBits (value : Nat) : Nat := value.log2 - 52

/-- The ratio rounded to a count of steps with at most 53 significant bits. -/
def roundSteps (num den : Nat) : Nat :=
  let unit := Nat.pow 2 (excessBits (num / den))
  roundDiv num (den * unit) * unit

def ofSteps (negative : Bool) (steps : Nat) : Real64 :=
  if overflow ≤ steps then .infinite negative else .finite negative steps

/-- The number nearest to `num / den`, with the given sign. -/
def ofRatio (negative : Bool) (num den : Nat) : Real64 :=
  ofSteps negative (roundSteps (num * one) den)

/-- The number nearest to `digits * 10 ^ exponent`.  Exponents far outside the format's range are
settled by the number of digits alone. -/
def ofDecimal (negative : Bool) (digits : Nat) (exponent : Int) : Real64 :=
  let magnitude := (Nat.toDigits 10 digits).length + exponent
  if digits = 0 then .finite negative 0
  else if 400 < magnitude then .infinite negative
  else if magnitude < -400 then .finite negative 0
  else if 0 ≤ exponent then ofRatio negative (digits * Nat.pow 10 exponent.toNat) 1
  else ofRatio negative digits (Nat.pow 10 (-exponent).toNat)

/-- The number, unless it is infinite or undefined. -/
def finite? : Real64 → Option Real64
  | .finite negative steps => some (.finite negative steps)
  | _ => none

/-- The nearest number to an integer, unless the integer is out of range. -/
def ofInt? (value : Int) : Option Real64 := finite? (ofRatio (value < 0) value.natAbs 1)

/-- The whole part of a finite number, toward zero. -/
def truncated (negative : Bool) (steps : Nat) : Int := signed negative (steps / one)

/-- The number times `2 ^ power`. -/
def scaled (power : Nat) : Real64 → Real64
  | .finite negative steps => ofSteps negative (steps * Nat.pow 2 power)
  | other => other

end Phrasebook.Real64
