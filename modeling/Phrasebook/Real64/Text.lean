import Phrasebook.Real64.Shortest

/-!
# Written form of a number

The shortest digits are laid out by a fixed set of decisions: positional between two bounds on the
decimal exponent, with at least one digit on both sides of the point, and otherwise in scientific
form with a signed exponent of at least two digits.
-/

namespace Phrasebook.Real64

/-- The decisions of a written form. -/
structure Layout where
  leastPositional : Int
  leastScientific : Int
  exponentMark : Char
  exponentWidth : Nat

/-- Numbers from `0.0001` up to but not including `10 ^ 16` are positional. -/
def layout : Layout where
  leastPositional := -4
  leastScientific := 16
  exponentMark := 'e'
  exponentWidth := 2

def decimalDigits (value : Nat) : List Char := Nat.toDigits 10 value

def zeros (count : Nat) : List Char := List.replicate count '0'

def withoutTrailingZeros (digits : List Char) : List Char :=
  (digits.reverse.dropWhile (· == '0')).reverse

/-- Digits with the point after the first `places` of them, filled up with zeros. -/
def positional (digits : List Char) (places : Int) : List Char :=
  if places ≤ 0 then '0' :: '.' :: zeros (-places).toNat ++ digits
  else
    let whole := places.toNat
    if digits.length ≤ whole then digits ++ zeros (whole - digits.length) ++ ['.', '0']
    else digits.take whole ++ '.' :: digits.drop whole

def scientific (layout : Layout) (digits : List Char) (exponent : Int) : List Char :=
  let written := decimalDigits exponent.natAbs
  let mantissa :=
    match digits with
    | [] => []
    | [digit] => [digit]
    | digit :: rest => digit :: '.' :: rest
  mantissa ++ layout.exponentMark :: (if exponent < 0 then '-' else '+')
    :: zeros (layout.exponentWidth - written.length) ++ written

/-- A positive count of steps in written form. -/
def magnitudeText (layout : Layout) (steps : Nat) : List Char :=
  let decimal := shortest steps
  let all := decimalDigits decimal.digits
  let exponent := decimal.exponent + (all.length : Int) - 1
  let digits := withoutTrailingZeros all
  if layout.leastPositional ≤ exponent && exponent < layout.leastScientific then
    positional digits (exponent + 1)
  else scientific layout digits exponent

def signText (negative : Bool) : List Char := if negative then ['-'] else []

def text : Real64 → String
  | .nan => "nan"
  | .infinite negative => String.ofList (signText negative ++ ['i', 'n', 'f'])
  | .finite negative 0 => String.ofList (signText negative ++ ['0', '.', '0'])
  | .finite negative (steps + 1) =>
      String.ofList (signText negative ++ magnitudeText layout (steps + 1))

end Phrasebook.Real64
