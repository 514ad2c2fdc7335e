import Phrasebook.Text.WordTable

/-!
# Word characters, digits and identifiers

The name of a slot is an identifier: a word character that is not a decimal digit, then word
characters.
-/

namespace Phrasebook.Text

def isAlphanumeric (c : Char) : Bool :=
  if c.toNat < 128 then c.isAlphanum else inRanges alphanumericRanges c.toNat

/-- Letters, numerals and the low line. -/
def isWordChar (c : Char) : Bool := c == '_' || isAlphanumeric c

/-- The value of `code` among the runs of ten that start at the given zeros. -/
def digitFrom : List Nat → Nat → Option Nat
  | [], _ => none
  | base :: bases, code =>
      if code < base then none
      else if code < base + 10 then some (code - base)
      else digitFrom bases code

/-- The value of a decimal digit of any script. -/
def digitValue? (c : Char) : Option Nat :=
  if c.toNat < 128 then
    if c.isDigit then some (c.toNat - '0'.toNat) else none
  else digitFrom digitZeros c.toNat

def isDecimalDigit (c : Char) : Bool := (digitValue? c).isSome

def isIdentifier : List Char → Bool
  | [] => false
  | c :: rest => isWordChar c && !isDecimalDigit c && rest.all isWordChar

end Phrasebook.Text
