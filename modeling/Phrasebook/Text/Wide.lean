import Phrasebook.Text.Utf8

/-!
# Text in wider units

A run of bytes may write characters in units of one, two or four bytes.  Where the zero bytes stand
among the first four tells the width of a unit and whether its high bytes come first, for a text
that starts with two plain characters.
-/

namespace Phrasebook.Text

inductive UnitWidth where
  | one
  | two
  | four
  deriving DecidableEq, Repr

/-- How a run of bytes writes its units. -/
structure UnitForm where
  width : UnitWidth
  highFirst : Bool
  deriving DecidableEq, Repr

/-- The form of a run of bytes, as its first bytes show it. -/
def unitForm : List Nat → UnitForm
  | 0 :: second :: _ :: _ :: _ => ⟨if second = 0 then .four else .two, true⟩
  | _ :: 0 :: third :: fourth :: _ => ⟨if third = 0 && fourth = 0 then .four else .two, false⟩
  | [0, _] => ⟨.two, true⟩
  | [_, 0] => ⟨.two, false⟩
  | _ => ⟨.one, true⟩

/-- A unit of a number with base 256, from bytes in the order of the form. -/
def unitOf (highFirst : Bool) (bytes : List Nat) : Nat :=
  (if highFirst then bytes else bytes.reverse).foldl (fun value byte => value * 256 + byte) 0

/-- The units of two bytes, if all bytes are used up. -/
def unitsOfTwo (highFirst : Bool) : List Nat → Option (List Nat)
  | [] => some []
  | first :: second :: rest =>
      (unitsOfTwo highFirst rest).map (unitOf highFirst [first, second] :: ·)
  | _ => none

/-- The units of four bytes, if all bytes are used up. -/
def unitsOfFour (highFirst : Bool) : List Nat → Option (List Nat)
  | [] => some []
  | first :: second :: third :: fourth :: rest =>
      (unitsOfFour highFirst rest).map (unitOf highFirst [first, second, third, fourth] :: ·)
  | _ => none

/-- The character of a code point; half a surrogate pair has none and is replaced. -/
def charOf (code : Nat) : Char :=
  if 0xD800 ≤ code && code < 0xE000 then replacement else Char.ofNat code

/-- The characters of units of two bytes, of which a pair may stand for one character. -/
def joinPairs : List Nat → List Char
  | [] => []
  | [unit] => [charOf unit]
  | high :: low :: rest =>
      if 0xD800 ≤ high && high < 0xDC00 && 0xDC00 ≤ low && low < 0xE000 then
        Char.ofNat (0x10000 + (high - 0xD800) * 0x400 + (low - 0xDC00)) :: joinPairs rest
      else charOf high :: joinPairs (low :: rest)

/-- The characters that a run of bytes writes in units of the width that it shows. -/
def decodeWide (bytes : List Nat) : Option (List Char) :=
  let form := unitForm bytes
  match form.width with
  | .one => some (decodeUtf8 bytes)
  | .two => (unitsOfTwo form.highFirst bytes).map joinPairs
  | .four => do
      let units ← unitsOfFour form.highFirst bytes
      if units.all (· < 0x110000) then some (units.map charOf) else none

end Phrasebook.Text
