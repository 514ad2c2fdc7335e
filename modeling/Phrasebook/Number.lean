import Phrasebook.Real64.Text

/-!
# Numbers

A number is an integer of any size or a number of the 64-bit format.  Numbers of both kinds are
compared by the value they stand for, without rounding; the undefined number compares with nothing.
-/

namespace Phrasebook

inductive Number where
  | int (value : Int)
  | real (value : Real64)
  deriving DecidableEq, Repr

namespace Number

/-- The place of a number on the line, counted in least positive numbers of the 64-bit format. -/
inductive Extent where
  | belowAll
  | steps (count : Int)
  | aboveAll
  deriving DecidableEq, Repr

def extent? : Number → Option Extent
  | .int value => some (.steps (value * Real64.one))
  | .real .nan => none
  | .real (.infinite negative) => some (if negative then .belowAll else .aboveAll)
  | .real (.finite negative steps) => some (.steps (Real64.signed negative steps))

def Extent.lt : Extent → Extent → Bool
  | .belowAll, .belowAll => false
  | .belowAll, _ => true
  | .steps left, .steps right => left < right
  | .steps _, .aboveAll => true
  | _, _ => false

/-- Strictly smaller. -/
def lt (left right : Number) : Bool :=
  match left.extent?, right.extent? with
  | some low, some high => low.lt high
  | _, _ => false

/-- Smaller or equal; false beside the undefined number. -/
def le (left right : Number) : Bool :=
  match left.extent?, right.extent? with
  | some low, some high => !high.lt low
  | _, _ => false

/-- Equal in value. -/
def same (left right : Number) : Bool :=
  match left.extent?, right.extent? with
  | some low, some high => low == high
  | _, _ => false

def isZero (number : Number) : Bool := number.same (.int 0)

def text : Number → String
  | .int value => toString value
  | .real value => value.text

end Number

end Phrasebook
