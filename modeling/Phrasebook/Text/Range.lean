/-!
# Tables of code points

Character classes are kept as ascending ranges of code points, and one-to-one character maps as
ascending shifted ranges.  Ascending order lets a search stop early, so Latin text meets only the
first few rows.
-/

namespace Phrasebook.Text

/-- The code points from `first` to `last`. -/
structure Range where
  first : Nat
  last : Nat
  deriving DecidableEq, Repr

/-- Every `step`-th code point from `first` to `last`, moved so that `first` becomes `target`. -/
structure Shift where
  first : Nat
  last : Nat
  step : Nat
  target : Nat
  deriving DecidableEq, Repr

/-- Membership in a table of ascending ranges. -/
def inRanges : List Range → Nat → Bool
  | [], _ => false
  | range :: ranges, code =>
      if code < range.first then false
      else if code ≤ range.last then true
      else inRanges ranges code

/-- The image of a code point under a table of ascending shifts, if the table moves it. -/
def shifted? : List Shift → Nat → Option Nat
  | [], _ => none
  | shift :: shifts, code =>
      if code < shift.first then none
      else if code ≤ shift.last then
        if (code - shift.first) % shift.step = 0 then
          some (shift.target + (code - shift.first))
        else none
      else shifted? shifts code

end Phrasebook.Text
