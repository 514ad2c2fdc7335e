import Phrasebook.Calendar.Clock
import Phrasebook.Calendar.Language

/-!
# The parts of a date

The numbers and names of a date are taken one after the other.  A number becomes the first part, in
the order of the language, that it fits and that is still missing; the name of a month takes the
month, and a number taken for the month before turns out to be the day.
-/

namespace Phrasebook

/-- The number of a year, which may be given by its last two digits. -/
structure WrittenYear where
  number : Nat
  isShort : Bool
  deriving DecidableEq, Repr

/-- Years of two digits run from 1969 to 2068. -/
def WrittenYear.value (year : WrittenYear) : Nat :=
  if year.isShort then if 69 ≤ year.number then 1900 + year.number else 2000 + year.number
  else year.number

/-- The parts read so far.  `named` says that the month was given by name, and `displaced` is a
short year in whose place a full one came. -/
structure DateParts where
  year : Option WrittenYear
  month : Option Nat
  day : Option Nat
  named : Bool
  weekday : Bool
  displaced : Option Nat
  deriving DecidableEq, Repr

namespace DateParts

def none : DateParts := ⟨.none, .none, .none, false, false, .none⟩

/-- The year with another number: the first year that is given, or a full one for a short one. -/
def addYear? (parts : DateParts) (width value : Nat) : Option DateParts :=
  if width == 2 || (width == 4 && 1 ≤ value) then
    let year : WrittenYear := ⟨value, width == 2⟩
    match parts.year with
    | .none => some { parts with year := some year }
    | some known =>
        if known.isShort && !year.isShort then
          some { parts with year := some year, displaced := some known.number }
        else .none
  else .none

/-- The date with a number of so many digits as the given part, if it fits and is missing. -/
def take? (parts : DateParts) (width value : Nat) : DatePart → Option DateParts
  | .month =>
      if parts.month.isNone && width ≤ 2 && 1 ≤ value && value ≤ 12 then
        some { parts with month := some value }
      else .none
  | .day =>
      if parts.day.isNone && width ≤ 2 && 1 ≤ value && value ≤ 31 then
        some { parts with day := some value }
      else .none
  | .year => parts.addYear? width value

def addNumber? (order : List DatePart) (parts : DateParts) (digits : List Char) :
    Option DateParts :=
  if digits.all Char.isDigit then
    order.findSome? (parts.take? digits.length (numberOf digits))
  else .none

/-- The date with a month that is given by name. -/
def addMonth? (parts : DateParts) (month : Nat) : Option DateParts :=
  if parts.named then .none
  else some { parts with month := some month, day := parts.month.or parts.day, named := true }

/-- The name of a day of the week says nothing new, and there is at most one. -/
def addName? (parts : DateParts) (name : List Char) : Option DateParts :=
  let word := String.ofList name
  if DateLanguage.weekdayNames.contains word then
    if parts.weekday then .none else some { parts with weekday := true }
  else (DateLanguage.monthNames.findIdx? (· == word)).bind fun place => parts.addMonth? (place + 1)

/-- The date, once all parts are there; a displaced number stands for a missing day or month. -/
def date? (parts : DateParts) : Option Date := do
  let date : Date :=
    { year := (← parts.year).value
      month := ← parts.month.or parts.displaced
      day := ← parts.day.or parts.displaced }
  if date.isValid then some date else .none

end DateParts

end Phrasebook
