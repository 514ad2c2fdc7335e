/-!
# Calendar dates

Dates of the Gregorian calendar, extended to all years from 1 to 9999.  Days are numbered from zero
at the first of January of year 1, a Monday; `dayNumber` and `ofDayNumber` go from a date to its
number and back.
-/

namespace Phrasebook

structure Date where
  year : Nat
  month : Nat
  day : Nat
  deriving DecidableEq, Repr

namespace Date

def isLeap (year : Nat) : Bool := year % 4 == 0 && (year % 100 != 0 || year % 400 == 0)

def monthLengths (leap : Bool) : List Nat :=
  [31, if leap then 29 else 28, 31, 30, 31, 30, 31, 31, 30, 31, 30, 31]

def daysInMonth (year month : Nat) : Nat := (monthLengths (isLeap year)).getD (month - 1) 0

def isValid (date : Date) : Bool :=
  1 ≤ date.year && date.year ≤ 9999 && 1 ≤ date.month && date.month ≤ 12
    && 1 ≤ date.day && date.day ≤ daysInMonth date.year date.month

/-- The days of all years before a year. -/
def daysBeforeYear (year : Nat) : Nat :=
  let past := year - 1
  past * 365 + past / 4 - past / 100 + past / 400

def daysBeforeMonth (year month : Nat) : Nat :=
  ((monthLengths (isLeap year)).take (month - 1)).foldl (· + ·) 0

def dayNumber (date : Date) : Nat :=
  daysBeforeYear date.year + daysBeforeMonth date.year date.month + (date.day - 1)

/-- The year of a day, by cycles of 400, 100, 4 and 1 years; the last day of a cycle belongs to the
last shorter cycle in it. -/
def yearOfDay (number : Nat) : Nat :=
  let inFourHundred := number % 146097
  let centuries := min 3 (inFourHundred / 36524)
  let inCentury := inFourHundred - centuries * 36524
  let inFour := inCentury % 1461
  let years := min 3 (inFour / 365)
  400 * (number / 146097) + 100 * centuries + 4 * (inCentury / 1461) + years + 1

/-- The month, counted from `month`, and the day in it of the day `rest` days after its start. -/
def placeInMonths (month : Nat) : List Nat → (rest : Nat) → Nat × Nat
  | [], rest => (month, rest + 1)
  | length :: lengths, rest =>
      if rest < length then (month, rest + 1)
      else placeInMonths (month + 1) lengths (rest - length)

def ofDayNumber (number : Nat) : Date :=
  let year := yearOfDay number
  let place := placeInMonths 1 (monthLengths (isLeap year)) (number - daysBeforeYear year)
  { year := year, month := place.1, day := place.2 }

/-- The day of the week, from Monday as zero. -/
def weekday (number : Nat) : Nat := number % 7

/-- The Monday of the week with the first Thursday of a year. -/
def firstWeek (year : Nat) : Nat :=
  let first := daysBeforeYear year
  let monday := first - weekday first
  if 3 < weekday first then monday + 7 else monday

def hasLongWeekYear (year : Nat) : Bool :=
  let first := weekday (daysBeforeYear year)
  first == 3 || (first == 2 && isLeap year)

/-- The date of a day of a numbered week. -/
def ofWeek? (year week day : Nat) : Option Date :=
  let lastWeek := if hasLongWeekYear year then 53 else 52
  if 1 ≤ year && year ≤ 9999 && 1 ≤ week && week ≤ lastWeek && 1 ≤ day && day ≤ 7 then
    some (ofDayNumber (firstWeek year + (week - 1) * 7 + (day - 1)))
  else none

end Date

end Phrasebook
