import Phrasebook.Calendar.Date
import Phrasebook.Fault

/-!
# Instants

A moment is a date with a time of day and an offset from universal time; the instant it denotes is
counted in microseconds from the start of year 1.  Instants run to the end of year 9999, and a
moment whose offset leads out of that range denotes none.
-/

namespace Phrasebook

structure TimeOfDay where
  hour : Nat
  minute : Nat
  second : Nat
  microsecond : Nat
  deriving DecidableEq, Repr

namespace TimeOfDay

def midnight : TimeOfDay := ⟨0, 0, 0, 0⟩

def isValid (time : TimeOfDay) : Bool :=
  time.hour < 24 && time.minute < 60 && time.second < 60 && time.microsecond < 1000000

def microseconds (time : TimeOfDay) : Nat :=
  ((time.hour * 60 + time.minute) * 60 + time.second) * 1000000 + time.microsecond

def ofMicroseconds (count : Nat) : TimeOfDay where
  hour := count / 3600000000
  minute := count / 60000000 % 60
  second := count / 1000000 % 60
  microsecond := count % 1000000

end TimeOfDay

/-- A date and time of day, `offset` microseconds ahead of universal time. -/
structure Moment where
  date : Date
  time : TimeOfDay
  offset : Int
  deriving DecidableEq, Repr

structure Instant where
  microseconds : Nat
  deriving DecidableEq, Repr

namespace Instant

def dayLength : Nat := 86400000000

/-- The first instant after year 9999. -/
def limit : Nat := Date.daysBeforeYear 10000 * dayLength

def date (instant : Instant) : Date := Date.ofDayNumber (instant.microseconds / dayLength)

def time (instant : Instant) : TimeOfDay :=
  TimeOfDay.ofMicroseconds (instant.microseconds % dayLength)

/-- The microseconds within the second. -/
def microsecond (instant : Instant) : Nat := instant.microseconds % 1000000

/-- The least decimal digits of a number, filled up with zeros to a width. -/
def padded (width value : Nat) : List Char :=
  let digits := Nat.toDigits 10 value
  List.replicate (width - digits.length) '0' ++ digits

/-- The canonical text: date, time and milliseconds in universal time.  The year is not padded. -/
def render (instant : Instant) : List Char :=
  let date := instant.date
  let time := instant.time
  padded 1 date.year ++ '-' :: padded 2 date.month ++ '-' :: padded 2 date.day
    ++ 'T' :: padded 2 time.hour ++ ':' :: padded 2 time.minute ++ ':' :: padded 2 time.second
    ++ '.' :: padded 3 (time.microsecond / 1000) ++ ['Z']

end Instant

namespace Moment

def microseconds (moment : Moment) : Int :=
  (moment.date.dayNumber * Instant.dayLength + moment.time.microseconds : Nat) - moment.offset

def toInstant (moment : Moment) : Except Overflow Instant :=
  let count := moment.microseconds
  if 0 ≤ count && count < Instant.limit then .ok ⟨count.toNat⟩ else .error .dateOutOfRange

end Moment

end Phrasebook
