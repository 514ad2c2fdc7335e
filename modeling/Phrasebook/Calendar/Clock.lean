import Phrasebook.Calendar.Instant

/-!
# Clocks

A clock is a time of day as it is written: fields between colons, a fraction of the second and a
half of the day, of which only the fields must be there.
-/

namespace Phrasebook

/-- The number that digits of ASCII write. -/
def numberOf (digits : List Char) : Nat :=
  digits.foldl (fun value c => value * 10 + (c.toNat - '0'.toNat)) 0

/-- The halves of a day. -/
inductive Meridian where
  | am
  | pm
  deriving DecidableEq, Repr

structure Clock where
  fields : List (List Char)
  fraction : Option (List Char)
  meridian : Option Meridian
  deriving DecidableEq, Repr

namespace Clock

/-- The texts between colons. -/
def splitAtColons : List Char → List (List Char)
  | [] => [[]]
  | c :: rest =>
      if c = ':' then [] :: splitAtColons rest
      else
        match splitAtColons rest with
        | [] => [[c]]
        | field :: fields => (c :: field) :: fields

/-- A field has one or two digits. -/
def isField (field : List Char) : Bool :=
  !field.isEmpty && field.length ≤ 2 && field.all Char.isDigit

/-- The hour of the day that an hour of a half means. -/
def hourOf? (meridian : Meridian) (hour : Nat) : Option Nat :=
  if 1 ≤ hour && hour ≤ 12 then
    some (hour % 12 + match meridian with | .am => 0 | .pm => 12)
  else none

/-- The microseconds of a fraction of at most six digits. -/
def microsecondsOf (fraction : List Char) : Nat :=
  numberOf fraction * Nat.pow 10 (6 - fraction.length)

/-- The hour of the day; the half is disregarded where the hour is one of the whole day and exactly
minutes are given. -/
def hour? (clock : Clock) (count hour : Nat) : Option Nat :=
  match clock.meridian with
  | none => if 2 ≤ count then some hour else none
  | some meridian => (hourOf? meridian hour).or (if count = 2 then some hour else none)

/-- A fraction belongs to seconds. -/
def timeOfDay? (clock : Clock) : Option TimeOfDay :=
  let fits :=
    clock.fields.all isField && clock.fields.length ≤ 3
      && (clock.fraction.isNone || clock.fields.length = 3)
  if fits then do
    let values := clock.fields.map numberOf
    let hour ← clock.hour? values.length (← values[0]?)
    let time : TimeOfDay :=
      ⟨hour, values.getD 1 0, values.getD 2 0, microsecondsOf (clock.fraction.getD [])⟩
    if time.isValid then some time else none
  else none

end Clock

end Phrasebook
