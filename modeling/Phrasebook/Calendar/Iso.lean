import Phrasebook.Calendar.Instant

/-!
# Reading dates in the international format

Dates are written with or without hyphens, by month or by week; one character of any kind
separates the time, which may stop after any of its parts and may carry a fraction, and an offset
from universal time follows the time.
-/

namespace Phrasebook.IsoDate

def digitOf (c : Char) : Nat := c.toNat - '0'.toNat

/-- The number written by exactly `count` digits, and the rest of the text. -/
def fixedDigits : (count : Nat) → List Char → Option (Nat × List Char)
  | 0, text => some (0, text)
  | _ + 1, [] => none
  | count + 1, c :: rest =>
      if c.isDigit then
        (fixedDigits count rest).map fun read => (digitOf c * Nat.pow 10 count + read.1, read.2)
      else none

/-- The place of the separator behind a week date without hyphens: a single digit after the week is
the day, and an even number of further digits is a time without a day before it. -/
def compactWeekEnd (text : List Char) : Nat :=
  let stop := 7 + ((text.drop 7).takeWhile Char.isDigit).length
  if stop < 9 then stop else if stop % 2 == 0 then 7 else 8

/-- The place of the character between date and time. -/
def separatorPlace (text : List Char) : Nat :=
  if text.length == 7 then 7
  else if text[4]? == some '-' then
    if text[5]? == some 'W' then
      if text[8]? == some '-' then
        if (text[10]?.map Char.isDigit).getD false then 8 else 10
      else 8
    else 10
  else if text[4]? == some 'W' then compactWeekEnd text
  else 8

/-- The digits after a hyphen if there are hyphens at all. -/
def afterHyphen (hyphens : Bool) (text : List Char) : Option (List Char) :=
  if hyphens then
    match text with
    | '-' :: rest => some rest
    | _ => none
  else some text

def readWeekDate (year : Nat) (hyphens : Bool) (text : List Char) : Option Date := do
  let (week, rest) ← fixedDigits 2 text
  if rest.isEmpty then Date.ofWeek? year week 1
  else
    let (day, _) ← fixedDigits 1 (← afterHyphen hyphens rest)
    Date.ofWeek? year week day

def readMonthDate (year : Nat) (hyphens : Bool) (text : List Char) : Option Date := do
  let (month, rest) ← fixedDigits 2 text
  let (day, _) ← fixedDigits 2 (← afterHyphen hyphens rest)
  return { year := year, month := month, day := day }

def readDate (text : List Char) : Option Date := do
  let (year, rest) ← fixedDigits 4 text
  let (hyphens, rest) :=
    match rest with
    | '-' :: others => (true, others)
    | _ => (false, rest)
  match rest with
  | 'W' :: others => readWeekDate year hyphens others
  | _ => readMonthDate year hyphens rest

/-- What follows the two-digit fields of a time: nothing, one more character, or a fraction. -/
inductive Tail where
  | done (leftover : Bool)
  | fraction (text : List Char)

/-- Up to `left` fields of two digits.  The first character after a field decides whether colons
separate all of them. -/
def readFields : (left : Nat) → (colons : Option Bool) → List Char → Option (List Nat × Tail)
  | 0, _, text => some ([], .fraction text)
  | left + 1, colons, text =>
      match fixedDigits 2 text with
      | none => none
      | some (value, []) => some ([value], .done false)
      | some (value, [c]) => if c.toNat < 128 then some ([value], .done true) else none
      | some (value, c :: more) =>
          let separated := colons.getD (c == ':')
          if separated && c == ':' then
            (readFields left (some true) more).map fun read => (value :: read.1, read.2)
          else if c == '.' || c == ',' then some ([value], .fraction more)
          else if separated then none
          else (readFields left (some false) (c :: more)).map fun read => (value :: read.1, read.2)

/-- The microseconds of a fraction, cut after six digits, and whether anything else follows it. -/
def readFraction (text : List Char) : Option (Nat × Bool) := do
  let count := min 6 text.length
  let (value, rest) ← fixedDigits count text
  return (value * Nat.pow 10 (6 - count), !(rest.dropWhile Char.isDigit).isEmpty)

/-- A time up to its offset, and whether a character is left over. -/
def readClock (text : List Char) : Option (TimeOfDay × Bool) := do
  let (fields, tail) ← readFields 3 none text
  let (fraction, leftover) ←
    match tail with
    | .done leftover => some (0, leftover)
    | .fraction text => readFraction text
  return (⟨fields.getD 0 0, fields.getD 1 0, fields.getD 2 0, fraction⟩, leftover)

def isOffsetMark (c : Char) : Bool := c == '+' || c == '-' || c == 'Z'

/-- The offset that a signed clock writes; an offset without whole seconds is none at all. -/
def offsetOf (negative : Bool) (clock : TimeOfDay) : Option Int :=
  let count := clock.microseconds
  if count < 1000000 then some 0
  else if Instant.dayLength ≤ count then none
  else some (if negative then -(count : Int) else count)

def readOffset : List Char → Option Int
  | [] => none
  | 'Z' :: rest => if rest.isEmpty then some 0 else none
  | sign :: rest => do
      let (clock, leftover) ← readClock rest
      if leftover then none else offsetOf (sign == '-') clock

/-- A time of day with its offset, if it has one. -/
def readTime (text : List Char) : Option (TimeOfDay × Option Int) := do
  let clockText := text.takeWhile fun c => !isOffsetMark c
  let offsetText := text.dropWhile fun c => !isOffsetMark c
  let (clock, leftover) ← readClock clockText
  if offsetText.isEmpty then
    if leftover then none else some (clock, none)
  else some (clock, some (← readOffset offsetText))

/-- The moment that a text in the international format denotes; without an offset, in universal
time. -/
def read? (text : List Char) : Option Moment :=
  if text.length < 7 then none
  else do
    let place := separatorPlace text
    let date ← readDate (text.take place)
    let (time, offset) ←
      if text.length ≤ place then some (TimeOfDay.midnight, none)
      else readTime (text.drop (place + 1))
    if date.isValid && time.isValid then some ⟨date, time, offset.getD 0⟩ else none

end Phrasebook.IsoDate
