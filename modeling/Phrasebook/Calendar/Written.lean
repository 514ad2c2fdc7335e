import Phrasebook.Calendar.Parts
import Phrasebook.Calendar.Tidied
import Phrasebook.Calendar.Wording
import Phrasebook.Calendar.Zone

/-!
# Reading dates as people write them

A written date names a day, a month and a year, by numbers or with the name of the month, in one of
the known languages; a time of day and a zone may stand anywhere in it.  A number of seconds since
the start of 1970 is a date too.
-/

namespace Phrasebook.WrittenDate

/-- The kinds of characters that make up tokens of dates; colons join numbers. -/
inductive Kind where
  | number
  | word
  | other
  deriving DecidableEq, Repr

def kindOf (c : Char) : Kind :=
  if c.isDigit || c == ':' then .number else if c.isAlpha then .word else .other

structure Token where
  kind : Kind
  text : List Char
  deriving DecidableEq, Repr

/-- The maximal runs of characters of one kind. -/
def runs : List Char → List Token
  | [] => []
  | c :: rest =>
      match runs rest with
      | [] => [⟨kindOf c, [c]⟩]
      | token :: others =>
          if token.kind = kindOf c then { token with text := c :: token.text } :: others
          else ⟨kindOf c, [c]⟩ :: token :: others

def tokens (text : List Char) : List Token :=
  (runs text).map fun token => { token with text := Text.trim token.text }

/-- Numbers and words with their places among all tokens. -/
def significant (all : List Token) : List (Token × Nat) :=
  all.zipIdx.filter fun (token, _) => token.kind ≠ .other

def isPoint (token : Token) : Bool := token.text = ['.']

/-- The token before a place; before the first place stands the last token. -/
def tokenBefore? (all : List Token) (place : Nat) : Option Token :=
  if place = 0 then all.getLast? else all[place - 1]?

/-- At most six digits from the first one on. -/
def firstDigits (text : List Char) : List Char :=
  ((text.dropWhile fun c => !c.isDigit).takeWhile Char.isDigit).take 6

/-- The fraction that follows a clock with colons: a number behind a point. -/
def fraction? (all : List Token) (token : Token) (next : Option (Token × Nat)) :
    Option (List Char) := do
  let (following, _) ← next
  let place ← all.findIdx? (· == following)
  let before ← tokenBefore? all place
  let digits := firstDigits following.text
  if token.text.contains ':' && following.kind = .number && before.text.contains '.'
      && !digits.isEmpty then
    some digits
  else none

/-- Hours up to 23 with one or two digits and minutes with two. -/
def isHourMinute (hour minute : List Char) : Bool :=
  Clock.isField hour && numberOf hour < 24 && Clock.isField minute && minute.length = 2
    && numberOf minute < 60

/-- The minutes that follow an hour behind a point, where no more points stand around them. -/
def dottedMinute? (all : List Token) (token : Token) (place : Nat) (next : Option (Token × Nat)) :
    Option (List Char) := do
  let (following, followingPlace) ← next
  let pointAt := fun (place : Nat) => (all[place]?.map isPoint).getD false
  if pointAt (place + 1) && !(0 < place && pointAt (place - 1)) && !pointAt (followingPlace + 1)
      && isHourMinute token.text following.text then
    some following.text
  else none

/-- The half of the day that a token names. -/
def meridian? : List Char → Option Meridian
  | [] => none
  | 'a' :: 'm' :: _ => some .am
  | 'p' :: 'm' :: _ => some .pm
  | _ :: rest => meridian? rest

/-- The clock that starts with a token, if any does, and how many of the following tokens belong to
it. -/
def clock? (all : List Token) (token : Token) (place : Nat) (rest : List (Token × Nat)) :
    Option (Clock × Nat) :=
  let fraction := fraction? all token rest.head?
  let minute := dottedMinute? all token place rest.head?
  let parts := fraction.toList.length + minute.toList.length
  let meridian := (rest[parts]?).bind fun following => meridian? following.1.text
  let fields := Clock.splitAtColons token.text ++ minute.toList
  if token.text.contains ':' || minute.isSome || meridian.isSome then
    some (⟨fields, fraction, meridian⟩, parts + meridian.toList.length)
  else none

/-- Words that say nothing in a date in common words. -/
def isIdle (text : List Char) : Bool :=
  ["t", "year", "hour", "minute"].contains (String.ofList text)

/-- The parts of the date and its clock in a list of significant tokens, of which the first `skip`
have been read already. -/
def readTokens (order : List DatePart) (all : List Token) : (skip : Nat) →
    DateParts → Option Clock → List (Token × Nat) → Option (DateParts × Option Clock)
  | _, parts, clock, [] => some (parts, clock)
  | skip + 1, parts, clock, _ :: rest => readTokens order all skip parts clock rest
  | 0, parts, clock, (token, place) :: rest =>
      if isIdle token.text then readTokens order all 0 parts clock rest
      else
        match if clock.isNone then clock? all token place rest else none with
        | some (found, used) => readTokens order all used parts (some found) rest
        | none => do
            let parts ←
              match token.kind with
              | .number => parts.addNumber? order token.text
              | _ => parts.addName? token.text
            readTokens order all 0 parts clock rest

/-- Brackets around parts of a date say nothing. -/
def isBracket (c : Char) : Bool :=
  ['(', ')', '<', '>', '[', ']', '\x7b', '\x7d'].contains c

/-- The moment that a text in common words denotes. -/
def readCommon? (order : List DatePart) (text : List Char) : Option Moment := do
  let bare := text.filter fun c => !isBracket c
  let (rest, seconds) := (Zone.split? bare).getD (bare, 0)
  let all := tokens rest
  let (parts, clock) ← readTokens order all 0 DateParts.none none (significant all)
  let date ← parts.date?
  let time ← (clock.map Clock.timeOfDay?).getD (some TimeOfDay.midnight)
  return ⟨date, time, seconds * 1000000⟩

/-- The first instant of 1970 in microseconds. -/
def epoch : Nat := Date.daysBeforeYear 1970 * Instant.dayLength

def momentAfterEpoch (microseconds : Nat) : Moment :=
  let count := epoch + microseconds
  ⟨Date.ofDayNumber (count / Instant.dayLength),
    TimeOfDay.ofMicroseconds (count % Instant.dayLength), 0⟩

/-- The moment that a count of seconds, milliseconds or microseconds since the start of 1970
denotes; the count of digits tells which, and whatever follows a point is disregarded. -/
def readCount? (text : List Char) : Option Moment :=
  let digits := (text.takeWhile Text.isDecimalDigit).filterMap Text.digitValue?
  let value := digits.foldl (fun value digit => value * 10 + digit) 0
  let ends := (text.dropWhile Text.isDecimalDigit).head?.getD '.' == '.'
  if !ends then none
  else if digits.length = 10 then some (momentAfterEpoch (value * 1000000))
  else if digits.length = 13 then some (momentAfterEpoch (value * 1000))
  else if digits.length = 16 then some (momentAfterEpoch value)
  else none

/-- The moment that a tidied text denotes in a language, which must explain the text or what is left
of it without its zone. -/
def readIn? (language : DateLanguage) (text : List Char) : Option Moment :=
  let withoutZone := (Zone.split? text).map (·.1)
  if DateWording.explains language text
      || (withoutZone.map (DateWording.explains language)).getD false then
    (readCount? text).or (readCommon? language.order (DateWording.inCommonWords language text))
  else none

/-- The moment that a written date denotes, read in the first language that fits. -/
def read? (text : List Char) : Option Moment :=
  DateLanguage.all.findSome? (readIn? · (TidiedDate.tidied text))

end Phrasebook.WrittenDate
