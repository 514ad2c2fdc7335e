import Phrasebook.Calendar.Reading
import Phrasebook.Slot.Declaration

/-!
# Coercing captured text

`read` turns a captured text into a value of its slot or says why it cannot.  `coerce` is the
lenient form used for messages: a blank or rejected text counts as missing, and only limits that
are not of the declared kind are an error.
-/

namespace Phrasebook.Slot

/-- A number of characters, where a limit is one. -/
def countOf : Value → Except Fault Nat
  | .number (.int count) => .ok count.toNat
  | .bool one => .ok (if one then 1 else 0)
  | _ => .error .unsuitable

/-- The text cut to its greatest length. -/
def cutTo (maxLength : Value) (text : List Char) : Except Fault (List Char) :=
  if maxLength.isNull then .ok text
  else do
    if ← (Value.int text.length).greaterThan maxLength then
      return text.take (← countOf maxLength)
    else return text

/-- The form of a limit in a message, unless it is a whole number with too many digits for one. -/
def shown (limit : Value) : Except Fault String :=
  if limit.isWritable then .ok limit.written else invalid .unwritableWhole

/-- Rejects a text when a limit is present and the test on it succeeds; the reason shows the
limit. -/
def reject (reason : String → Rejection) (limit : Value) (test : Value → Except Fault Bool) :
    Except Fault Unit :=
  if limit.isNull then .ok ()
  else do if ← test limit then invalid (.rejected (reason (← shown limit)))

def changed : Option CaseChange → List Char → List Char
  | some change, text => change.apply text
  | none, text => text

def readString (minLength maxLength : Value) (change : Option CaseChange) (raw : String) :
    Except Fault String := do
  let text := changed change (Text.trim raw.toList)
  reject .tooShort minLength (Value.int text.length).lessThan
  return String.ofList (← cutTo maxLength text)

def readNumber (least greatest : Value) (raw : String) : Except Fault Real64 :=
  match Numeral.real? (trimmed raw) with
  | none => invalid (.rejected (.notNumber raw))
  | some number =>
      if number.isFinite then do
        reject (.below number.text) least (Value.real number).lessThan
        reject (.above number.text) greatest (Value.real number).greaterThan
        return number
      else invalid (.rejected (.notFinite raw))

def affirmatives : List String := ["true", "verdadero", "sí", "si", "yes", "1", "on"]

def negatives : List String := ["false", "falso", "no", "0", "off"]

def readBoolean (raw : String) : Except Fault Bool :=
  let token := lowered (trimmed raw)
  if affirmatives.contains token then .ok true
  else if negatives.contains token then .ok false
  else invalid (.rejected (.notBoolean raw))

/-- The instant that bounds a date. -/
def dateLimit (limit : Value) : Except Fault Instant := do Instant.ofText (← limit.toText)

def readDate (earliest latest : Value) (raw : String) : Except Fault String := do
  let instant ← Instant.ofText raw
  reject (.before raw) earliest fun limit => do
    return instant.microseconds < (← dateLimit limit).microseconds
  reject (.after raw) latest fun limit => do
    return (← dateLimit limit).microseconds < instant.microseconds
  return instant.text

/-- The value of a slot that a text writes. -/
def read (slot : Slot) (raw : String) : Except Fault Value :=
  match slot.kind with
  | .string minLength maxLength change => do
      return .text (← readString minLength maxLength change raw)
  | .number least greatest => do return .real (← readNumber least greatest raw)
  | .boolean => do return .bool (← readBoolean raw)
  | .date earliest latest => do return .text (← readDate earliest latest raw)

/-- A rejection counts as no value; any other fault stays one. -/
def orMissing : Except Fault Value → Except Fault (Option Value)
  | .ok value => .ok (some value)
  | .error (.invalid (.rejected _)) => .ok none
  | .error fault => .error fault

def coerceText (slot : Slot) (raw : String) : Except Fault (Option Value) :=
  if isBlankText raw then .ok none else orMissing (slot.read raw)

/-- The value made of a captured text; null stands for no capture. -/
def coerce (slot : Slot) (captured : Value) : Except Fault (Option Value) :=
  if captured.isNull then .ok none else do coerceText slot (← captured.toText)

/-- Coercion where no slot tells how: nothing is made of a blank text, and any other has no
meaning. -/
def coerceUndeclared (captured : Value) : Except Fault (Option Value) :=
  if captured.isNull then .ok none
  else do if isBlankText (← captured.toText) then return none else .error .unsuitable

/-- The coerced value, or the fallback of a required slot in place of a missing one. -/
def deliver (slot : Slot) (captured : Value) : Except Fault (Option Value) := do
  match ← slot.coerce captured with
  | some value => return some value
  | none => return if slot.required && !slot.fallback.isNull then some slot.fallback else none

end Phrasebook.Slot
