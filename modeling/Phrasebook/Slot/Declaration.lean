import Phrasebook.Slot.Basic

/-!
# Reading slot declarations

A declaration is a mapping.  Limits under `validation` count as if they stood beside the other
entries and take precedence over them; lengths and dates may be spelled in two ways.
-/

namespace Phrasebook.Slot

/-- The entries of a declaration with those under `validation` written over them. -/
def flattened (data : Value) : Except Fault (List (Key × Value)) := do
  let entries ← data.toEntries
  let nested := (Value.fieldOrNull "validation" entries).orElse (.mapping [])
  return OrderedMap.merge (OrderedMap.erase (.text "validation") entries) (← nested.toEntries)

/-- The entry under the first spelling if it is present at all, else under the second. -/
def spelled (first second : String) (entries : List (Key × Value)) : Value :=
  Value.fieldOr first (Value.fieldOrNull second entries) entries

def changeOf (value : Value) : Except Fault (Option CaseChange) :=
  if value.holds then do
    let name := lowered (← value.toText)
    match CaseChange.ofName? name with
    | some change => return some change
    | none => invalid (.unknownTransform name)
  else .ok none

/-- Fails with the given cause when a limit is present and the test on it succeeds. -/
def forbid (cause : Invalid) (limit : Value) (test : Value → Except Fault Bool) :
    Except Fault Unit :=
  if limit.isNull then .ok ()
  else do if ← test limit then invalid cause

def checkLengths (minLength maxLength : Value) : Except Fault Unit := do
  forbid .negativeMinLength minLength (·.lessThan (.int 0))
  forbid .maxLengthBelowOne maxLength (·.lessThan (.int 1))
  if !minLength.isNull then
    forbid .minLengthAboveMaxLength maxLength minLength.greaterThan

def stringKind (entries : List (Key × Value)) : Except Fault SlotKind := do
  let minLength := spelled "minLength" "min_length" entries
  let maxLength := spelled "maxLength" "max_length" entries
  let change ← changeOf (Value.fieldOrNull "transform" entries)
  checkLengths minLength maxLength
  return .string minLength maxLength change

def numberKind (entries : List (Key × Value)) : Except Fault SlotKind := do
  let least := Value.fieldOrNull "min" entries
  let greatest := Value.fieldOrNull "max" entries
  if !least.isNull then forbid .minAboveMax greatest least.greaterThan
  return .number least greatest

def dateKind (entries : List (Key × Value)) : SlotKind :=
  .date (spelled "minDate" "min_date" entries) (spelled "maxDate" "max_date" entries)

def kindOf (entries : List (Key × Value)) : Except Fault SlotKind :=
  let name := lowered (Value.fieldOr "type" (.text "string") entries).written
  if name == "string" then stringKind entries
  else if name == "number" then numberKind entries
  else if name == "boolean" then .ok .boolean
  else if name == "date" then .ok (dateKind entries)
  else invalid (.unknownSlotType name)

def ofEntries (entries : List (Key × Value)) : Except Fault Slot := do
  return {
    required := (Value.fieldOr "required" (.bool false) entries).holds
    description := Value.fieldOrNull "description" entries
    fallback := Value.fieldOrNull "default" entries
    kind := ← kindOf entries }

/-- A slot of plain text, given by nothing but the parts that all slots have. -/
def ofCommonParts (parts : List (Key × Value)) : Except Fault Slot :=
  if parts.all fun part => ["required", "description", "default"].any fun name =>
      part.1 == .text name then
    .ok {
      required := (Value.fieldOr "required" (.bool false) parts).holds
      description := Value.fieldOrNull "description" parts
      fallback := Value.fieldOrNull "default" parts
      kind := .string .null .null none }
  else .error .unsuitable

/-- The slot that a declaration describes. -/
def ofValue (data : Value) : Except Fault Slot := do ofEntries (← flattened data)

end Phrasebook.Slot
