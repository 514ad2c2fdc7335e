import Phrasebook.Value.Equality
import Phrasebook.Value.Convert
import Phrasebook.Value.Written
import Phrasebook.Text.CaseMap

/-!
# Slots

A slot declares the type of a value that a template reads, the limits it keeps, and what stands in
for a required value that is missing.  Limits are kept as they were declared: a length or number
limit may turn out unsuitable only when a value is held against it.
-/

namespace Phrasebook

/-- A change of letter case. -/
inductive CaseChange where
  | lowercase
  | uppercase
  | capitalize
  deriving DecidableEq, Repr

namespace CaseChange

def name : CaseChange → String
  | .lowercase => "lowercase"
  | .uppercase => "uppercase"
  | .capitalize => "capitalize"

def ofName? (name : String) : Option CaseChange :=
  [lowercase, uppercase, capitalize].find? (·.name == name)

def apply : CaseChange → List Char → List Char
  | .lowercase => Text.lower
  | .uppercase => Text.upper
  | .capitalize => Text.capitalize

end CaseChange

/-- The type of a slot with its limits; an absent limit is null. -/
inductive SlotKind where
  | string (minLength maxLength : Value) (change : Option CaseChange)
  | number (least greatest : Value)
  | boolean
  | date (earliest latest : Value)
  deriving DecidableEq, Repr

namespace SlotKind

def name : SlotKind → String
  | .string .. => "string"
  | .number .. => "number"
  | .boolean => "boolean"
  | .date .. => "date"

/-- The limits that are present, under the names they are declared by. -/
def limits (kind : SlotKind) : List (String × Value) :=
  let present := fun (name : String) (value : Value) =>
    if value.isNull then [] else [(name, value)]
  match kind with
  | .string minLength maxLength change =>
      present "minLength" minLength ++ present "maxLength" maxLength
        ++ present "transform" ((change.map fun c => Value.text c.name).getD .null)
  | .number least greatest => present "min" least ++ present "max" greatest
  | .boolean => []
  | .date earliest latest => present "minDate" earliest ++ present "maxDate" latest

end SlotKind

structure Slot where
  required : Bool
  description : Value
  fallback : Value
  kind : SlotKind
  deriving DecidableEq, Repr

namespace Slot

/-- What a catalog shows of a slot. -/
def summary (slot : Slot) : Value :=
  .record [("type", .text slot.kind.name), ("required", .bool slot.required),
    ("description", slot.description)]

/-- The full declaration of a slot; absent parts are left out. -/
def toValue (slot : Slot) : Value :=
  let present := fun (name : String) (value : Value) =>
    if value.isNull then [] else [(name, value)]
  .record ([("type", .text slot.kind.name), ("required", .bool slot.required)]
    ++ present "description" slot.description ++ present "default" slot.fallback
    ++ slot.kind.limits)

end Slot

end Phrasebook
