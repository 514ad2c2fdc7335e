import Phrasebook.Service.Lenient
import Phrasebook.Value.Convert
import Phrasebook.Value.Order
import Phrasebook.Value.Written

/-!
# Shapes of request bodies

Before a request is looked at, its body is checked part by part.  Every violation is reported with
the place of the offending part.  Numbers may be given as texts and truth values, and whole numbers
as reals without a fraction.
-/

namespace Phrasebook.Service

/-- One step on the way from a body to a part of it. -/
inductive Step where
  | field (name : String)
  | index (place : Nat)
  deriving DecidableEq, Repr

/-- What is wrong with a part, under the name that it is reported by. -/
inductive Complaint where
  | missing
  | invalidJson
  | notModel
  | notText
  | notList
  | notMapping
  | tooShort
  | notReal
  | unreadableReal
  | notWhole
  | unreadableWhole
  | wholeTooLong
  | fractional
  | notFinite
  deriving DecidableEq, Repr

def Complaint.name : Complaint → String
  | .missing => "missing"
  | .invalidJson => "json_invalid"
  | .notModel => "model_attributes_type"
  | .notText => "string_type"
  | .notList => "list_type"
  | .notMapping => "dict_type"
  | .tooShort => "too_short"
  | .notReal => "float_type"
  | .unreadableReal => "float_parsing"
  | .notWhole => "int_type"
  | .unreadableWhole => "int_parsing"
  | .wholeTooLong => "int_parsing_size"
  | .fractional => "int_from_float"
  | .notFinite => "finite_number"

/-- A complaint about the part at a place, with what was found there; where a part is missing, with
the whole in which it is missing. -/
structure Violation where
  complaint : Complaint
  place : List Step
  found : Value

/-- A part that fits, or all that is wrong with it. -/
abbrev Checked (α : Type) := Except (List Violation) α

def complain {α : Type} (complaint : Complaint) (place : List Step) (found : Value) : Checked α :=
  .error [⟨complaint, place, found⟩]

/-- Both parts, or the violations of both. -/
def both {α β γ : Type} (combine : α → β → γ) : Checked α → Checked β → Checked γ
  | .ok left, .ok right => .ok (combine left right)
  | .ok _, .error right => .error right
  | .error left, .ok _ => .error left
  | .error left, .error right => .error (left ++ right)

/-- All parts, or the violations of all of them. -/
def every {α : Type} : List (Checked α) → Checked (List α)
  | [] => .ok []
  | part :: rest => both List.cons part (every rest)

/-- A check of the part at a place. -/
abbrev Check (α : Type) := List Step → Value → Checked α

def checkText : Check Value
  | _, .text value => .ok (.text value)
  | place, value => complain .notText place value

def checkAnything : Check Value := fun _ value => .ok value

/-- A part that may be null instead. -/
def optionally (check : Check Value) : Check Value
  | _, .null => .ok .null
  | place, value => check place value

def checkItems (check : Check Value) (place : List Step) :
    (index : Nat) → List Value → List (Checked Value)
  | _, [] => []
  | index, item :: rest =>
      check (place ++ [.index index]) item :: checkItems check place (index + 1) rest

def checkList (check : Check Value) (least : Nat) : Check Value
  | place, .list items =>
      if items.length < least then complain .tooShort place (.list items)
      else (every (checkItems check place 0 items)).map .list
  | place, value => complain .notList place value

def checkMapping (check : Check Value) : Check Value
  | place, .mapping entries =>
      (every (entries.map fun entry =>
          (check (place ++ [.field entry.1.name]) entry.2).map fun value => (entry.1, value))).map
        .mapping
  | place, value => complain .notMapping place value

def checkReal : Check Value
  | place, .text text =>
      match Lenient.real? text.toList with
      | some number => .ok (.real number)
      | none => complain .unreadableReal place (.text text)
  | place, value =>
      match value.number? with
      | some number =>
          match number.toReal with
          | .ok nearest => .ok (.real nearest)
          | .error _ => complain .notReal place value
      | none => complain .notReal place value

/-- The whole number that a real is, if it is one between the bounds of a word of 64 bits. -/
def wholeOfReal (real : Real64) : Except Complaint Int :=
  match (Number.real real).toWhole with
  | .ok whole =>
      if !(Number.int whole).same (.real real) then .error .fractional
      else if whole.natAbs < Nat.pow 2 63 then .ok whole
      else .error .wholeTooLong
  | .error _ => .error .notFinite

def checkWhole : Check Value
  | place, .text text =>
      match Lenient.whole text.toList with
      | .ok number => .ok (.int number)
      | .error .malformed => complain .unreadableWhole place (.text text)
      | .error (.tooLong _) => complain .wholeTooLong place (.text text)
  | _, .bool value => .ok (.int (if value then 1 else 0))
  | _, .number (.int value) => .ok (.int value)
  | place, .number (.real value) =>
      match wholeOfReal value with
      | .ok whole => .ok (.int whole)
      | .error complaint => complain complaint place (.real value)
  | place, value => complain .notWhole place value

/-- A part of a body: its name, its check, and what stands for it when it is missing. -/
structure Part where
  name : String
  check : Check Value
  missing : Option Value

/-- The part of a body under its name. -/
def Part.read (entries : List (Key × Value)) (part : Part) : Checked (String × Value) :=
  let place := [Step.field "body", .field part.name]
  match Value.field? part.name entries, part.missing with
  | some value, _ => (part.check place value).map fun checked => (part.name, checked)
  | none, some standing => .ok (part.name, standing)
  | none, none => complain .missing place (.mapping entries)

/-- The parts of a body that is a mapping; other entries are left out. -/
def readParts (parts : List Part) : Value → Checked (List (String × Value))
  | .mapping entries => every (parts.map (Part.read entries))
  | value => complain .notModel [.field "body"] value

/-- A text to be detected, and the method to do it by. -/
def detectionParts : List Part :=
  [⟨"text", checkText, none⟩, ⟨"method", optionally checkText, some .null⟩]

def intentParts : List Part :=
  [⟨"id", checkText, none⟩, ⟨"name", optionally checkText, some .null⟩,
    ⟨"description", optionally checkText, some .null⟩,
    ⟨"patterns", checkList checkText 1, none⟩,
    ⟨"parameters", checkMapping (checkMapping checkAnything), some (.mapping [])⟩,
    ⟨"synonyms", checkMapping (checkList checkText 0), some (.mapping [])⟩,
    ⟨"confidence", optionally checkReal, some .null⟩,
    ⟨"priority", optionally checkWhole, some .null⟩]

/-- A body that is a mapping of any kind. -/
def readEntries : Value → Checked (List (Key × Value))
  | .mapping entries => .ok entries
  | value => complain .notMapping [.field "body"] value

end Phrasebook.Service
