import Mathlib
import Phrasebook.Slot.Declaration
import Phrasebook.Proofs.Fault
import Phrasebook.Proofs.OrderedMap

/-!
# A slot is read back from its declaration

A slot that was read declares itself in full: what it leaves out is read as absent, and limits that
were let through once are let through again.
-/

namespace Phrasebook

/-! ## Records -/

namespace Value

/-- The entries of a record. -/
def named (fields : List (String × Value)) : List (Key × Value) :=
  fields.map fun field => (.text field.1, field.2)

/-- A field that is left out if its value is null. -/
def given (name : String) (value : Value) : List (String × Value) :=
  if value.isNull then [] else [(name, value)]

theorem record_eq (fields : List (String × Value)) : record fields = .mapping (named fields) := rfl

@[simp]
theorem field?_named (name : String) (fields : List (String × Value)) :
    field? name (named fields) = OrderedMap.get? name fields := by
  induction fields with
  | nil => rfl
  | cons field fields ih =>
      rw [field?, named] at ih
      rw [field?, named, List.map_cons, OrderedMap.get?, OrderedMap.get?, ih]
      rfl

@[simp]
theorem fieldOr_named (name : String) (other : Value) (fields : List (String × Value)) :
    fieldOr name other (named fields) = (OrderedMap.get? name fields).getD other := by
  rw [fieldOr, field?_named]

@[simp]
theorem fieldOrNull_named (name : String) (fields : List (String × Value)) :
    fieldOrNull name (named fields) = (OrderedMap.get? name fields).getD .null :=
  fieldOr_named name .null fields

@[simp]
theorem get?_given (name : String) (value : Value) :
    OrderedMap.get? name (given name value) = if value.isNull then none else some value := by
  rw [given]
  split
  · rfl
  · simp [OrderedMap.get?]

@[simp]
theorem get?_given_of_ne {name other : String} (hne : other ≠ name) (value : Value) :
    OrderedMap.get? name (given other value) = none := by
  rw [given]
  split
  · rfl
  · simp [OrderedMap.get?, hne]

/-- A value that is left out because it is null is read as null. -/
@[simp]
theorem getD_given (value : Value) :
    (if value.isNull then none else some value).getD .null = value := by
  cases value <;> rfl

end Value

/-! ## Limits -/

namespace SlotKind

/-- Limits that do not exclude each other. -/
def IsConsistent : SlotKind → Prop
  | .string minLength maxLength _ => Slot.checkLengths minLength maxLength = .ok ()
  | .number least greatest =>
      least.isNull = false → Slot.forbid .minAboveMax greatest least.greaterThan = .ok ()
  | .boolean | .date .. => True

@[simp]
theorem limits_string (minLength maxLength : Value) (change : Option CaseChange) :
    (string minLength maxLength change).limits =
      Value.given "minLength" minLength ++ Value.given "maxLength" maxLength
        ++ Value.given "transform" ((change.map fun c => Value.text c.name).getD .null) := rfl

@[simp]
theorem limits_number (least greatest : Value) :
    (number least greatest).limits = Value.given "min" least ++ Value.given "max" greatest := rfl

@[simp]
theorem limits_boolean : boolean.limits = [] := rfl

@[simp]
theorem limits_date (earliest latest : Value) :
    (date earliest latest).limits =
      Value.given "minDate" earliest ++ Value.given "maxDate" latest := rfl

/-- No limit goes by a name that has a meaning in every declaration. -/
theorem get?_limits {name : String}
    (hname : name ∈ ["required", "description", "default", "validation"]) (kind : SlotKind) :
    OrderedMap.get? name kind.limits = none := by
  fin_cases hname <;> cases kind <;> simp [OrderedMap.get?]

end SlotKind

namespace Slot

theorem changeOf_name (change : Option CaseChange) :
    changeOf ((change.map fun c => Value.text c.name).getD .null) = .ok change := by
  cases change with
  | none => rfl
  | some change => cases change <;> decide

theorem stringKind_eq_ok_iff {entries : List (Key × Value)} {kind : SlotKind} :
    stringKind entries = .ok kind ↔
      ∃ change, changeOf (Value.fieldOrNull "transform" entries) = .ok change ∧
        kind.IsConsistent ∧ kind = .string (spelled "minLength" "min_length" entries)
          (spelled "maxLength" "max_length" entries) change := by
  simp only [stringKind, bind_eq_ok_iff]
  constructor
  · rintro ⟨change, hchange, ⟨⟩, hlengths, hkind⟩
    cases hkind
    exact ⟨change, hchange, hlengths, rfl⟩
  · rintro ⟨change, hchange, hlengths, rfl⟩
    exact ⟨change, hchange, (), hlengths, rfl⟩

theorem numberKind_eq_ok_iff {entries : List (Key × Value)} {kind : SlotKind} :
    numberKind entries = .ok kind ↔
      kind.IsConsistent ∧
        kind = .number (Value.fieldOrNull "min" entries) (Value.fieldOrNull "max" entries) := by
  rw [numberKind]
  cases hleast : (Value.fieldOrNull "min" entries).isNull with
  | true =>
      constructor
      · rintro ⟨⟩
        exact ⟨fun hpresent => by simp [hleast] at hpresent, rfl⟩
      · rintro ⟨-, rfl⟩
        rfl
  | false =>
      simp only [Bool.not_false, if_true, bind_eq_ok_iff]
      constructor
      · rintro ⟨⟨⟩, hrange, hkind⟩
        cases hkind
        exact ⟨fun _ => hrange, rfl⟩
      · rintro ⟨hrange, rfl⟩
        exact ⟨(), hrange hleast, rfl⟩

theorem isConsistent_of_kindOf {entries : List (Key × Value)} {kind : SlotKind}
    (hkind : kindOf entries = .ok kind) : kind.IsConsistent := by
  simp only [kindOf] at hkind
  split at hkind
  · obtain ⟨-, -, hconsistent, -⟩ := stringKind_eq_ok_iff.mp hkind
    exact hconsistent
  · split at hkind
    · exact (numberKind_eq_ok_iff.mp hkind).1
    · split at hkind
      · cases hkind
        trivial
      · split at hkind
        · cases hkind
          trivial
        · cases hkind

theorem isConsistent_of_ofValue {data : Value} {slot : Slot} (hslot : ofValue data = .ok slot) :
    slot.kind.IsConsistent := by
  obtain ⟨entries, -, hentries⟩ := bind_eq_ok_iff.mp hslot
  obtain ⟨kind, hkind, hslot⟩ := bind_eq_ok_iff.mp hentries
  cases hslot
  exact isConsistent_of_kindOf hkind

/-! ## Declarations -/

/-- A mapping without an entry for nested limits is read as it stands. -/
theorem flattened_eq_self {entries : List (Key × Value)}
    (hnested : Value.field? "validation" entries = none) :
    flattened (.mapping entries) = .ok entries := by
  have hnull : Value.fieldOrNull "validation" entries = .null := by
    rw [Value.fieldOrNull, Value.fieldOr, hnested, Option.getD_none]
  have herase : OrderedMap.erase (.text "validation") entries = entries :=
    OrderedMap.erase_eq_self hnested
  rw [flattened, Value.toEntries, bind_eq_ok_iff]
  exact ⟨entries, rfl, by rw [hnull, herase]; rfl⟩

theorem flattened_record {fields : List (String × Value)}
    (hnested : OrderedMap.get? "validation" fields = none) :
    flattened (.record fields) = .ok (Value.named fields) :=
  flattened_eq_self ((Value.field?_named "validation" fields).trans hnested)

/-- The fields of the declaration of a slot. -/
def fields (slot : Slot) : List (String × Value) :=
  [("type", .text slot.kind.name), ("required", .bool slot.required)]
    ++ Value.given "description" slot.description ++ Value.given "default" slot.fallback
    ++ slot.kind.limits

theorem toValue_eq (slot : Slot) : slot.toValue = .record slot.fields := rfl

theorem kindOf_fields (slot : Slot) (hconsistent : slot.kind.IsConsistent) :
    kindOf (Value.named slot.fields) = .ok slot.kind := by
  have htype : Value.fieldOr "type" (.text "string") (Value.named slot.fields)
      = .text slot.kind.name := by
    simp [fields, OrderedMap.get?]
  have hlower : ∀ name ∈ ["string", "number", "boolean", "date"], lowered name = name := by
    decide
  rw [kindOf, htype]
  obtain ⟨required, description, fallback, kind⟩ := slot
  cases kind with
  | string minLength maxLength change =>
      simp only [SlotKind.name, Value.written, hlower "string" (by simp)]
      simp [stringKind_eq_ok_iff, changeOf_name, hconsistent, spelled, fields, OrderedMap.get?]
  | number least greatest =>
      simp only [SlotKind.name, Value.written, hlower "number" (by simp)]
      simp [numberKind_eq_ok_iff, hconsistent, fields, OrderedMap.get?]
  | boolean => simp [SlotKind.name, Value.written, hlower "boolean" (by simp)]
  | date earliest latest =>
      simp only [SlotKind.name, Value.written, hlower "date" (by simp)]
      simp [dateKind, spelled, fields, OrderedMap.get?]

/-- Reading what a slot declares gives the slot. -/
theorem ofValue_toValue {slot : Slot} (hconsistent : slot.kind.IsConsistent) :
    ofValue slot.toValue = .ok slot := by
  have hnested : OrderedMap.get? "validation" slot.fields = none := by
    simp [fields, SlotKind.get?_limits, OrderedMap.get?]
  have hrequired : Value.fieldOr "required" (.bool false) (Value.named slot.fields)
      = .bool slot.required := by
    simp [fields, OrderedMap.get?]
  have hdescription : Value.fieldOrNull "description" (Value.named slot.fields)
      = slot.description := by
    simp [fields, SlotKind.get?_limits, OrderedMap.get?]
  have hfallback : Value.fieldOrNull "default" (Value.named slot.fields) = slot.fallback := by
    simp [fields, SlotKind.get?_limits, OrderedMap.get?]
  rw [ofValue, toValue_eq, bind_eq_ok_iff]
  refine ⟨_, flattened_record hnested, ?_⟩
  rw [ofEntries, hrequired, hdescription, hfallback, kindOf_fields slot hconsistent]
  rfl

end Slot

end Phrasebook
