import Mathlib
import Phrasebook.Catalog.Change
import Phrasebook.Proofs.Intent.Breaks
import Phrasebook.Proofs.Intent.Reread

/-!
# The fields of an intent

A declaration gives each field of an intent under a name of its own, and the threshold under either
of two.  A field is read from what is given for it and from nothing else, so that changes written
over a declaration replace the fields they name and leave the others as they are.
-/

namespace Phrasebook

/-! ## Entries under a name -/

theorem Key.isExact_text (name : String) : OrderedMap.IsExact (Key.text name) := by
  have hsame : ∀ left right : String, (Key.text left == Key.text right) = (left == right) :=
    fun _ _ => rfl
  intro other
  cases other with
  | text other =>
      rw [hsame, hsame, beq_iff_eq, beq_iff_eq, Key.text.injEq]
      exact ⟨Iff.rfl, eq_comm⟩
  | null | bool _ | number _ => exact ⟨iff_of_false nofun nofun, iff_of_false nofun nofun⟩

namespace Value

variable {changes : List (Key × Value)}

theorem field?_merge (name : String) (entries : List (Key × Value))
    (hdistinct : OrderedMap.IsDistinct changes) :
    field? name (OrderedMap.merge entries changes) =
      (field? name changes).or (field? name entries) :=
  (Key.isExact_text name).get?_merge entries hdistinct

theorem field?_insert_self (name : String) (value : Value) (entries : List (Key × Value)) :
    field? name (OrderedMap.insert (.text name) value entries) = some value := by
  rw [field?, (Key.isExact_text name).get?_insert, ((Key.isExact_text name _).1).mpr rfl, if_pos rfl]

theorem field?_insert_of_ne {name other : String} (hother : name ≠ other) (value : Value)
    (entries : List (Key × Value)) :
    field? name (OrderedMap.insert (.text other) value entries) = field? name entries := by
  rw [field?, (Key.isExact_text name).get?_insert, if_neg]
  · rfl
  · rw [(Key.isExact_text name _).1, Key.text.injEq]
    exact Ne.symm hother

theorem field?_erase_self (name : String) (entries : List (Key × Value)) :
    field? name (OrderedMap.erase (.text name) entries) = none := OrderedMap.get?_erase_self _ _

theorem field?_erase_of_ne {name other : String} (hother : name ≠ other)
    (entries : List (Key × Value)) :
    field? name (OrderedMap.erase (.text other) entries) = field? name entries :=
  (Key.isExact_text name).get?_erase_of_ne (mt Key.text.inj hother) entries

end Value

namespace Catalog

variable {changes : List (Key × Value)}

theorem isDistinct_withShortNames (hdistinct : OrderedMap.IsDistinct changes) :
    OrderedMap.IsDistinct (withShortNames changes) := by
  rw [withShortNames]
  split
  · exact (hdistinct.erase _).insert _ _
  · exact hdistinct

/-- The threshold goes by its short name, whichever of the two it was given under. -/
theorem field?_withShortNames_short (changes : List (Key × Value)) :
    Value.field? "confidence" (withShortNames changes) =
      (Value.field? "confidence_threshold" changes).or (Value.field? "confidence" changes) := by
  rw [withShortNames]
  cases hlong : Value.field? "confidence_threshold" changes with
  | none => rfl
  | some threshold => exact Value.field?_insert_self _ _ _

theorem field?_withShortNames_long (changes : List (Key × Value)) :
    Value.field? "confidence_threshold" (withShortNames changes) = none := by
  rw [withShortNames]
  cases hlong : Value.field? "confidence_threshold" changes with
  | none => exact hlong
  | some threshold =>
      exact (Value.field?_insert_of_ne (by decide) _ _).trans (Value.field?_erase_self _ _)

theorem field?_withShortNames_of_ne {name : String} (hshort : name ≠ "confidence")
    (hlong : name ≠ "confidence_threshold") (changes : List (Key × Value)) :
    Value.field? name (withShortNames changes) = Value.field? name changes := by
  rw [withShortNames]
  split
  · rw [Value.field?_insert_of_ne hshort, Value.field?_erase_of_ne hlong]
  · rfl

end Catalog

namespace Intent

/-! ## Fields -/

/-- What a declaration can say of an intent besides its id. -/
inductive Field where
  | name
  | description
  | patterns
  | parameters
  | synonyms
  | threshold
  | priority
  deriving DecidableEq

namespace Field

/-- The name of a field in declarations. -/
def shortName : Field → String
  | name => "name"
  | description => "description"
  | patterns => "patterns"
  | parameters => "parameters"
  | synonyms => "synonyms"
  | threshold => "confidence"
  | priority => "priority"

/-- The other name that the threshold has. -/
def longName? : Field → Option String
  | threshold => some "confidence_threshold"
  | _ => none

section

variable (entries : List (Key × Value)) (field : Field)

/-- What entries give for a field under its long name. -/
def givenLong : Option Value := field.longName?.bind fun name => Value.field? name entries

/-- What a declaration gives for a field; its short name prevails. -/
def given : Option Value := (Value.field? field.shortName entries).or (field.givenLong entries)

/-- What changes give for a field; its long name prevails. -/
def changed : Option Value := (field.givenLong entries).or (Value.field? field.shortName entries)

/-- The entries have a field under either of its names. -/
def IsNamed : Prop := field.given entries ≠ none

end

/-- What a field can be. -/
def Content : Field → Type
  | name | description => String
  | patterns => List String
  | parameters => Schema
  | synonyms => Synonyms
  | threshold => Real64
  | priority => Number

/-- The field of an intent. -/
def content (intent : Intent) : (field : Field) → field.Content
  | name => intent.name
  | description => intent.description
  | patterns => intent.patterns
  | parameters => intent.parameters
  | synonyms => intent.synonyms
  | threshold => intent.threshold
  | priority => intent.priority

/-- The field of the intent with an id, from what is given for it. -/
def read (id : String) (given : Option Value) : (field : Field) → Except Fault field.Content
  | name => readLabel id ((given.getD .null).orElse (.text id))
  | description => readLabel "" ((given.getD .null).orElse (.text ""))
  | patterns => readPatterns id ((given.getD .null).orElse (.list []))
  | parameters => do
      readParameters (.mapping (← ((given.getD .null).orElse (.mapping [])).toEntries))
  | synonyms => do
      readSynonyms (.mapping (← ((given.getD .null).orElse (.mapping [])).toEntries))
  | threshold => readThreshold id (given.getD defaultThreshold)
  | priority => readPriority id (given.getD defaultPriority)

/-- The intent with an id that has the given fields. -/
def assemble (id : String) (contents : (field : Field) → field.Content) : Intent where
  id := id
  name := contents .name
  description := contents .description
  patterns := contents .patterns
  parameters := contents .parameters
  synonyms := contents .synonyms
  threshold := contents .threshold
  priority := contents .priority

theorem content_assemble (id : String) (contents : (field : Field) → field.Content)
    (field : Field) : content (assemble id contents) field = contents field := by
  cases field <;> rfl

theorem given_of_no_longName {field : Field} (hlong : field.longName? = none)
    (entries : List (Key × Value)) :
    field.given entries = Value.field? field.shortName entries := by
  rw [given, givenLong, hlong, Option.bind_none, Option.or_none]

theorem changed_of_no_longName {field : Field} (hlong : field.longName? = none)
    (entries : List (Key × Value)) :
    field.changed entries = Value.field? field.shortName entries := by
  rw [changed, givenLong, hlong, Option.bind_none, Option.none_or]

theorem getD_given_threshold (entries : List (Key × Value)) :
    (threshold.given entries).getD defaultThreshold = Part.thresholdGiven entries := by
  rw [given, Option.getD_or]
  rfl

theorem isNamed_iff_changed {entries : List (Key × Value)} {field : Field} :
    field.IsNamed entries ↔ field.changed entries ≠ none := by
  rw [IsNamed, given, changed, Ne, Ne, Option.or_eq_none_iff, Option.or_eq_none_iff, and_comm]

end Field

/-! ## Reading field by field -/

theorem ofEntries_eq_ok_iff {id : String} (hid : IsId id) {entries : List (Key × Value)}
    {intent : Intent} :
    ofEntries (.text id) entries = .ok intent ↔
      intent.id = id ∧
        ∀ field : Field, field.read id (field.given entries) = .ok (field.content intent) := by
  rw [ofEntries_eq]
  simp only [bind_eq_ok_iff, ofDraft_eq_ok_iff]
  constructor
  · rintro ⟨parameters, hparameters, synonyms, hsynonyms, hread⟩
    obtain rfl : intent.id = id := hid.eq_of_readId hread.id
    refine ⟨rfl, fun field => ?_⟩
    cases field with
    | threshold =>
        rw [Field.read, Field.getD_given_threshold]
        exact hread.threshold
    | name => rw [Field.given_of_no_longName rfl]; exact hread.name
    | description => rw [Field.given_of_no_longName rfl]; exact hread.description
    | patterns => rw [Field.given_of_no_longName rfl]; exact hread.patterns
    | parameters =>
        rw [Field.given_of_no_longName rfl]
        exact bind_eq_ok_iff.mpr ⟨parameters, hparameters, hread.parameters⟩
    | synonyms =>
        rw [Field.given_of_no_longName rfl]
        exact bind_eq_ok_iff.mpr ⟨synonyms, hsynonyms, hread.synonyms⟩
    | priority => rw [Field.given_of_no_longName rfl]; exact hread.priority
  · rintro ⟨rfl, hread⟩
    have hsingle : ∀ field : Field, field.longName? = none →
        field.read intent.id (Value.field? field.shortName entries) =
          .ok (field.content intent) := by
      intro field hfield
      rw [← Field.given_of_no_longName hfield]
      exact hread field
    obtain ⟨parameters, hparameters, hschema⟩ := bind_eq_ok_iff.mp (hsingle .parameters rfl)
    obtain ⟨synonyms, hsynonyms, hwords⟩ := bind_eq_ok_iff.mp (hsingle .synonyms rfl)
    refine ⟨parameters, hparameters, synonyms, hsynonyms, {
      id := hid.readId_eq, name := hsingle .name rfl, description := hsingle .description rfl
      patterns := hsingle .patterns rfl, parameters := hschema, synonyms := hwords
      threshold := ?threshold, priority := hsingle .priority rfl }⟩
    have hthreshold := hread .threshold
    rwa [Field.read, Field.getD_given_threshold] at hthreshold

/-- A declaration of which only the threshold cannot be read ends in the fault of the threshold. -/
theorem ofEntries_eq_error_of_threshold {id : String} (hid : IsId id)
    {entries : List (Key × Value)} {fault : Fault}
    (hread : ∀ field : Field, field ≠ .threshold →
      ∃ content, field.read id (field.given entries) = .ok content)
    (hthreshold : Field.threshold.read id (Field.threshold.given entries) = .error fault) :
    ofEntries (.text id) entries = .error fault := by
  have hsingle : ∀ field : Field, field.longName? = none →
      ∃ content, field.read id (Value.field? field.shortName entries) = .ok content := by
    intro field hfield
    rw [← Field.given_of_no_longName hfield]
    exact hread field (by rintro rfl; cases hfield)
  -- No part before the threshold or after it has a fault to end in.
  have hfails : FailsOnly (· = fault) (ofEntries (.text id) entries) := by
    obtain ⟨schema, hparameters⟩ := hsingle .parameters rfl
    obtain ⟨parameters, hmapping, hschema⟩ := bind_eq_ok_iff.mp hparameters
    obtain ⟨words, hsynonyms⟩ := hsingle .synonyms rfl
    obtain ⟨synonyms, hwords, hlists⟩ := bind_eq_ok_iff.mp hsynonyms
    rw [ofEntries_eq]
    refine FailsOnly.bind (.of_exists ⟨_, hmapping⟩) fun found hfound => ?_
    cases hmapping.symm.trans hfound
    refine FailsOnly.bind (.of_exists ⟨_, hwords⟩) fun found hfound => ?_
    cases hwords.symm.trans hfound
    refine FailsOnly.bind (.of_exists ⟨_, hid.readId_eq⟩) fun found hfound => ?_
    obtain rfl := hid.eq_of_readId hfound
    refine FailsOnly.bind (.of_exists (hsingle .name rfl)) fun _ _ => ?_
    refine FailsOnly.bind (.of_exists (hsingle .description rfl)) fun _ _ => ?_
    refine FailsOnly.bind (.of_exists (hsingle .patterns rfl)) fun _ _ => ?_
    refine FailsOnly.bind (.of_exists ⟨_, hschema⟩) fun _ _ => ?_
    refine FailsOnly.bind (.of_exists ⟨_, hlists⟩) fun _ _ => ?_
    refine FailsOnly.bind ?_ fun _ _ => ?_
    · rw [Field.read, Field.getD_given_threshold] at hthreshold
      exact hthreshold ▸ FailsOnly.error_iff.mpr rfl
    · exact FailsOnly.bind (.of_exists (hsingle .priority rfl)) fun _ _ => .ok _
  cases hresult : ofEntries (.text id) entries with
  | error other => rw [hfails other hresult]
  | ok intent =>
      cases (((ofEntries_eq_ok_iff hid).mp hresult).2 .threshold).symm.trans hthreshold
/-! ## Changed fields -/

/-- What an intent declares of a field is read as the field it has, under the name it is called. -/
theorem read_given_declared {intent : Intent} (hdeclared : intent.IsDeclared) (field : Field) :
    field.read intent.id (field.given intent.declared) = .ok (field.content intent.called) :=
  ((ofEntries_eq_ok_iff hdeclared.isId).mp (ofEntries_declared hdeclared)).2 field

/-- Over entries with no long name, changes count before the entries, field by field. -/
theorem Field.given_merge_withShortNames {entries changes : List (Key × Value)}
    (hdistinct : OrderedMap.IsDistinct changes)
    (hlong : Value.field? "confidence_threshold" entries = none) (field : Field) :
    field.given (OrderedMap.merge entries (Catalog.withShortNames changes)) =
      (field.changed changes).or (field.given entries) := by
  have hmerge : ∀ name, Value.field? name
      (OrderedMap.merge entries (Catalog.withShortNames changes)) =
        (Value.field? name (Catalog.withShortNames changes)).or (Value.field? name entries) :=
    fun name => Value.field?_merge name entries (Catalog.isDistinct_withShortNames hdistinct)
  cases field with
  | threshold =>
      have hgiven : threshold.given entries = Value.field? "confidence" entries := by
        rw [given, givenLong, longName?, Option.bind_some, hlong, Option.or_none, shortName]
      rw [hgiven, given, givenLong, longName?, Option.bind_some, shortName, hmerge, hmerge, hlong,
        Catalog.field?_withShortNames_long, Catalog.field?_withShortNames_short, Option.none_or,
        Option.or_none]
      rfl
  | _ =>
      rw [given_of_no_longName rfl, given_of_no_longName rfl, changed_of_no_longName rfl, hmerge,
        Catalog.field?_withShortNames_of_ne (by decide) (by decide)]

/-- A field of an intent under changes: what is read from the change to it, or what it was. -/
def Field.revised (existing : Intent) (changes : List (Key × Value)) (field : Field) :
    Except Fault field.Content :=
  match field.changed changes with
  | some value => field.read existing.id (some value)
  | none => .ok (field.content existing.called)

section

variable {existing : Intent} {changes : List (Key × Value)}

theorem read_given_merge (hdeclared : existing.IsDeclared)
    (hdistinct : OrderedMap.IsDistinct changes) (field : Field) :
    field.read existing.id (field.given
        (OrderedMap.merge existing.declared (Catalog.withShortNames changes))) =
      field.revised existing changes := by
  have hlong : Value.field? "confidence_threshold" existing.declared = none := rfl
  rw [field.given_merge_withShortNames hdistinct hlong, Field.revised]
  cases hchanged : field.changed changes with
  | some value => rfl
  | none =>
      rw [Option.none_or]
      exact read_given_declared hdeclared field

/-- The declaration of an intent with changes written over it is read field by field, each field
from the change to it alone. -/
theorem ofEntries_merge_eq_ok_iff (hdeclared : existing.IsDeclared)
    (hdistinct : OrderedMap.IsDistinct changes) {updated : Intent} :
    ofEntries (.text existing.id)
        (OrderedMap.merge existing.declared (Catalog.withShortNames changes)) = .ok updated ↔
      updated.id = existing.id ∧
        ∀ field : Field, field.revised existing changes = .ok (field.content updated) := by
  rw [ofEntries_eq_ok_iff hdeclared.isId]
  simp only [read_given_merge hdeclared hdistinct]

end

end Intent

end Phrasebook
