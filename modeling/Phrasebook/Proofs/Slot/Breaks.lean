import Mathlib
import Phrasebook.Proofs.Slot.Coercion
import Phrasebook.Slot.Declaration

/-!
# Slot declarations that break the reader

A slot declaration is read step by step.  A value of the wrong kind, where a text, a number or a
mapping is asked for, is not told from a good one before it is used, and breaks the step that uses
it.
-/

namespace Phrasebook

namespace Value

/-- A value that has no members. -/
def LacksMembers : Value → Prop
  | .null | .bool _ | .number _ => True
  | _ => False

/-- A value that cannot be a key. -/
def IsCompound : Value → Prop
  | .list _ | .mapping _ => True
  | _ => False

def IsText (value : Value) : Prop := ∃ text, value = .text text

/-- Two members, of which the first can be a key. -/
def IsPair (value : Value) : Prop :=
  ∃ key content, value.members = .ok [key, content] ∧ ¬ key.IsCompound

/-- No members at all, or two of which the first cannot be a key. -/
def BreaksPair (value : Value) : Prop :=
  value.LacksMembers ∨ ∃ key content, value.members = .ok [key, content] ∧ key.IsCompound

/-- A value in the place of a mapping that is neither one nor a list of pairs, and no text. -/
def BreaksMapping : Value → Prop
  | .text _ | .mapping _ => False
  | .list items => FirstBreaks IsPair BreaksPair items
  | _ => True

theorem crashes_toText_iff {value : Value} : Crashes value.toText ↔ ¬ value.IsText := by
  cases value <;> simp [toText, IsText]

theorem exists_toText_iff {value : Value} : (∃ text, value.toText = .ok text) ↔ value.IsText := by
  cases value <;> simp [toText, IsText]

theorem crashes_members_iff {value : Value} : Crashes value.members ↔ value.LacksMembers := by
  cases value <;> simp [members, LacksMembers]

theorem crashes_toKey_iff {value : Value} : Crashes value.toKey ↔ value.IsCompound := by
  cases value <;> simp [toKey, IsCompound]

theorem exists_toKey_iff {value : Value} : (∃ key, value.toKey = .ok key) ↔ ¬ value.IsCompound := by
  cases value <;> simp [toKey, IsCompound]

theorem crashes_toEntry_iff {position : Nat} {value : Value} :
    Crashes (value.toEntry position) ↔ value.BreaksPair := by
  rw [toEntry, crashes_bind_iff, crashes_members_iff, BreaksPair]
  refine or_congr_right ?_
  constructor
  · rintro ⟨members, hmembers, hcrashes⟩
    split at hcrashes
    · rename_i key content
      rw [crashes_bind_pure_iff, crashes_toKey_iff] at hcrashes
      exact ⟨key, content, hmembers, hcrashes⟩
    · exact absurd hcrashes (not_crashes_invalid _)
  · rintro ⟨key, content, hmembers, hkey⟩
    refine ⟨_, hmembers, ?_⟩
    rwa [crashes_bind_pure_iff, crashes_toKey_iff]

theorem exists_toEntry_iff {position : Nat} {value : Value} :
    (∃ entry, value.toEntry position = .ok entry) ↔ value.IsPair := by
  rw [toEntry, exists_bind_iff, IsPair]
  constructor
  · rintro ⟨members, hmembers, hentry⟩
    split at hentry
    · rename_i key content
      rw [exists_bind_pure_iff, exists_toKey_iff] at hentry
      exact ⟨key, content, hmembers, hentry⟩
    · obtain ⟨entry, ⟨⟩⟩ := hentry
  · rintro ⟨key, content, hmembers, hkey⟩
    refine ⟨_, hmembers, ?_⟩
    rwa [exists_bind_pure_iff, exists_toKey_iff]

theorem crashes_toEntriesFrom_iff {position : Nat} {written : List (Key × Value)}
    {items : List Value} :
    Crashes (toEntriesFrom position written items) ↔ FirstBreaks IsPair BreaksPair items := by
  induction items generalizing position written with
  | nil => exact iff_of_false (not_crashes_ok written) nofun
  | cons item items ih =>
      rw [toEntriesFrom, firstBreaks_cons_iff]
      exact crashes_bind_iff_of crashes_toEntry_iff exists_toEntry_iff fun _ _ => ih

theorem crashes_toEntries_iff {value : Value} : Crashes value.toEntries ↔ value.BreaksMapping := by
  cases value with
  | mapping entries => exact iff_of_false (not_crashes_ok entries) id
  | list items =>
      rw [toEntries, crashes_bind_iff, BreaksMapping]
      · simp [members, crashes_toEntriesFrom_iff]
      · rintro _ ⟨⟩
  | text text =>
      -- The first character is no pair, and that is a rule.
      rw [toEntries, crashes_bind_iff, BreaksMapping]
      · simp only [members, not_crashes_ok, false_or, Except.ok.injEq, exists_eq_left',
          crashes_toEntriesFrom_iff, iff_false]
        cases text.toList with
        | nil => rintro ⟨⟩
        | cons c rest =>
            rw [List.map_cons, firstBreaks_cons_iff]
            simp [BreaksPair, IsPair, LacksMembers, members]
      · rintro _ ⟨⟩
  | null | bool | number =>
      rw [toEntries, crashes_bind_iff, crashes_members_iff, BreaksMapping]
      all_goals simp [LacksMembers]

theorem crashes_lessThan_int_iff {limit : Value} {least : Int} :
    Crashes (limit.lessThan (.int least)) ↔ limit.number? = none := by
  cases limit <;> simp [lessThan, precedes, number?, int]

theorem lessThan_int_eq_ok_false_iff {limit : Value} {least : Int} :
    limit.lessThan (.int least) = .ok false ↔
      ∃ number, limit.number? = some number ∧ number.lt (.int least) = false := by
  cases limit <;> simp [lessThan, precedes, number?, int]

end Value

namespace Slot

variable {entries : List (Key × Value)} {limit : Value}

/-- The type of a slot as it is declared, in lower case. -/
def typeName (entries : List (Key × Value)) : String :=
  lowered (Value.fieldOr "type" (.text "string") entries).written

/-- A limit that is present and is no number. -/
def BreaksLimit (limit : Value) : Prop := limit.isNull = false ∧ limit.number? = none

/-- A limit that is absent, or a number that is not below the least one. -/
def PassesLimit (least : Int) (limit : Value) : Prop :=
  limit.isNull = true ∨ ∃ number, limit.number? = some number ∧ number.lt (.int least) = false

/-- Entries under `validation` that count as entries of the declaration. -/
def validation (entries : List (Key × Value)) : Value :=
  (Value.fieldOrNull "validation" entries).orElse (.mapping [])

/-- The limits or the transform of a slot are of a wrong kind. -/
inductive BreaksKind (entries : List (Key × Value)) : Prop
  | transform : typeName entries = "string" → (Value.fieldOrNull "transform" entries).holds = true →
      ¬ (Value.fieldOrNull "transform" entries).IsText → BreaksKind entries
  | minLength {change : Option CaseChange} : typeName entries = "string" →
      changeOf (Value.fieldOrNull "transform" entries) = .ok change →
      BreaksLimit (spelled "minLength" "min_length" entries) → BreaksKind entries
  | maxLength {change : Option CaseChange} : typeName entries = "string" →
      changeOf (Value.fieldOrNull "transform" entries) = .ok change →
      PassesLimit 0 (spelled "minLength" "min_length" entries) →
      BreaksLimit (spelled "maxLength" "max_length" entries) → BreaksKind entries
  | bounds : typeName entries = "number" → (Value.fieldOrNull "min" entries).isNull = false →
      (Value.fieldOrNull "max" entries).isNull = false →
      (Value.fieldOrNull "min" entries).greaterThan (Value.fieldOrNull "max" entries) =
        .error .unsuitable → BreaksKind entries

/-- A slot declaration that breaks the reader: it is no mapping, or what stands under `validation`
is none, or a limit or the transform is of a wrong kind. -/
inductive Breaks (data : Value) : Prop
  | declaration : data.BreaksMapping → Breaks data
  | validation {entries : List (Key × Value)} : data.toEntries = .ok entries →
      (validation entries).BreaksMapping → Breaks data
  | kind {entries : List (Key × Value)} : flattened data = .ok entries → BreaksKind entries →
      Breaks data

theorem crashes_forbid_iff {cause : Invalid} {test : Value → Except Fault Bool} :
    Crashes (forbid cause limit test) ↔ limit.isNull = false ∧ Crashes (test limit) := by
  unfold forbid
  split
  · rename_i hnull
    simp [hnull]
  · rename_i hpresent
    rw [Bool.not_eq_true] at hpresent
    rw [crashes_bind_iff, hpresent]
    simp only [true_and]
    refine or_iff_left ?_
    rintro ⟨excluded, -, hcrashes⟩
    cases excluded <;> simp at hcrashes

theorem exists_forbid_iff {cause : Invalid} {test : Value → Except Fault Bool} :
    (∃ passed, forbid cause limit test = .ok passed) ↔
      limit.isNull = true ∨ test limit = .ok false := by
  unfold forbid
  split
  · rename_i hnull
    simp [hnull]
  · rename_i hpresent
    rw [exists_bind_iff, or_iff_right hpresent]
    constructor
    · rintro ⟨excluded, hexcluded, passed, hpassed⟩
      cases excluded with
      | true => cases hpassed
      | false => exact hexcluded
    · exact fun hexcluded => ⟨false, hexcluded, (), rfl⟩

theorem crashes_changeOf_iff {value : Value} :
    Crashes (changeOf value) ↔ value.holds = true ∧ ¬ value.IsText := by
  unfold changeOf
  split
  · rename_i hholds
    rw [crashes_bind_iff, Value.crashes_toText_iff]
    simp only [hholds, true_and]
    refine or_iff_left ?_
    rintro ⟨text, -, hcrashes⟩
    split at hcrashes <;> simp at hcrashes
  · rename_i hholds
    simp [hholds]

/-- Limits that both pass are numbers, and numbers can be held against each other. -/
theorem not_crashes_greaterThan {low high : Value} (hlow : ∃ number, low.number? = some number)
    (hhigh : ∃ number, high.number? = some number) : ¬ Crashes (low.greaterThan high) := by
  obtain ⟨number, hnumber⟩ := hlow
  obtain ⟨other, hother⟩ := hhigh
  rw [Value.greaterThan, Value.precedes_of_number? hother hnumber]
  exact not_crashes_ok _

theorem crashes_checkLengths_iff {minLength maxLength : Value} :
    Crashes (checkLengths minLength maxLength) ↔
      BreaksLimit minLength ∨ PassesLimit 0 minLength ∧ BreaksLimit maxLength := by
  have hbreaks : ∀ {cause limit least},
      Crashes (forbid cause limit (·.lessThan (.int least))) ↔ BreaksLimit limit := by
    intro cause limit least
    rw [crashes_forbid_iff, Value.crashes_lessThan_int_iff, BreaksLimit]
  have hpasses : ∀ {cause limit least},
      (∃ passed, forbid cause limit (·.lessThan (.int least)) = .ok passed) ↔
        PassesLimit least limit := by
    intro cause limit least
    rw [exists_forbid_iff, Value.lessThan_int_eq_ok_false_iff, PassesLimit]
  rw [checkLengths]
  refine crashes_bind_iff_of hbreaks hpasses fun passed hmin => ?_
  rw [← or_false (BreaksLimit maxLength), ← and_false (PassesLimit 1 maxLength)]
  refine crashes_bind_iff_of hbreaks hpasses fun passed hmax => iff_false_intro ?_
  split
  · rename_i hpresent
    rw [crashes_forbid_iff]
    rintro ⟨hlimit, hcrashes⟩
    rw [Bool.not_eq_true'] at hpresent
    rcases hpasses.mp ⟨_, hmin⟩ with hnull | ⟨number, hnumber, -⟩
    · exact absurd (hnull.symm.trans hpresent) nofun
    rcases hpasses.mp ⟨_, hmax⟩ with hnull | ⟨other, hother, -⟩
    · exact absurd (hnull.symm.trans hlimit) nofun
    exact not_crashes_greaterThan ⟨number, hnumber⟩ ⟨other, hother⟩ hcrashes
  · exact not_crashes_ok _

theorem crashes_greaterThan_iff {low high : Value} :
    Crashes (low.greaterThan high) ↔ low.greaterThan high = .error .unsuitable := by
  constructor
  · rintro ⟨fault, hfault, -⟩
    have honly : FailsOnly (Fault.unsuitable = ·) (low.greaterThan high) :=
      Value.failsOnly_precedes rfl _ _ _
    rw [hfault, ← honly fault hfault]
  · intro hfault
    simp [hfault]

theorem crashes_stringKind_iff :
    Crashes (stringKind entries) ↔
      ((Value.fieldOrNull "transform" entries).holds = true ∧
          ¬ (Value.fieldOrNull "transform" entries).IsText) ∨
        ∃ change, changeOf (Value.fieldOrNull "transform" entries) = .ok change ∧
          (BreaksLimit (spelled "minLength" "min_length" entries) ∨
            PassesLimit 0 (spelled "minLength" "min_length" entries) ∧
              BreaksLimit (spelled "maxLength" "max_length" entries)) := by
  rw [stringKind, crashes_bind_iff, crashes_changeOf_iff]
  refine or_congr_right (exists_congr fun change => and_congr_right fun _ => ?_)
  rw [crashes_bind_iff, crashes_checkLengths_iff]
  refine or_iff_left ?_
  rintro ⟨_, -, hcrashes⟩
  exact not_crashes_pure _ hcrashes

theorem crashes_numberKind_iff :
    Crashes (numberKind entries) ↔ (Value.fieldOrNull "min" entries).isNull = false ∧
      (Value.fieldOrNull "max" entries).isNull = false ∧
        (Value.fieldOrNull "min" entries).greaterThan (Value.fieldOrNull "max" entries) =
          .error .unsuitable := by
  rw [numberKind]
  dsimp only
  split
  · rename_i hpresent
    rw [Bool.not_eq_true'] at hpresent
    rw [crashes_bind_iff, crashes_forbid_iff, crashes_greaterThan_iff]
    simp only [hpresent, true_and]
    refine or_iff_left ?_
    rintro ⟨_, -, hcrashes⟩
    exact not_crashes_pure _ hcrashes
  · rename_i hnull
    rw [Bool.not_eq_true, Bool.not_eq_false'] at hnull
    simp [hnull]

theorem crashes_kindOf_iff : Crashes (kindOf entries) ↔ BreaksKind entries := by
  have hname : ∀ {name : String}, (typeName entries == name) = true ↔ typeName entries = name :=
    beq_iff_eq
  constructor
  · intro hcrashes
    unfold kindOf at hcrashes
    dsimp only at hcrashes
    split at hcrashes
    · rename_i hstring
      rcases crashes_stringKind_iff.mp hcrashes with
        ⟨hholds, htext⟩ | ⟨change, hchange, hlimit | ⟨hpasses, hlimit⟩⟩
      · exact .transform (hname.mp hstring) hholds htext
      · exact .minLength (hname.mp hstring) hchange hlimit
      · exact .maxLength (hname.mp hstring) hchange hpasses hlimit
    split at hcrashes
    · rename_i hnumber
      obtain ⟨hleast, hgreatest, hbounds⟩ := crashes_numberKind_iff.mp hcrashes
      exact .bounds (hname.mp hnumber) hleast hgreatest hbounds
    split at hcrashes
    · exact absurd hcrashes (not_crashes_ok _)
    split at hcrashes
    · exact absurd hcrashes (not_crashes_ok _)
    · exact absurd hcrashes (not_crashes_invalid _)
  · intro hbreaks
    have hstring : typeName entries = "string" → kindOf entries = stringKind entries := by
      intro htype
      rw [typeName] at htype
      rw [kindOf, htype]
      rfl
    have hnumber : typeName entries = "number" → kindOf entries = numberKind entries := by
      intro htype
      rw [typeName] at htype
      rw [kindOf, htype]
      rfl
    cases hbreaks with
    | transform htype hholds htext =>
        rw [hstring htype, crashes_stringKind_iff]
        exact .inl ⟨hholds, htext⟩
    | minLength htype hchange hlimit =>
        rw [hstring htype, crashes_stringKind_iff]
        exact .inr ⟨_, hchange, .inl hlimit⟩
    | maxLength htype hchange hpasses hlimit =>
        rw [hstring htype, crashes_stringKind_iff]
        exact .inr ⟨_, hchange, .inr ⟨hpasses, hlimit⟩⟩
    | bounds htype hleast hgreatest hbounds =>
        rw [hnumber htype, crashes_numberKind_iff]
        exact ⟨hleast, hgreatest, hbounds⟩

theorem crashes_flattened_iff {data : Value} :
    Crashes (flattened data) ↔ data.BreaksMapping ∨ ∃ entries, data.toEntries = .ok entries ∧
      (validation entries).BreaksMapping := by
  rw [flattened, crashes_bind_iff, Value.crashes_toEntries_iff]
  refine or_congr_right (exists_congr fun entries => and_congr_right fun _ => ?_)
  rw [crashes_bind_pure_iff, Value.crashes_toEntries_iff, validation]

/-- Reading a slot declaration crashes exactly if the declaration breaks the reader. -/
theorem crashes_ofValue_iff {data : Value} : Crashes (ofValue data) ↔ Breaks data := by
  rw [ofValue, crashes_bind_iff, crashes_flattened_iff]
  simp only [ofEntries, crashes_bind_pure_iff, crashes_kindOf_iff]
  constructor
  · rintro ((hdata | ⟨entries, hentries, hnested⟩) | ⟨entries, hentries, hkind⟩)
    · exact .declaration hdata
    · exact .validation hentries hnested
    · exact .kind hentries hkind
  · intro hbreaks
    cases hbreaks with
    | declaration hdata => exact .inl (.inl hdata)
    | validation hentries hnested => exact .inl (.inr ⟨_, hentries, hnested⟩)
    | kind hentries hkind => exact .inr ⟨_, hentries, hkind⟩

end Slot

end Phrasebook
