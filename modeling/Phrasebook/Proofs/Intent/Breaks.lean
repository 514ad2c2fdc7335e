import Mathlib
import Phrasebook.Proofs.Intent.Declared
import Phrasebook.Proofs.Slot.Breaks

/-!
# Intent declarations that break the reader

The parts of a declaration are read in a fixed order, and the first one that cannot be read decides
the fault.  It is a rule that is broken, or the part is of a wrong kind and breaks the reader.
-/

namespace Phrasebook

namespace Value

/-- A value that does not hold, or is a text. -/
def IsLabel (value : Value) : Prop := value.holds = true → value.IsText

/-- A value that has members, all of them texts that are not blank, and is no text itself. -/
def ListsTemplates (value : Value) : Prop :=
  ¬ value.IsText ∧ ∃ members, value.members = .ok members ∧ members ≠ [] ∧
    ∀ member ∈ members, ∃ template, member = .text template ∧ isBlankText template = false

/-- Neither a text nor a number that the 64-bit format can come near to. -/
def BreaksReal (value : Value) : Prop :=
  ¬ value.IsText ∧ ∀ number, value.number? = some number →
    ∃ whole, number = .int whole ∧ Real64.ofInt? whole = none

/-- Neither a text nor a truth value nor a number that is not infinite. -/
def BreaksWhole : Value → Prop
  | .text _ | .bool _ | .number (.int _) | .number (.real .nan) | .number (.real (.finite _ _)) =>
      False
  | _ => True

/-- A word that is no text, or has alternatives without members. -/
def BreaksWord (entry : Key × Value) : Prop := ¬ (ofKey entry.1).IsText ∨ entry.2.LacksMembers

end Value

namespace Intent

/-- The parts of a declaration as they are read. -/
inductive Part where
  | parameters
  | synonyms
  | id
  | name
  | description
  | patterns
  | slots
  | words
  | threshold
  | priority

namespace Part

/-- The parts in the order in which they are read: two mappings first, and what they contain
later. -/
def inOrder : List Part :=
  [parameters, synonyms, id, name, description, patterns, slots, words, threshold, priority]

section

variable (entries : List (Key × Value))

/-- A part that has to be a mapping; one that does not hold counts as empty. -/
def mappingUnder (name : String) : Value := (Value.fieldOrNull name entries).orElse (.mapping [])

/-- What a part that has to be a mapping has for entries, if it can be read. -/
def entriesUnder (name : String) : List (Key × Value) :=
  (mappingUnder entries name).toEntries.toOption.getD []

def templates : Value := (Value.fieldOrNull "patterns" entries).orElse (.list [])

def thresholdGiven : Value :=
  Value.fieldOr "confidence" (Value.fieldOr "confidence_threshold" defaultThreshold entries) entries

/-- A part of the declaration under an id can be read. -/
def Reads (written : String) : Part → Prop
  | parameters => ∃ found, (mappingUnder entries "parameters").toEntries = .ok found
  | synonyms => ∃ found, (mappingUnder entries "synonyms").toEntries = .ok found
  | id => isBlankText written = false
  | name => (Value.fieldOrNull "name" entries).IsLabel
  | description => (Value.fieldOrNull "description" entries).IsLabel
  | patterns => (templates entries).ListsTemplates
  | slots => ∀ entry ∈ entriesUnder entries "parameters", ∃ slot, Slot.ofValue entry.2 = .ok slot
  | words => ∀ entry ∈ entriesUnder entries "synonyms", ¬ Value.BreaksWord entry
  | threshold =>
      ∃ threshold, (thresholdGiven entries).toReal = .ok threshold ∧ isProbability threshold = true
  | priority => True

/-- A part of the declaration is of a wrong kind. -/
def Breaks : Part → Prop
  | parameters => (mappingUnder entries "parameters").BreaksMapping
  | synonyms => (mappingUnder entries "synonyms").BreaksMapping
  | id => False
  | name => ¬ (Value.fieldOrNull "name" entries).IsLabel
  | description => ¬ (Value.fieldOrNull "description" entries).IsLabel
  | patterns => (templates entries).LacksMembers
  | slots =>
      FirstBreaks (fun entry => ∃ slot, Slot.ofValue entry.2 = .ok slot)
        (fun entry => Slot.Breaks entry.2) (entriesUnder entries "parameters")
  | words => ∃ entry ∈ entriesUnder entries "synonyms", Value.BreaksWord entry
  | threshold => (thresholdGiven entries).BreaksReal
  | priority => (Value.fieldOr "priority" defaultPriority entries).BreaksWhole

end

end Part

/-- The first part of a declaration that cannot be read is of a wrong kind. -/
def BreaksReader (id : String) (entries : List (Key × Value)) : Prop :=
  FirstBreaks (Part.Reads entries id) (Part.Breaks entries) Part.inOrder

variable {id other : String} {value : Value} {entries : List (Key × Value)}

/-! ## Part by part -/

theorem not_crashes_readId : ¬ Crashes (readId (.text id)) := by
  unfold readId
  split
  · rw [crashes_bind_iff, Value.crashes_toText_iff]
    rintro (htext | ⟨text, -, hcrashes⟩)
    · exact htext ⟨id, rfl⟩
    · split at hcrashes <;> simp at hcrashes
  · exact not_crashes_invalid _

theorem exists_readId_iff :
    (∃ found, readId (.text id) = .ok found) ↔ isBlankText id = false := by
  constructor
  · rintro ⟨found, hfound⟩
    unfold readId at hfound
    split at hfound
    · obtain ⟨_, ⟨⟩, hread⟩ := bind_eq_ok_iff.mp hfound
      split at hread
      · cases hread
      · rename_i hblank
        exact Bool.not_eq_true _ ▸ hblank
    · cases hfound
  · intro hblank
    have hholds : (Value.text id).holds = true := by
      by_contra hempty
      have hid : id = "" := by simpa [Value.holds] using hempty
      rw [hid] at hblank
      cases hblank
    refine ⟨trimmed id, ?_⟩
    rw [readId, hholds, if_pos rfl, Value.toText, bind_eq_ok_iff]
    exact ⟨id, rfl, by rw [hblank]; rfl⟩

theorem isText_orElse_text_iff : (value.orElse (.text other)).IsText ↔ value.IsLabel := by
  rw [Value.orElse, Value.IsLabel]
  split
  · rename_i hholds
    simp [hholds]
  · rename_i hholds
    exact iff_of_true ⟨other, rfl⟩ fun hboth => absurd hboth hholds

theorem isLabel_orElse_text_iff : (value.orElse (.text other)).IsLabel ↔ value.IsLabel := by
  by_cases hholds : value.holds = true
  · rw [Value.orElse, if_pos hholds]
  · rw [Value.orElse, if_neg hholds]
    exact iff_of_true (fun _ => ⟨other, rfl⟩) fun hboth => absurd hboth hholds

theorem crashes_readLabel_iff : Crashes (readLabel other value) ↔ ¬ value.IsLabel := by
  rw [readLabel, crashes_bind_pure_iff, Value.crashes_toText_iff, isText_orElse_text_iff]

theorem exists_readLabel_iff : (∃ label, readLabel other value = .ok label) ↔ value.IsLabel := by
  rw [readLabel, exists_bind_pure_iff, Value.exists_toText_iff, isText_orElse_text_iff]

theorem not_crashes_readTemplate : ¬ Crashes (readTemplate id value) := by
  unfold readTemplate
  split
  · split <;> simp
  · simp

theorem exists_readTemplate_iff :
    (∃ template, readTemplate id value = .ok template) ↔
      ∃ template, value = .text template ∧ isBlankText template = false := by
  unfold readTemplate
  split
  · rename_i template
    by_cases hblank : isBlankText template = true <;> simp [hblank, invalid]
  · rename_i hother
    refine iff_of_false (by simp [invalid]) ?_
    rintro ⟨template, rfl, -⟩
    exact hother template rfl

theorem crashes_readPatterns_iff : Crashes (readPatterns id value) ↔ value.LacksMembers := by
  unfold readPatterns
  split
  · exact iff_of_false (not_crashes_invalid _) not_false
  · rw [crashes_bind_iff, Value.crashes_members_iff]
    refine or_iff_left ?_
    rintro ⟨templates, -, hcrashes⟩
    split at hcrashes
    · exact not_crashes_invalid _ hcrashes
    · obtain ⟨template, -, hbreaks⟩ := (crashes_mapM_iff.mp hcrashes).exists_breaks
      exact not_crashes_readTemplate hbreaks

theorem exists_readPatterns_iff :
    (∃ templates, readPatterns id value = .ok templates) ↔ value.ListsTemplates := by
  unfold readPatterns
  split
  · rename_i text
    exact iff_of_false (by simp [invalid]) fun hlists => hlists.1 ⟨text, rfl⟩
  · rename_i hother
    have htext : ¬ value.IsText := by
      rintro ⟨text, heq⟩
      exact hother text heq
    rw [exists_bind_iff, Value.ListsTemplates, and_iff_right htext]
    refine exists_congr fun members => and_congr_right fun _ => ?_
    by_cases hempty : members = []
    · simp [hempty, invalid]
    · have hsome : members.isEmpty = false := by simpa using hempty
      rw [hsome, if_neg Bool.false_ne_true, exists_mapM_iff, and_iff_right hempty]
      simp only [exists_readTemplate_iff]

theorem crashes_readParameters_iff :
    Crashes (readParameters (.mapping entries)) ↔
      FirstBreaks (fun entry => ∃ slot, Slot.ofValue entry.2 = .ok slot)
        (fun entry => Slot.Breaks entry.2) entries := by
  have hread : readParameters (.mapping entries) = (do
      return OrderedMap.ofList (← entries.mapM fun entry => do
        return (entry.1, ← Slot.ofValue entry.2))) := rfl
  rw [hread, crashes_bind_pure_iff, crashes_mapM_iff]
  simp only [exists_bind_pure_iff, crashes_bind_pure_iff, Slot.crashes_ofValue_iff]

theorem exists_readParameters_iff :
    (∃ schema, readParameters (.mapping entries) = .ok schema) ↔
      ∀ entry ∈ entries, ∃ slot, Slot.ofValue entry.2 = .ok slot := by
  have hread : readParameters (.mapping entries) = (do
      return OrderedMap.ofList (← entries.mapM fun entry => do
        return (entry.1, ← Slot.ofValue entry.2))) := rfl
  rw [hread, exists_bind_pure_iff, exists_mapM_iff]
  simp only [exists_bind_pure_iff]

/-- Reading one word with its alternatives. -/
def readWord (entry : Key × Value) : Except Fault (String × List Value) := do
  let word ← (Value.ofKey entry.1).toText
  return (lowered word, ← readAlternatives entry.2)

theorem readSynonyms_mapping (entries : List (Key × Value)) :
    readSynonyms (.mapping entries) = (do return OrderedMap.ofList (← entries.mapM readWord)) := rfl

theorem crashes_readAlternatives_iff : Crashes (readAlternatives value) ↔ value.LacksMembers := by
  cases value <;> simp [readAlternatives, Value.members, Value.LacksMembers]

theorem exists_readAlternatives_iff :
    (∃ alternatives, readAlternatives value = .ok alternatives) ↔ ¬ value.LacksMembers := by
  cases value <;> simp [readAlternatives, Value.members, Value.LacksMembers]

theorem crashes_readWord_iff {entry : Key × Value} :
    Crashes (readWord entry) ↔ Value.BreaksWord entry := by
  rw [readWord, crashes_bind_iff, Value.crashes_toText_iff, Value.BreaksWord]
  simp only [crashes_bind_pure_iff, crashes_readAlternatives_iff]
  by_cases htext : (Value.ofKey entry.1).IsText
  · simp only [htext, not_true_eq_false, false_or]
    obtain ⟨word, hword⟩ := Value.exists_toText_iff.mpr htext
    exact ⟨fun ⟨_, _, hlacks⟩ => hlacks, fun hlacks => ⟨word, hword, hlacks⟩⟩
  · simp [htext]

theorem exists_readWord_iff {entry : Key × Value} :
    (∃ read, readWord entry = .ok read) ↔ ¬ Value.BreaksWord entry := by
  rw [readWord, exists_bind_iff, Value.BreaksWord, not_or, not_not, ← Value.exists_toText_iff]
  simp only [exists_bind_pure_iff, exists_readAlternatives_iff, exists_and_right]

theorem crashes_readSynonyms_iff :
    Crashes (readSynonyms (.mapping entries)) ↔ ∃ entry ∈ entries, Value.BreaksWord entry := by
  rw [readSynonyms_mapping, crashes_bind_pure_iff, crashes_mapM_iff]
  simp only [crashes_readWord_iff, exists_readWord_iff]
  exact firstBreaks_iff_exists fun _ => Iff.rfl

theorem exists_readSynonyms_iff :
    (∃ synonyms, readSynonyms (.mapping entries) = .ok synonyms) ↔
      ∀ entry ∈ entries, ¬ Value.BreaksWord entry := by
  rw [readSynonyms_mapping, exists_bind_pure_iff, exists_mapM_iff]
  simp only [exists_readWord_iff]

theorem crashes_toReal_iff : Crashes value.toReal ↔ value.BreaksReal := by
  cases value with
  | text text =>
      refine iff_of_false ?_ fun hbreaks => hbreaks.1 ⟨text, rfl⟩
      rw [Value.toReal]
      split <;> simp
  | number number =>
      cases number with
      | real real => simp [Value.toReal, Value.BreaksReal, Value.number?, Number.toReal]
      | int whole =>
          cases hreal : Real64.ofInt? whole <;>
            simp [Value.toReal, Value.BreaksReal, Value.IsText, Value.number?, Number.toReal, hreal]
  | bool truth =>
      have hreal : ∀ truth : Bool, Real64.ofInt? (if truth then 1 else 0) ≠ none := by
        decide +kernel
      cases hvalue : Real64.ofInt? (if truth then 1 else 0) with
      | none => exact absurd hvalue (hreal truth)
      | some real =>
          simp [Value.toReal, Value.BreaksReal, Value.IsText, Value.number?, Number.toReal, hvalue]
  | null | list | mapping => simp [Value.toReal, Value.BreaksReal, Value.IsText, Value.number?]

theorem crashes_readThreshold_iff : Crashes (readThreshold id value) ↔ value.BreaksReal := by
  rw [readThreshold, crashes_bind_iff, crashes_toReal_iff]
  refine or_iff_left ?_
  rintro ⟨threshold, -, hcrashes⟩
  split at hcrashes <;> simp at hcrashes

theorem exists_readThreshold_iff :
    (∃ threshold, readThreshold id value = .ok threshold) ↔
      ∃ threshold, value.toReal = .ok threshold ∧ isProbability threshold = true := by
  rw [readThreshold, exists_bind_iff]
  refine exists_congr fun threshold => and_congr_right fun _ => ?_
  split
  · rename_i hprobability
    exact iff_of_true ⟨threshold, rfl⟩ hprobability
  · rename_i hprobability
    exact iff_of_false (by simp [invalid]) hprobability

theorem crashes_toWhole_iff {number : Number} :
    Crashes number.toWhole ↔ (Value.number number).BreaksWhole := by
  cases number with
  | int whole => simp [Number.toWhole, Value.BreaksWhole]
  | real real => cases real <;> simp [Number.toWhole, Value.BreaksWhole]

theorem crashes_readPriority_iff : Crashes (readPriority id value) ↔ value.BreaksWhole := by
  cases value with
  | bool truth => exact iff_of_false (not_crashes_invalid _) not_false
  | number number =>
      rw [readPriority, crashes_bind_iff, crashes_toWhole_iff]
      refine or_iff_left ?_
      rintro ⟨whole, -, hcrashes⟩
      split at hcrashes
      · split at hcrashes <;> simp at hcrashes
      · simp at hcrashes
  | text text =>
      refine iff_of_false ?_ not_false
      rw [readPriority, crashes_bind_iff, Value.toWhole]
      · split <;> simp
      · rintro _ ⟨⟩
      · rintro _ ⟨⟩
  | null | list | mapping =>
      rw [readPriority, crashes_bind_iff]
      all_goals simp [Value.toWhole, Value.number?, Value.BreaksWhole]

/-- The draft of a declaration whose two mappings have been read. -/
def draftWith (id : String) (entries parameters synonyms : List (Key × Value)) : Draft where
  id := .text id
  name := (Value.fieldOrNull "name" entries).orElse (.text id)
  description := (Value.fieldOrNull "description" entries).orElse (.text "")
  patterns := Part.templates entries
  parameters := .mapping parameters
  synonyms := .mapping synonyms
  threshold := Part.thresholdGiven entries
  priority := Value.fieldOr "priority" defaultPriority entries

theorem ofEntries_eq (id : String) (entries : List (Key × Value)) :
    ofEntries (.text id) entries = (do
      let parameters ← (Part.mappingUnder entries "parameters").toEntries
      let synonyms ← (Part.mappingUnder entries "synonyms").toEntries
      ofDraft (draftWith id entries parameters synonyms)) := by
  simp only [ofEntries, draftOf, bind_assoc, pure_bind]
  rfl

/-- Reading a declaration crashes exactly if its first part that cannot be read is of a wrong
kind. -/
theorem crashes_ofEntries_iff :
    Crashes (ofEntries (.text id) entries) ↔ BreaksReader id entries := by
  simp only [BreaksReader, Part.inOrder, firstBreaks_cons_iff, firstBreaks_nil_iff]
  rw [ofEntries_eq]
  refine crashes_bind_iff_of Value.crashes_toEntries_iff Iff.rfl fun parameters hparameters => ?_
  refine crashes_bind_iff_of Value.crashes_toEntries_iff Iff.rfl fun synonyms hsynonyms => ?_
  have hslots : Part.entriesUnder entries "parameters" = parameters := by
    rw [Part.entriesUnder, hparameters]
    rfl
  have hwords : Part.entriesUnder entries "synonyms" = synonyms := by
    rw [Part.entriesUnder, hsynonyms]
    rfl
  simp only [Part.Reads, Part.Breaks, hslots, hwords]
  rw [ofDraft]
  refine crashes_bind_iff_of (iff_false_intro not_crashes_readId) exists_readId_iff
    fun found _ => ?_
  refine crashes_bind_iff_of (crashes_readLabel_iff.trans (not_congr isLabel_orElse_text_iff))
    (exists_readLabel_iff.trans isLabel_orElse_text_iff) fun name _ => ?_
  refine crashes_bind_iff_of (crashes_readLabel_iff.trans (not_congr isLabel_orElse_text_iff))
    (exists_readLabel_iff.trans isLabel_orElse_text_iff) fun description _ => ?_
  refine crashes_bind_iff_of crashes_readPatterns_iff exists_readPatterns_iff fun patterns _ => ?_
  refine crashes_bind_iff_of crashes_readParameters_iff exists_readParameters_iff
    fun schema _ => ?_
  refine crashes_bind_iff_of crashes_readSynonyms_iff exists_readSynonyms_iff fun words _ => ?_
  refine crashes_bind_iff_of crashes_readThreshold_iff exists_readThreshold_iff
    fun threshold _ => ?_
  rw [crashes_bind_pure_iff, and_false, or_false]
  exact crashes_readPriority_iff

end Intent

end Phrasebook
