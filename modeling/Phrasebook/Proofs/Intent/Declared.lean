import Mathlib
import Phrasebook.Intent.Declaration
import Phrasebook.Proofs.Fault
import Phrasebook.Proofs.Text.Words

/-!
# Declared intents

The intents that a program can have are those that some draft describes.  Whatever a draft gives as
the id, the id of its intent is a text that reads as itself.
-/

namespace Phrasebook.Intent

/-- An intent that some draft describes. -/
def IsDeclared (intent : Intent) : Prop := ∃ draft, ofDraft draft = .ok intent

/-- A text that can be the id of an intent. -/
structure IsId (id : String) : Prop where
  trimmed : trimmed id = id
  notBlank : isBlankText id = false

theorem isId_of_readId {value : Value} {id : String} (hread : readId value = .ok id) : IsId id := by
  unfold readId at hread
  split at hread
  · obtain ⟨text, -, htext⟩ := bind_eq_ok_iff.mp hread
    split at htext
    · cases htext
    · rename_i hblank
      cases htext
      exact ⟨trimmed_trimmed text, by rwa [isBlankText_trimmed, ← Bool.not_eq_true]⟩
  · cases hread

theorem IsId.ne_empty {id : String} (hid : IsId id) : id ≠ "" := by
  rintro rfl
  exact absurd hid.notBlank (by decide)

theorem IsId.readId_eq {id : String} (hid : IsId id) : readId (.text id) = .ok id := by
  have hholds : (Value.text id).holds = true := by simp [Value.holds, hid.ne_empty]
  rw [readId, hholds, if_pos rfl, Value.toText, bind_eq_ok_iff]
  exact ⟨id, rfl, by rw [hid.notBlank, hid.trimmed]; rfl⟩

theorem IsId.eq_of_readId {id found : String} (hid : IsId id)
    (hread : readId (.text id) = .ok found) : found = id := by
  rw [hid.readId_eq] at hread
  cases hread
  rfl

/-- Each part of an intent is what is read from that part of a draft. -/
structure Draft.IsReadAs (draft : Draft) (intent : Intent) : Prop where
  id : readId draft.id = .ok intent.id
  name : readLabel intent.id draft.name = .ok intent.name
  description : readLabel "" draft.description = .ok intent.description
  patterns : readPatterns intent.id draft.patterns = .ok intent.patterns
  parameters : readParameters draft.parameters = .ok intent.parameters
  synonyms : readSynonyms draft.synonyms = .ok intent.synonyms
  threshold : readThreshold intent.id draft.threshold = .ok intent.threshold
  priority : readPriority intent.id draft.priority = .ok intent.priority

theorem ofDraft_eq_ok_iff {draft : Draft} {intent : Intent} :
    ofDraft draft = .ok intent ↔ draft.IsReadAs intent := by
  simp only [ofDraft, bind_eq_ok_iff]
  constructor
  · rintro ⟨id, hid, name, hname, description, hdescription, patterns, hpatterns, parameters,
      hparameters, synonyms, hsynonyms, threshold, hthreshold, priority, hpriority, ⟨⟩⟩
    exact ⟨hid, hname, hdescription, hpatterns, hparameters, hsynonyms, hthreshold, hpriority⟩
  · rintro ⟨hid, hname, hdescription, hpatterns, hparameters, hsynonyms, hthreshold, hpriority⟩
    exact ⟨_, hid, _, hname, _, hdescription, _, hpatterns, _, hparameters, _, hsynonyms, _,
      hthreshold, _, hpriority, rfl⟩

theorem readId_of_ofDraft {draft : Draft} {intent : Intent} (hdraft : ofDraft draft = .ok intent) :
    readId draft.id = .ok intent.id := (ofDraft_eq_ok_iff.mp hdraft).id

theorem readId_of_ofEntries {id : Value} {entries : List (Key × Value)} {intent : Intent}
    (hentries : ofEntries id entries = .ok intent) : readId id = .ok intent.id := by
  obtain ⟨draft, hdraft, hintent⟩ := bind_eq_ok_iff.mp hentries
  simp only [draftOf, bind_eq_ok_iff] at hdraft
  obtain ⟨parameters, -, synonyms, -, hdraft⟩ := hdraft
  cases hdraft
  exact readId_of_ofDraft hintent

theorem isDeclared_of_ofEntries {id : Value} {entries : List (Key × Value)} {intent : Intent}
    (hentries : ofEntries id entries = .ok intent) : intent.IsDeclared := by
  obtain ⟨draft, -, hdraft⟩ := bind_eq_ok_iff.mp hentries
  exact ⟨draft, hdraft⟩

theorem isDeclared_of_ofValue {id data : Value} {intent : Intent}
    (hintent : ofValue id data = .ok intent) : intent.IsDeclared := by
  unfold ofValue at hintent
  split at hintent
  · exact isDeclared_of_ofEntries hintent
  · cases hintent

theorem IsDeclared.isId {intent : Intent} (hdeclared : intent.IsDeclared) : IsId intent.id := by
  obtain ⟨draft, hdraft⟩ := hdeclared
  exact isId_of_readId (readId_of_ofDraft hdraft)

/-- Intents that come from drafts; no others are ever put in a catalog. -/
abbrev Declared := { intent : Intent // intent.IsDeclared }

/-- The intent of a declaration with nothing but an id and templates. -/
def ofTemplates (id : String) (templates : List String) : Intent where
  id := id
  name := id
  description := ""
  patterns := templates
  parameters := []
  synonyms := []
  threshold := .ofRatio false 8 10
  priority := .int 1

theorem readPatterns_texts {id : String} {templates : List String} (hne : templates ≠ [])
    (hblank : ∀ template ∈ templates, isBlankText template = false) :
    readPatterns id (.texts templates) = .ok templates := by
  have hread : (templates.map Value.text).mapM (readTemplate id) = .ok templates :=
    mapM_map_eq_ok fun template htemplate => by
      rw [readTemplate, hblank template htemplate]
      rfl
  have hsome : (templates.map Value.text).isEmpty = false := by simpa using hne
  rw [Value.texts, readPatterns, Value.members, bind_eq_ok_iff]
  · exact ⟨_, rfl, by rw [hsome]; exact hread⟩
  · nofun

theorem isDeclared_ofTemplates {id : String} {templates : List String} (hid : IsId id)
    (hne : templates ≠ []) (hblank : ∀ template ∈ templates, isBlankText template = false) :
    (ofTemplates id templates).IsDeclared := by
  have hpatterns : readPatterns id (.texts templates) = .ok templates :=
    readPatterns_texts hne hblank
  have hname : readLabel id (.text "") = .ok id := by
    rw [readLabel]
    exact congrArg Except.ok hid.trimmed
  have hthreshold : readThreshold id defaultThreshold = .ok (.ofRatio false 8 10) := by
    rw [readThreshold, bind_eq_ok_iff]
    refine ⟨_, rfl, ?_⟩
    rw [if_pos (by decide +kernel)]
    rfl
  have hpriority : readPriority id defaultPriority = .ok (.int 1) := by
    rw [defaultPriority, Value.int, readPriority, bind_eq_ok_iff]
    refine ⟨1, by decide, ?_⟩
    rw [if_pos (by decide +kernel), if_neg (by decide +kernel)]
    rfl
  refine ⟨{
    id := .text id, name := .text "", description := .text "",
    patterns := .texts templates, parameters := .mapping [], synonyms := .mapping [],
    threshold := defaultThreshold, priority := defaultPriority }, ofDraft_eq_ok_iff.mpr ?_⟩
  refine {
    id := hid.readId_eq, name := hname, description := rfl, patterns := hpatterns
    parameters := rfl, synonyms := rfl, threshold := ?threshold, priority := hpriority }
  rw [ofTemplates, ← hthreshold]

end Phrasebook.Intent
