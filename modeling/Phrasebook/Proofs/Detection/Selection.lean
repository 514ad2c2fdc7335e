import Mathlib
import Phrasebook.Proofs.Detection.Own

/-!
# What a label selects

A label is put in upper case before it is looked up, and ids are kept in the letters that they were
declared in.  So a classifier that answers with the id of an intent selects the intent if the id is
in upper case, and never otherwise.
-/

namespace Phrasebook

namespace Catalog

variable {catalog : Catalog} {intent : Intent} {label : String}

/-- A label that is an id up to outer blanks stands for that id exactly if it is in upper case. -/
theorem Aligned.normalizeId?_eq_some_iff (haligned : catalog.Aligned)
    (hmem : intent ∈ catalog.intents) (hlabel : trimmed label = intent.id) :
    catalog.normalizeId? label = some intent.id ↔ uppered intent.id = intent.id := by
  have hentry := haligned.mem_definitions hmem
  have hne : label ≠ "" := by
    rintro rfl
    have hempty : intent.id = "" := hlabel.symm.trans (by decide)
    exact (haligned.isId _ hentry).ne_empty hempty
  rw [normalizeId?, hlabel]
  constructor
  · intro hsome
    split at hsome
    · exact Option.some.inj hsome
    · cases hsome
  · intro hupper
    have hhas : catalog.has intent.id = true :=
      OrderedMap.hasKey_eq_true_iff.mpr (List.mem_map.mpr ⟨_, hentry, rfl⟩)
    have hsome : label.isEmpty = false := by simpa using hne
    rw [hupper, hhas, hsome]
    rfl

end Catalog

namespace Detection

variable {settings : Settings} {catalog : Catalog} {text label : String} {confidence : Value}
  {intent : Intent}

theorem lessThan_eq_false_of_reaches {least : Value} (hreaches : Reaches confidence least) :
    confidence.lessThan least = .ok false := by
  obtain ⟨sure, bound, rfl, rfl, hle⟩ := hreaches
  rw [Value.lessThan_number, Number.lt_eq_false_of_le hle]

/-- An answer with the id of an intent detects the intent if the label stands for the id and the
parameters can be read, and it detects no other way. -/
theorem exists_byAnswer_iff (haligned : catalog.Aligned) (hmem : intent ∈ catalog.intents)
    (hreaches : Reaches confidence settings.classifierLeast) :
    (∃ detection, byAnswer settings catalog (.text text) (some ⟨.text label, confidence⟩) =
        .ok detection ∧ detection.intentId = some intent.id) ↔
      catalog.normalizeId? label = some intent.id ∧
        ∃ found, parametersFor catalog intent text = .ok found := by
  constructor
  · rintro ⟨detection, hok, hid⟩
    cases fromAnswer hok with
    | weak _ _ => cases hid
    | @intent _ id _ found _ _ _ hlabel hfind htext hfound =>
        cases htext
        obtain ⟨rfl, -⟩ := haligned.find? hfind
        have hsame : found.id = intent.id := Option.some.inj hid
        have hfinds := haligned.find?_eq hmem
        rw [← hsame, hfind] at hfinds
        cases hfinds
        rw [Catalog.idOfLabel_text] at hlabel
        exact ⟨Except.ok.inj hlabel, _, hfound⟩
  · rintro ⟨hlabel, ⟨pattern, parameters⟩, hfound⟩
    refine ⟨{ nothing (.text text) .classifier with
      intentId := some intent.id, confidence, pattern, parameters }, ?_, rfl⟩
    simp only [byAnswer, lessThan_eq_false_of_reaches hreaches, Catalog.idOfLabel_text, hlabel,
      haligned.find?_eq hmem, hfound, Value.toText, bind, Except.bind, Option.bind,
      Bool.false_eq_true, if_false]
    rfl

end Detection

namespace Detector

open Detection

/-- An id stands for itself exactly if it is in upper case.  An answer with the id, sure enough for
the classifier's minimum and in blanks or not, selects the intent under the same condition, as long
as the parameters can be read from the text. -/
theorem selects_iff_uppered {detector : Detector} (hreachable : detector.catalog.Reachable)
    {intent : Intent} (hmem : intent ∈ detector.catalog.intents) :
    (detector.catalog.normalizeId? intent.id = some intent.id ↔ uppered intent.id = intent.id) ∧
      ∀ (text label : String) (confidence : Value), trimmed label = intent.id →
        (detector.ask (.text text)).1 = .ok (some ⟨.text label, confidence⟩) →
        Reaches confidence detector.settings.classifierLeast →
          ((∃ detection, (detector.detectClassifier (.text text)).1 = .ok detection ∧
              detection.intentId = some intent.id) ↔
            uppered intent.id = intent.id ∧
              ∃ found, parametersFor detector.catalog intent text = .ok found) := by
  have haligned := hreachable.aligned
  have hid := haligned.isId _ (haligned.mem_definitions hmem)
  refine ⟨haligned.normalizeId?_eq_some_iff hmem hid.trimmed, ?_⟩
  intro text label confidence hlabel hanswer hreaches
  have hdetects : (detector.detectClassifier (.text text)).1 =
      byAnswer detector.settings detector.catalog (.text text)
        (some ⟨.text label, confidence⟩) := by
    rw [detectClassifier_fst, hanswer]
    rfl
  rw [hdetects, exists_byAnswer_iff haligned hmem hreaches,
    haligned.normalizeId?_eq_some_iff hmem hlabel]

/-- A detector for a single intent without slots, whose classifier answers with a label. -/
def labelling (intent : Intent) (label : String) : Detector :=
  create (Catalog.empty.write intent.id intent (Catalog.prepare intent.patterns))
    (some (.prepared ⟨[.classification ⟨.text label, Settings.tenths 9⟩], []⟩)) .standard

def help (id : String) : Intent := .ofTemplates id ["tengo un problema"]

theorem reachable_labelling {id : String} (hid : Intent.IsId id) (label : String) :
    (labelling (help id) label).catalog.Reachable :=
  ⟨[⟨help id, Intent.isDeclared_ofTemplates hid (by decide) (by decide)⟩], _, [], rfl, rfl⟩

theorem reaches_labelling : Reaches (Settings.tenths 9) Settings.standard.classifierLeast :=
  ⟨_, _, rfl, rfl, by decide +kernel⟩

theorem selects_iff_uppered_padded :
    ∃ detection,
      ((labelling (help "AYUDA") " AYUDA\n").detectClassifier (.text "hola")).1 = .ok detection ∧
        detection.intentId = some "AYUDA" := by
  have hid : Intent.IsId "AYUDA" := ⟨by decide, by decide⟩
  have hselects := (selects_iff_uppered (reachable_labelling hid " AYUDA\n")
    (List.mem_singleton_self (help "AYUDA"))).2 "hola" " AYUDA\n" (Settings.tenths 9) (by decide)
      rfl reaches_labelling
  have hplain : (help "AYUDA").IsPlain := fun _ hentry => absurd hentry List.not_mem_nil
  exact hselects.mpr ⟨by decide, exists_parametersFor _ hplain "hola"⟩

/-- An intent with an id in small letters cannot be selected by its id. -/
theorem ask_passes_over_small_letters :
    ¬ ∀ (detector : Detector) (intent : Intent) (text : String) (confidence : Value),
      detector.catalog.Reachable → intent ∈ detector.catalog.intents →
      lowered intent.id ≠ Classification.noLabel → isBlankText text = false →
      IsProbability confidence → Reaches confidence detector.settings.classifierLeast →
      (detector.ask (.text text)).1 = .ok (some ⟨.text intent.id, confidence⟩) →
      ∃ detection, (detector.detectClassifier (.text text)).1 = .ok detection ∧
        detection.intentId = some intent.id := by
  intro hselects
  have hid : Intent.IsId "ayuda" := ⟨by decide, by decide⟩
  have hprobability : IsProbability (Settings.tenths 9) :=
    ⟨_, rfl, by decide +kernel, by decide +kernel⟩
  obtain ⟨detection, hdetects, hselected⟩ := hselects (labelling (help "ayuda") "ayuda")
    (help "ayuda") "hola" (Settings.tenths 9) (reachable_labelling hid "ayuda")
    (List.mem_singleton_self _) (by decide) (by decide) hprobability reaches_labelling rfl
  have hweak : ((labelling (help "ayuda") "ayuda").detectClassifier (.text "hola")).1 =
      .ok { nothing (.text "hola") .classifier with confidence := Settings.tenths 9 } := by
    decide +kernel
  cases hdetects.symm.trans hweak
  cases hselected

end Detector

end Phrasebook
