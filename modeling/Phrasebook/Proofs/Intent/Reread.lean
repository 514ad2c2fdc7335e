import Mathlib
import Phrasebook.Proofs.Intent.Declared
import Phrasebook.Proofs.Slot.Reread
import Phrasebook.Proofs.Text.Lowered

/-!
# An intent is read back from its declaration

Each part of an intent is read back from what the intent declares of it, so that the whole
declaration gives the intent again.  The exception is the name: a blank one is trimmed to nothing,
and nothing is read as no name, for which the id stands in.
-/

namespace Phrasebook

theorem Value.toText_eq_ok_iff {value : Value} {text : String} :
    value.toText = .ok text ↔ value = .text text := by
  cases value <;> simp [Value.toText]

namespace Intent

/-! ## Part by part -/

theorem trimmed_of_readLabel {other label : String} {value : Value}
    (hlabel : readLabel other value = .ok label) : trimmed label = label := by
  obtain ⟨text, -, htext⟩ := bind_eq_ok_iff.mp hlabel
  cases htext
  exact trimmed_trimmed text

theorem orElse_text (text other : String) :
    (Value.text text).orElse (.text other) = .text (if text = "" then other else text) := by
  by_cases htext : text = "" <;> simp [Value.orElse, Value.holds, htext]

theorem readLabel_of_trimmed {other label : String} (hnone : label = "" → other = "")
    (htrimmed : trimmed label = label) : readLabel other (.text label) = .ok label := by
  have hlabel : (if label = "" then other else label) = label := by
    split
    · rename_i hempty
      rw [hnone hempty, hempty]
    · rfl
  rw [readLabel, orElse_text, hlabel]
  exact congrArg Except.ok htrimmed

/-- A label is missing after reading only if it was blank without being empty. -/
theorem eq_empty_iff_of_readLabel {other label : String} {value : Value}
    (hother : isBlankText other = false) (hlabel : readLabel other value = .ok label) :
    label = "" ↔ ∃ text, value = .text text ∧ text ≠ "" ∧ isBlankText text = true := by
  obtain ⟨text, htext, hlabel⟩ := bind_eq_ok_iff.mp hlabel
  cases hlabel
  rw [trimmed_eq_empty_iff]
  rw [Value.orElse] at htext
  split at htext
  · rename_i hholds
    rw [Value.toText_eq_ok_iff] at htext
    subst htext
    have hne : text ≠ "" := by simpa [Value.holds] using hholds
    simp [hne]
  · rename_i hholds
    cases htext
    rw [hother]
    refine iff_of_false Bool.false_ne_true ?_
    rintro ⟨text, rfl, hne, -⟩
    exact hholds (by simpa [Value.holds] using hne)

theorem isBlankText_of_readTemplate {id template : String} {value : Value}
    (hread : readTemplate id value = .ok template) : isBlankText template = false := by
  unfold readTemplate at hread
  split at hread
  · split at hread
    · cases hread
    · rename_i hblank
      cases hread
      exact Bool.not_eq_true _ ▸ hblank
  · cases hread

theorem patterns_of_readPatterns {id : String} {value : Value} {templates : List String}
    (hread : readPatterns id value = .ok templates) :
    templates ≠ [] ∧ ∀ template ∈ templates, isBlankText template = false := by
  unfold readPatterns at hread
  split at hread
  · cases hread
  · obtain ⟨members, -, hmembers⟩ := bind_eq_ok_iff.mp hread
    split at hmembers
    · cases hmembers
    · rename_i hsome
      refine ⟨?_, forall_mem_of_mapM_eq_ok hmembers fun _ _ => isBlankText_of_readTemplate⟩
      rintro rfl
      rw [mapM_eq_ok_iff, List.forall₂_nil_right_iff] at hmembers
      simp [hmembers] at hsome

/-- Entries that are read one by one are read back together: the map that they were written to has
no key twice, and its keys and values are of the kinds that the step makes and reads back. -/
theorem ofList_mapM_map {κ α : Type} [BEq κ] {step : Key × Value → Except Fault (κ × α)}
    {shown : κ × α → Key × Value} (P : κ → Prop) (Q : α → Prop)
    (hstep : ∀ item entry, step item = .ok entry → P entry.1 ∧ Q entry.2)
    (hback : ∀ entry, P entry.1 → Q entry.2 → step (shown entry) = .ok entry)
    {items : List (Key × Value)} {entries : OrderedMap κ α}
    (hread : (do return OrderedMap.ofList (← items.mapM step)) = Except.ok entries) :
    (do return OrderedMap.ofList (← (entries.map shown).mapM step)) = Except.ok entries := by
  obtain ⟨written, hwritten, hentries⟩ := bind_eq_ok_iff.mp hread
  cases hentries
  have hkinds := OrderedMap.forall_mem_ofList (forall_mem_of_mapM_eq_ok hwritten hstep)
  refine bind_eq_ok_iff.mpr ⟨OrderedMap.ofList written, ?_, ?_⟩
  · exact mapM_map_eq_ok fun entry hentry => hback entry (hkinds entry hentry).1
      (hkinds entry hentry).2
  · rw [OrderedMap.ofList_eq_self (OrderedMap.isDistinct_ofList written)]
    rfl

theorem readParameters_of_readParameters {value : Value} {parameters : Schema}
    (hread : readParameters value = .ok parameters) :
    readParameters (parametersWith Slot.toValue parameters) = .ok parameters := by
  obtain ⟨entries, -, hentries⟩ := bind_eq_ok_iff.mp hread
  refine ofList_mapM_map (fun _ => True) (fun slot => slot.kind.IsConsistent) ?_ ?_ hentries
  · intro item entry hentry
    obtain ⟨slot, hslot, ⟨⟩⟩ := bind_eq_ok_iff.mp hentry
    exact ⟨trivial, Slot.isConsistent_of_ofValue hslot⟩
  · intro entry _ hconsistent
    rw [Slot.ofValue_toValue hconsistent]
    rfl

theorem readSynonyms_of_readSynonyms {value : Value} {synonyms : Synonyms}
    (hread : readSynonyms value = .ok synonyms) :
    readSynonyms (synonymsValue synonyms) = .ok synonyms := by
  obtain ⟨entries, -, hentries⟩ := bind_eq_ok_iff.mp hread
  rw [synonymsValue, Value.record, List.map_map]
  refine ofList_mapM_map (fun word => lowered word = word) (fun _ => True) ?_ ?_ hentries
  · intro item entry hentry
    obtain ⟨word, -, hword⟩ := bind_eq_ok_iff.mp hentry
    obtain ⟨alternatives, -, ⟨⟩⟩ := bind_eq_ok_iff.mp hword
    exact ⟨lowered_lowered word, trivial⟩
  · intro entry hlowered _
    change Except.ok (lowered entry.1, entry.2) = .ok entry
    rw [hlowered]

theorem readThreshold_of_readThreshold {id : String} {value : Value} {threshold : Real64}
    (hread : readThreshold id value = .ok threshold) :
    readThreshold id (.real threshold) = .ok threshold := by
  obtain ⟨found, -, hfound⟩ := bind_eq_ok_iff.mp hread
  split at hfound
  · rename_i hprobability
    cases hfound
    rw [readThreshold, bind_eq_ok_iff]
    exact ⟨threshold, rfl, by rw [hprobability]; rfl⟩
  · cases hfound

theorem readPriority_of_readPriority {id : String} {value : Value} {priority : Number}
    (hread : readPriority id value = .ok priority) :
    readPriority id (.number priority) = .ok priority := by
  cases value with
  | number found =>
      have heq : found = priority := by
        obtain ⟨whole, -, hwhole⟩ := bind_eq_ok_iff.mp hread
        split at hwhole
        · split at hwhole
          · cases hwhole
          · cases hwhole
            rfl
        · cases hwhole
      rwa [heq] at hread
  | bool found => cases hread
  | _ =>
      obtain ⟨whole, -, hwhole⟩ := bind_eq_ok_iff.mp hread
      cases hwhole

/-! ## The whole declaration -/

theorem orElse_blank (text : String) : (Value.text text).orElse (.text "") = .text text := by
  rw [orElse_text]
  split <;> simp_all

theorem orElse_texts (texts : List String) :
    (Value.texts texts).orElse (.list []) = .texts texts := by
  cases texts <;> rfl

theorem orElse_mapping (entries : List (Key × Value)) :
    (Value.mapping entries).orElse (.mapping []) = .mapping entries := by
  cases entries <;> rfl

theorem toEntries_parametersWith (shown : Slot → Value) (parameters : Schema) :
    ((parametersWith shown parameters).orElse (.mapping [])).toEntries =
      .ok (parameters.map fun entry => (entry.1, shown entry.2)) := by
  rw [parametersWith, orElse_mapping, Value.toEntries]

theorem toEntries_synonymsValue (synonyms : Synonyms) :
    ((synonymsValue synonyms).orElse (.mapping [])).toEntries =
      .ok (Value.named (synonyms.map fun entry => (entry.1, .list entry.2))) := by
  rw [synonymsValue, Value.record_eq, orElse_mapping, Value.toEntries]

/-- The intent under a name: its id, if it has no other. -/
def called (intent : Intent) : Intent :=
  { intent with name := if intent.name = "" then intent.id else intent.name }

theorem called_name_ne_empty {intent : Intent} (hid : IsId intent.id) :
    intent.called.name ≠ "" := by
  rw [called]
  split
  · exact hid.ne_empty
  · assumption

theorem called_eq_self {intent : Intent} (hname : intent.name ≠ "") : intent.called = intent := by
  rw [called, if_neg hname]

theorem called_eq_self_iff {intent : Intent} (hid : IsId intent.id) :
    intent.called = intent ↔ intent.name ≠ "" := by
  constructor
  · intro hcalled
    rw [← hcalled]
    exact called_name_ne_empty hid
  · exact called_eq_self

/-- The parts of an intent as it declares them. -/
def redraft (intent : Intent) : Draft where
  id := .text intent.id
  name := .text intent.called.name
  description := .text intent.description
  patterns := .texts intent.patterns
  parameters := parametersWith Slot.toValue intent.parameters
  synonyms := synonymsValue intent.synonyms
  threshold := .real intent.threshold
  priority := .number intent.priority

theorem ofValue_toValue (intent : Intent) :
    ofValue (.text intent.id) intent.toValue = ofDraft intent.redraft := by
  simp only [ofValue, toValue, Value.record_eq, ofEntries, draftOf, Value.fieldOrNull_named,
    Value.fieldOr_named, OrderedMap.get?, String.reduceBEq, Bool.false_eq_true, ↓reduceIte,
    BEq.rfl, Option.getD_some, Option.getD_none]
  rw [toEntries_parametersWith, toEntries_synonymsValue, orElse_blank, orElse_text, orElse_texts]
  rfl

theorem ofDraft_redraft {draft : Draft} {intent : Intent} (hdraft : ofDraft draft = .ok intent) :
    ofDraft intent.redraft = .ok intent.called := by
  have hread := ofDraft_eq_ok_iff.mp hdraft
  have hid := isId_of_readId hread.id
  obtain ⟨hne, hblank⟩ := patterns_of_readPatterns hread.patterns
  refine ofDraft_eq_ok_iff.mpr {
    id := hid.readId_eq
    name := ?name
    description := ?description
    patterns := readPatterns_texts hne hblank
    parameters := readParameters_of_readParameters hread.parameters
    synonyms := readSynonyms_of_readSynonyms hread.synonyms
    threshold := readThreshold_of_readThreshold hread.threshold
    priority := readPriority_of_readPriority hread.priority }
  case name =>
    have htrimmed : trimmed intent.called.name = intent.called.name := by
      rw [called]
      split
      · exact hid.trimmed
      · exact trimmed_of_readLabel hread.name
    exact readLabel_of_trimmed (fun hnone => absurd hnone (called_name_ne_empty hid)) htrimmed
  case description =>
    exact readLabel_of_trimmed (fun _ => rfl) (trimmed_of_readLabel hread.description)

/-- The entries of the full declaration of an intent. -/
def declared (intent : Intent) : List (Key × Value) :=
  match intent.toValue with
  | .mapping entries => entries
  | _ => []

theorem ofEntries_declared {intent : Intent} (hdeclared : intent.IsDeclared) :
    ofEntries (.text intent.id) intent.declared = .ok intent.called := by
  obtain ⟨draft, hdraft⟩ := hdeclared
  exact (ofValue_toValue intent).trans (ofDraft_redraft hdraft)

/-- An intent is read back from what it declares, in every part but a name that was blank.  That
one is trimmed to nothing, and the id is read in its place. -/
theorem ofValue_toValue_of_ofDraft {draft : Draft} {intent : Intent}
    (hdraft : ofDraft draft = .ok intent) :
    ofValue (.text intent.id) intent.toValue =
        .ok { intent with name := if intent.name = "" then intent.id else intent.name } ∧
      (ofValue (.text intent.id) intent.toValue = .ok intent ↔
        ¬ ∃ name, draft.name = .text name ∧ name ≠ "" ∧ isBlankText name = true) := by
  have hid := isId_of_readId (readId_of_ofDraft hdraft)
  have hread : ofValue (.text intent.id) intent.toValue = .ok intent.called := by
    rw [ofValue_toValue, ofDraft_redraft hdraft]
  refine ⟨hread, ?_⟩
  rw [hread, Except.ok.injEq, called_eq_self_iff hid,
    ← eq_empty_iff_of_readLabel hid.notBlank (ofDraft_eq_ok_iff.mp hdraft).name]

/-- A draft with every kind of part: two spellings of a word, one alternative without a list, a
threshold in words and a priority with a point. -/
def orderDraft : Draft where
  id := .text " PEDIDO "
  name := .text " Pedido nuevo "
  description := .null
  patterns := .list [.text "quiero {cantidad} {cosa}"]
  parameters := .mapping [
    (.text "cantidad",
      .record [("type", .text "number"), ("min", .int 1), ("required", .bool true)]),
    (.text "cosa", .record [("max_length", .int 20), ("transform", .text "UPPERCASE")])]
  synonyms := .mapping [
    (.text "Quiero", .text "deseo"), (.text "QUIERO", .texts ["deseo", "necesito"])]
  threshold := .text "0.5"
  priority := .real (.ofRatio false 2 1)

/-- The intent of `orderDraft`. -/
def orderRead : Intent where
  id := "PEDIDO"
  name := "Pedido nuevo"
  description := ""
  patterns := ["quiero {cantidad} {cosa}"]
  parameters := [
    (.text "cantidad", {
      required := true, description := .null, fallback := .null, kind := .number (.int 1) .null }),
    (.text "cosa", {
      required := false, description := .null, fallback := .null,
      kind := .string .null (.int 20) (some .uppercase) })]
  synonyms := [("quiero", [.text "deseo", .text "necesito"])]
  threshold := .ofRatio false 1 2
  priority := .real (.ofRatio false 2 1)

theorem ofValue_toValue_of_ofDraft_order :
    ofDraft orderDraft = .ok orderRead ∧
      ofValue (.text "PEDIDO") orderRead.toValue = .ok orderRead := by
  have hdraft : ofDraft orderDraft = .ok orderRead := by decide +kernel
  refine ⟨hdraft, (ofValue_toValue_of_ofDraft hdraft).2.mpr ?_⟩
  rintro ⟨name, ⟨⟩, -, hblank⟩
  exact absurd hblank (by decide)

/-- The greeting with a blank name. -/
def nameless : Intent := { ofTemplates "SALUDO" ["hola"] with name := "" }

theorem isDeclared_nameless : nameless.IsDeclared :=
  ⟨{
    id := .text "SALUDO", name := .text "  ", description := .null, patterns := .texts ["hola"]
    parameters := .mapping [], synonyms := .mapping [], threshold := defaultThreshold
    priority := defaultPriority }, by decide +kernel⟩

theorem ofValue_toValue_renames_nameless :
    ¬ ∀ intent : Intent, intent.IsDeclared →
      ofValue (.text intent.id) intent.toValue = .ok intent := by
  intro hreread
  have hsame := hreread nameless isDeclared_nameless
  have hread : ofValue (.text "SALUDO") nameless.toValue =
      .ok (ofTemplates "SALUDO" ["hola"]) := by
    decide +kernel
  have hname : (ofTemplates "SALUDO" ["hola"]).name = nameless.name :=
    congrArg Intent.name (Except.ok.inj (hread.symm.trans hsame))
  exact absurd hname (by decide)

end Intent

end Phrasebook
