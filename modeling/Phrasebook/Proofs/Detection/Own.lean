import Mathlib
import Phrasebook.Proofs.Detection.Asking
import Phrasebook.Proofs.Detection.Reading
import Phrasebook.Proofs.Number
import Phrasebook.Proofs.Ranking.Order

/-!
# What a source detects on its own

If a source detects an intent, the intent is in the catalog, the confidence keeps the source's own
minimum, and the parameters are read for that intent and no other.
-/

namespace Phrasebook

namespace Settings

/-- The minimum of a source. -/
def least (settings : Settings) : Source → Value
  | .patterns => settings.patternLeast
  | .classifier => settings.classifierLeast

/-- Minimums and thresholds are numbers, of any size. -/
structure AreNumbers (settings : Settings) : Prop where
  least : ∀ source, ∃ number, settings.least source = .number number
  patternThreshold : ∃ number, settings.patternThreshold = .number number
  classifierThreshold : ∃ number, settings.classifierThreshold = .number number

theorem AreProbabilities.areNumbers {settings : Settings} (hsettings : settings.AreProbabilities) :
    settings.AreNumbers where
  least source := by
    cases source with
    | patterns => exact hsettings.patternLeast.imp fun _ hleast => hleast.1
    | classifier => exact hsettings.classifierLeast.imp fun _ hleast => hleast.1
  patternThreshold := hsettings.patternThreshold.imp fun _ hleast => hleast.1
  classifierThreshold := hsettings.classifierThreshold.imp fun _ hleast => hleast.1

end Settings

/-! ## Confidences -/

/-- A number other than the undefined one. -/
def IsMeasure (value : Value) : Prop := ∃ number, value = .number number ∧ number.IsDefined

theorem IsProbability.isMeasure {value : Value} (hvalue : IsProbability value) :
    IsMeasure value := by
  obtain ⟨number, rfl, hle, -⟩ := hvalue
  exact ⟨number, rfl, Number.isDefined_of_le hle⟩

theorem isMeasure_zero : IsMeasure (.real .zero) := ⟨_, rfl, rfl⟩

theorem Real64.IsShare.isMeasure {share : Real64} (hshare : share.IsShare) :
    IsMeasure (.real share) := by
  obtain ⟨steps, rfl, -⟩ := hshare
  exact ⟨_, rfl, rfl⟩

/-- A confidence that is not below a minimum is at least that, unless the minimum is undefined. -/
theorem reaches_iff_of_lessThan {confidence least : Value} (hmeasure : IsMeasure confidence)
    (hleast : ∃ number, least = .number number)
    (hlessThan : confidence.lessThan least = .ok false) :
    Reaches confidence least ↔ least ≠ .real .nan := by
  obtain ⟨sure, rfl, hsure⟩ := hmeasure
  obtain ⟨bound, rfl⟩ := hleast
  rw [Value.lessThan_number, Except.ok.injEq] at hlessThan
  rw [reaches_number_iff]
  constructor
  · rintro hle ⟨⟩
    exact absurd hle nofun
  · intro hne
    have hbound : bound.IsDefined := by
      rw [Number.IsDefined, ← Option.ne_none_iff_isSome, Ne, Number.extent?_eq_none_iff]
      exact fun hnan => hne (congrArg Value.number hnan)
    exact Number.le_of_lt_eq_false hbound hsure hlessThan

theorem Catalog.idOfLabel_text (catalog : Catalog) (label : String) :
    catalog.idOfLabel (.text label) = .ok (catalog.normalizeId? label) := by
  by_cases hlabel : label = ""
  · subst hlabel
    rfl
  · have hholds : (Value.text label).holds = true := by simpa [Value.holds] using hlabel
    rw [idOfLabel, if_pos hholds]
    rfl

namespace Detection

/-- What a detection of an intent rests on: the intent is in the catalog, the confidence is at least
the minimum (though an undefined minimum, which nothing reaches, keeps nothing out), and the
parameters are what the first accepting pattern of the intent captures, held against its slots.  The
detection names that pattern's template. -/
structure RestsOn (detection : Detection) (catalog : Catalog) (text : String) (least : Value)
    (intent : Intent) : Prop where
  mem : intent ∈ catalog.intents
  reaches : Reaches detection.confidence least ↔ least ≠ .real .nan
  reads : ∃ template captures, Reads intent text template captures ∧
    Parameters.ofCaptures captures intent.parameters = .ok detection.parameters ∧
      ∀ source ∈ template, detection.pattern = some source

/-- What a source detects on its own. -/
structure IsOwn (settings : Settings) (catalog : Catalog) (text : String) (source : Source)
    (detection : Detection) : Prop where
  method : detection.method = source.method
  measure : IsMeasure detection.confidence
  unmatched : detection.intentId = none → detection.parameters = []
  matched : ∀ id, detection.intentId = some id → ∃ intent, intent.id = id ∧
    detection.RestsOn catalog text (settings.least source) intent

variable {settings : Settings} {catalog : Catalog} {text : String} {detection : Detection}

theorem isOwn_of_unmatched {source : Source} (hmethod : detection.method = source.method)
    (hmeasure : IsMeasure detection.confidence) (hid : detection.intentId = none)
    (hparameters : detection.parameters = []) : IsOwn settings catalog text source detection where
  method := hmethod
  measure := hmeasure
  unmatched _ := hparameters
  matched _ hsome := absurd (hid.symm.trans hsome) nofun

theorem isOwn_byPatterns (haligned : catalog.Aligned) (hsettings : settings.AreNumbers)
    (hok : byPatterns settings catalog text = .ok detection) :
    IsOwn settings catalog text .patterns detection := by
  have hbest : ∀ {best rest}, Ranking.candidates text catalog = best :: rest →
      isBlankText text = false ∧ IsMeasure (.real best.confidence) := by
    intro best rest hcandidates
    rw [Ranking.candidates] at hcandidates
    split at hcandidates
    · cases hcandidates
    · rename_i hblank
      have hmem : best ∈ Ranking.coinciding text catalog :=
        List.mem_mergeSort.mp (hcandidates ▸ List.mem_cons_self)
      exact ⟨Bool.eq_false_iff.mpr hblank, (Ranking.isShare_of_mem_coinciding hmem).isMeasure⟩
  cases fromPatterns hok with
  | nothing => exact isOwn_of_unmatched rfl isMeasure_zero rfl rfl
  | weak hcandidates => exact isOwn_of_unmatched rfl (hbest hcandidates).2 rfl rfl
  | intent hcandidates hbelow hknown hfound =>
      obtain ⟨htext, hmeasure⟩ := hbest hcandidates
      have hmem := Catalog.mem_intents_of_find? hknown
      obtain ⟨captures, hreads, hparameters⟩ :=
        exists_reads_of_parametersFor haligned hmem htext hfound
      refine ⟨rfl, hmeasure, fun hnone => absurd hnone (Option.some_ne_none _), ?_⟩
      rintro _ ⟨⟩
      refine ⟨_, rfl, hmem, reaches_iff_of_lessThan hmeasure (hsettings.least .patterns) hbelow,
        _, captures, hreads, hparameters, ?_⟩
      rintro source ⟨⟩
      rfl

theorem isOwn_byAnswer (haligned : catalog.Aligned) (hsettings : settings.AreNumbers)
    (htext : isBlankText text = false) {answer : Option Classification}
    (hanswer : IsProper (.ok answer))
    (hok : byAnswer settings catalog (.text text) answer = .ok detection) :
    IsOwn settings catalog text .classifier detection := by
  cases fromAnswer hok with
  | nothing => exact isOwn_of_unmatched rfl isMeasure_zero rfl rfl
  | weak => exact isOwn_of_unmatched rfl hanswer.2.isMeasure rfl rfl
  | intent hbelow _ hfind hwritten hfound =>
      cases hwritten
      have hmeasure := hanswer.2.isMeasure
      have hmem := Catalog.mem_intents_of_find? hfind
      obtain ⟨captures, hreads, hparameters⟩ :=
        exists_reads_of_parametersFor haligned hmem htext hfound
      refine ⟨rfl, hmeasure, fun hnone => absurd hnone (Option.some_ne_none _), ?_⟩
      rintro _ ⟨⟩
      exact ⟨_, rfl, hmem, reaches_iff_of_lessThan hmeasure (hsettings.least .classifier) hbelow,
        _, captures, hreads, hparameters, fun _ hsource => hsource⟩

/-- Without dates, and with limits that can be shown, the patterns detect something or nothing. -/
theorem exists_byPatterns (hplain : ∀ intent ∈ catalog.intents, intent.IsPlain)
    (hsettings : settings.AreNumbers) (text : String) :
    ∃ detection, byPatterns settings catalog text = .ok detection := by
  unfold byPatterns
  dsimp only
  split
  · exact ⟨_, rfl⟩
  · obtain ⟨least, hleast⟩ := hsettings.least .patterns
    rw [Settings.least] at hleast
    rw [hleast]
    refine exists_bind_iff.mpr ⟨_, Value.lessThan_number _ _, ?_⟩
    split
    · exact ⟨_, rfl⟩
    split
    · exact ⟨_, rfl⟩
    · rename_i intent hknown
      obtain ⟨found, hfound⟩ :=
        exists_parametersFor catalog (hplain intent (Catalog.mem_intents_of_find? hknown)) text
      exact exists_bind_iff.mpr ⟨found, hfound, _, rfl⟩

theorem exists_byAnswer (hplain : ∀ intent ∈ catalog.intents, intent.IsPlain)
    (hsettings : settings.AreNumbers) (text : String) {answer : Option Classification}
    (hanswer : IsReply (.ok answer)) :
    ∃ detection, byAnswer settings catalog (.text text) answer = .ok detection := by
  unfold byAnswer
  split
  · exact ⟨_, rfl⟩
  · rename_i classification
    obtain ⟨⟨label, hlabel⟩, sure, hsure⟩ := hanswer
    obtain ⟨least, hleast⟩ := hsettings.least .classifier
    rw [Settings.least] at hleast
    rw [hleast, hsure, hlabel]
    refine exists_bind_iff.mpr ⟨_, Value.lessThan_number _ _, ?_⟩
    split
    · exact ⟨_, rfl⟩
    · refine exists_bind_iff.mpr ⟨_, catalog.idOfLabel_text label, ?_⟩
      split
      · exact ⟨_, rfl⟩
      · rename_i intent hknown
        obtain ⟨known, -, hfind⟩ := Option.bind_eq_some_iff.mp hknown
        obtain ⟨found, hfound⟩ :=
          exists_parametersFor catalog (hplain intent (Catalog.mem_intents_of_find? hfind)) text
        exact exists_bind_iff.mpr ⟨text, rfl, exists_bind_iff.mpr ⟨found, hfound, _, rfl⟩⟩

end Detection

end Phrasebook
