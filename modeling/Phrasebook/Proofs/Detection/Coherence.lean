import Mathlib
import Phrasebook.Proofs.Detection.Certain
import Phrasebook.Proofs.Detection.Hybrid
import Phrasebook.Proofs.Detection.Own

/-!
# Coherent detections

Detections are made in many places, some of them out of others, and a detection may be tried again
by the default method.  Still each one is of one piece: what it says of an intent was found by one
source, under that source's own minimum.
-/

namespace Phrasebook

namespace Detection

/-- Two detections have found the same. -/
structure SameFinding (detection other : Detection) : Prop where
  intentId : detection.intentId = other.intentId
  confidence : detection.confidence = other.confidence
  pattern : detection.pattern = other.pattern
  parameters : detection.parameters = other.parameters

/-- `Merges patterns outcome detection`: a hybrid detection is made of what the patterns detect and
of what became of detecting by the classifier.  Without an answer it keeps to the patterns; with one
it keeps to either source, and says how sure both are. -/
inductive Merges (patterns : Detection) : Except Fault Detection → Detection → Prop
  | alone {detection : Detection} {cause : Unanswered} :
      detection.SameFinding patterns →
      detection.patternConfidence = some patterns.confidence →
      Merges patterns (.error (.unanswered cause)) detection
  | both {detection classifier chosen : Detection} :
      chosen = patterns ∨ chosen = classifier →
      detection.SameFinding chosen →
      detection.patternConfidence = some patterns.confidence →
      detection.classifierConfidence = some classifier.confidence →
      (detection.decision = some .bestOfBoth →
        Reaches detection.confidence patterns.confidence ∧
          Reaches detection.confidence classifier.confidence) →
      Merges patterns (.ok classifier) detection

/-- A detection goes together with what the sources make of a text.  Without an intent it has no
parameters.  With one it has found what a source has found, by that source's method or as a hybrid,
and what it says rests on the catalog and the minimum of that source.  A hybrid detection merges
both sources, unless the text is blank; then it has found as little as the patterns. -/
structure IsCoherent (settings : Settings) (catalog : Catalog) (text : String)
    (outcome : Source → Except Fault Detection) (detection : Detection) : Prop where
  unmatched : detection.intentId = none → detection.parameters = []
  matched : ∀ id, detection.intentId = some id → ∃ source own intent,
    outcome source = .ok own ∧ detection.SameFinding own ∧
      (detection.method = source.method ∨ detection.method = .hybrid) ∧ intent.id = id ∧
        detection.RestsOn catalog text (settings.least source) intent
  hybrid : detection.method = .hybrid → ∃ patterns, outcome .patterns = .ok patterns ∧
    (isBlankText text = true ∧ detection.SameFinding patterns ∨
      Merges patterns (outcome .classifier) detection)

variable {settings : Settings} {catalog : Catalog} {text : String}
  {outcome : Source → Except Fault Detection} {detection other patterns classifier : Detection}

/-! ## Detections of one source -/

theorem SameFinding.refl (detection : Detection) : detection.SameFinding detection :=
  ⟨rfl, rfl, rfl, rfl⟩

theorem SameFinding.restsOn (hsame : detection.SameFinding other) {least : Value} {intent : Intent}
    (hrests : other.RestsOn catalog text least intent) :
    detection.RestsOn catalog text least intent where
  mem := hrests.mem
  reaches := hsame.confidence ▸ hrests.reaches
  reads := by
    rw [hsame.parameters, hsame.pattern]
    exact hrests.reads

theorem IsOwn.isCoherent {source : Source} (hown : IsOwn settings catalog text source detection)
    (houtcome : outcome source = .ok detection) :
    IsCoherent settings catalog text outcome detection where
  unmatched := hown.unmatched
  matched id hid := by
    obtain ⟨intent, hintent, hrests⟩ := hown.matched id hid
    exact ⟨source, detection, intent, houtcome, .refl _, .inl hown.method, hintent, hrests⟩
  hybrid hhybrid := by
    have hmethod := hown.method.symm.trans hhybrid
    cases source <;> exact absurd hmethod nofun

theorem isCoherent_of_unmatched (hid : detection.intentId = none)
    (hparameters : detection.parameters = [])
    (hhybrid : detection.method = .hybrid → ∃ patterns, outcome .patterns = .ok patterns ∧
      isBlankText text = true ∧ detection.SameFinding patterns) :
    IsCoherent settings catalog text outcome detection where
  unmatched _ := hparameters
  matched _ hsome := absurd (hid.symm.trans hsome) nofun
  hybrid hmethod := by
    obtain ⟨patterns, hpatterns, hblank⟩ := hhybrid hmethod
    exact ⟨patterns, hpatterns, .inl hblank⟩

/-! ## Detections of both sources -/

theorem Merges.exists_source (hpatterns : outcome .patterns = .ok patterns)
    (hmerges : Merges patterns (outcome .classifier) detection) :
    ∃ source own, outcome source = .ok own ∧ detection.SameFinding own := by
  generalize hclassifier : outcome .classifier = result at hmerges
  cases hmerges with
  | alone hsame => exact ⟨.patterns, patterns, hpatterns, hsame⟩
  | both hchosen hsame =>
      rcases hchosen with rfl | rfl
      · exact ⟨.patterns, _, hpatterns, hsame⟩
      · exact ⟨.classifier, _, hclassifier, hsame⟩

theorem Merges.isCoherent
    (hown : ∀ source own, outcome source = .ok own → IsOwn settings catalog text source own)
    (hmethod : detection.method = .hybrid) (hpatterns : outcome .patterns = .ok patterns)
    (hmerges : Merges patterns (outcome .classifier) detection) :
    IsCoherent settings catalog text outcome detection := by
  obtain ⟨source, own, houtcome, hsame⟩ := hmerges.exists_source hpatterns
  have hsource := hown source own houtcome
  refine ⟨?_, ?_, fun _ => ⟨patterns, hpatterns, .inr hmerges⟩⟩
  · intro hid
    rw [hsame.parameters]
    exact hsource.unmatched (hsame.intentId ▸ hid)
  · intro id hid
    obtain ⟨intent, hintent, hrests⟩ := hsource.matched id (hsame.intentId ▸ hid)
    exact ⟨source, own, intent, houtcome, hsame, .inr hmethod, hintent, hsame.restsOn hrests⟩

section Trusted

variable (hpatterns : IsMeasure patterns.confidence) (hclassifier : IsMeasure classifier.confidence)

include hpatterns hclassifier

/-- Where neither source reaches its threshold, the one that is trusted is as sure as both. -/
theorem reaches_of_trusted {chosen : Detection} {decision : Decision}
    (htrusted : trusted settings patterns classifier = .ok (chosen, decision)) :
    (chosen = patterns ∨ chosen = classifier) ∧ (decision = .bestOfBoth →
      Reaches chosen.confidence patterns.confidence ∧
        Reaches chosen.confidence classifier.confidence) := by
  obtain ⟨first, hfirst, hfirstDefined⟩ := hpatterns
  obtain ⟨second, hsecond, hsecondDefined⟩ := hclassifier
  obtain ⟨reached, -, htrusted⟩ := bind_eq_ok_iff.mp htrusted
  cases reached with
  | true =>
      cases htrusted
      exact ⟨.inl rfl, nofun⟩
  | false =>
      simp only [Bool.false_eq_true, if_false] at htrusted
      obtain ⟨reached, -, htrusted⟩ := bind_eq_ok_iff.mp htrusted
      cases reached with
      | true =>
          cases htrusted
          exact ⟨.inr rfl, nofun⟩
      | false =>
          simp only [Bool.false_eq_true, if_false] at htrusted
          obtain ⟨surer, hsurer, htrusted⟩ := bind_eq_ok_iff.mp htrusted
          rw [hfirst, hsecond, Value.greaterThan_number, Except.ok.injEq] at hsurer
          cases surer with
          | true =>
              cases htrusted
              rw [hfirst, hsecond, reaches_number_iff, reaches_number_iff]
              exact ⟨.inl rfl, fun _ => ⟨hfirstDefined.le_refl, Number.le_of_lt hsurer⟩⟩
          | false =>
              cases htrusted
              rw [hfirst, hsecond, reaches_number_iff, reaches_number_iff]
              exact ⟨.inr rfl, fun _ =>
                ⟨Number.le_of_lt_eq_false hfirstDefined hsecondDefined hsurer,
                  hsecondDefined.le_refl⟩⟩

theorem merges_ofBoth (hok : ofBoth settings patterns classifier = .ok detection) :
    detection.method = .hybrid ∧ Merges patterns (.ok classifier) detection := by
  obtain ⟨⟨chosen, decision⟩, htrusted, hresult⟩ := bind_eq_ok_iff.mp hok
  cases hresult
  obtain ⟨hchosen, hreaches⟩ := reaches_of_trusted hpatterns hclassifier htrusted
  refine ⟨rfl, .both hchosen ⟨rfl, rfl, rfl, rfl⟩ rfl rfl ?_⟩
  rintro ⟨⟩
  exact hreaches rfl

end Trusted

theorem exists_ofBoth (hsettings : settings.AreNumbers)
    (hpatterns : ∃ sure, patterns.confidence = .number sure)
    (hclassifier : ∃ sure, classifier.confidence = .number sure) :
    ∃ detection, ofBoth settings patterns classifier = .ok detection := by
  obtain ⟨first, hfirst⟩ := hpatterns
  obtain ⟨second, hsecond⟩ := hclassifier
  obtain ⟨least, hleast⟩ := hsettings.patternThreshold
  obtain ⟨enough, henough⟩ := hsettings.classifierThreshold
  obtain ⟨hwin, hlose⟩ := trusted_spec hfirst hsecond hleast henough
  by_cases hwins : PatternsWin settings patterns classifier
  · obtain ⟨decision, htrusted⟩ := hwin hwins
    exact exists_bind_iff.mpr ⟨_, htrusted, _, rfl⟩
  · obtain ⟨decision, htrusted⟩ := hlose hwins
    exact exists_bind_iff.mpr ⟨_, htrusted, _, rfl⟩

theorem merges_patternsAlone (patterns : Detection) (error : Option String) (cause : Unanswered) :
    Merges patterns (.error (.unanswered cause)) (patternsAlone patterns error) :=
  .alone ⟨rfl, rfl, rfl, rfl⟩ rfl

end Detection

namespace Detector

open Detection

variable {detector : Detector} {text : String} {detection : Detection}

/-! ## One method -/

theorem isOwn_outcome (haligned : detector.catalog.Aligned)
    (hsettings : detector.settings.AreNumbers) (hsound : detector.IsSound)
    (htext : isBlankText text = false) :
    ∀ source own, detector.outcome (.text text) source = .ok own →
      IsOwn detector.settings detector.catalog text source own := by
  intro source own hok
  cases source with
  | patterns => exact isOwn_byPatterns haligned hsettings hok
  | classifier =>
      obtain ⟨answer, hanswer, hok⟩ : ∃ answer, (detector.ask (.text text)).1 = .ok answer ∧
          byAnswer detector.settings detector.catalog (.text text) answer = .ok own :=
        bind_eq_ok_iff.mp hok
      exact isOwn_byAnswer haligned hsettings htext (hanswer ▸ hsound.isProper_ask _) hok

theorem isCoherent_detectBy (haligned : detector.catalog.Aligned)
    (hsettings : detector.settings.AreNumbers) (hsound : detector.IsSound)
    (htext : isBlankText text = false) {method : Method}
    (hok : (detector.detectBy method (.text text)).1 = .ok detection) :
    IsCoherent detector.settings detector.catalog text (detector.outcome (.text text))
      detection := by
  have hown := isOwn_outcome haligned hsettings hsound htext
  cases method with
  | patterns => exact (hown .patterns detection hok).isCoherent hok
  | classifier => exact (hown .classifier detection hok).isCoherent hok
  | hybrid =>
      obtain ⟨patterns, hpatterns, hcases⟩ := detectHybrid_cases hok
      rcases hcases with ⟨cause, error, hclassifier, rfl⟩ | ⟨classifier, hclassifier, hboth⟩
      · refine Merges.isCoherent hown rfl hpatterns ?_
        rw [hclassifier]
        exact merges_patternsAlone patterns error cause
      · obtain ⟨hmethod, hmerges⟩ := merges_ofBoth (hown _ _ hpatterns).measure
          (hown _ _ hclassifier).measure hboth
        exact Merges.isCoherent hown hmethod hpatterns (hclassifier ▸ hmerges)

/-- What detecting by a method comes to when no answer counts as nothing detected. -/
theorem isCoherent_withReason (haligned : detector.catalog.Aligned)
    (hsettings : detector.settings.AreNumbers) (hsound : detector.IsSound)
    (htext : isBlankText text = false) {method : Method}
    (hok : withReason (.text text) method (detector.detectBy method (.text text)).1 =
      .ok detection) :
    IsCoherent detector.settings detector.catalog text (detector.outcome (.text text))
      detection := by
  unfold withReason at hok
  split at hok
  · rename_i cause hcause
    cases hok
    refine isCoherent_of_unmatched rfl rfl ?_
    rw [eq_classifier_of_unanswered hcause]
    exact nofun
  · exact isCoherent_detectBy haligned hsettings hsound htext hok

/-! ## Any method -/

theorem detectPatterns_of_isBlankText (detector : Detector) (htext : isBlankText text = true) :
    detector.detectPatterns (.text text) = .ok (nothing (.text text) .patterns) := by
  have hnone : Ranking.candidates text detector.catalog = [] := if_pos htext
  refine bind_eq_ok_iff.mpr ⟨text, rfl, ?_⟩
  rw [byPatterns, hnone]

/-! ## Detections come about -/

section Exists

variable (hplain : ∀ intent ∈ detector.catalog.intents, intent.IsPlain)
  (hsettings : detector.settings.AreNumbers)

include hplain hsettings

theorem failsOnly_detectClassifier (hanswers : detector.Answers IsReply) (text : String) :
    FailsOnly Fault.IsUnanswered (detector.detectClassifier (.text text)).1 := by
  have hreply := hanswers.answer (.text text) ⟨_, rfl⟩
  rw [detectClassifier_fst]
  refine FailsOnly.bind ?_ fun answer hanswer => ?_
  · intro fault hfault
    rwa [hfault] at hreply
  · rw [hanswer] at hreply
    exact .of_exists (exists_byAnswer hplain hsettings text hreply)

/-- Detecting fails only for want of an answer. -/
theorem failsOnly_detectBy_of_answers (hanswers : detector.Answers IsReply) (text : String)
    (method : Method) :
    FailsOnly Fault.IsUnanswered (detector.detectBy method (.text text)).1 := by
  obtain ⟨patterns, hpatterns⟩ := exists_byPatterns hplain hsettings text
  cases method with
  | patterns => exact .of_exists ⟨patterns, hpatterns⟩
  | classifier => exact failsOnly_detectClassifier hplain hsettings hanswers text
  | hybrid =>
      have hdetects : detector.detectPatterns (.text text) = .ok patterns := hpatterns
      have hclassifier := failsOnly_detectClassifier hplain hsettings hanswers text
      rw [detectBy, detectHybrid, hdetects]
      dsimp only
      split
      · exact .ok _
      · dsimp only
        unfold hybridOf
        split
        · rename_i own hown
          have hnumber := exists_confidence_of_answer (hanswers.exists_confidence _) hown
          exact .of_exists
            (exists_ofBoth hsettings (exists_confidence_of_detectPatterns hdetects) hnumber)
        · exact .ok _
        · rename_i fault hother hfault
          exact FailsOnly.error_iff.mpr (hclassifier fault hfault)

theorem failsOnly_detectBy (hsound : detector.IsSound) (_ : detector.catalog.Aligned)
    (_ : isBlankText text = false) (method : Method) :
    FailsOnly Fault.IsUnanswered (detector.detectBy method (.text text)).1 :=
  failsOnly_detectBy_of_answers hplain hsettings
    (hsound.answers.imp fun _ => IsProper.isReply) text method

end Exists

/-! ## Every detection -/

/-- Every detection is coherent, whatever the text, the methods and the minimums, and whatever a
sound classifier answers; and under slots without dates whose limits can be shown, every known
method detects something or nothing. -/
theorem isCoherent_detect (hreachable : detector.catalog.Reachable)
    (hsettings : detector.settings.AreNumbers) (hsound : detector.IsSound) (text : String)
    (method : Value) :
    (∀ detection, (detector.detect (.text text) method).1 = .ok detection →
      ∃ asked : Detector, asked.Follows detector (.text text) ∧
        detection.IsCoherent detector.settings detector.catalog text
          (asked.outcome (.text text))) ∧
      ((∀ intent ∈ detector.catalog.intents, intent.IsPlain) →
        (∃ chosen, detector.chosen method = .ok chosen) →
          ∃ detection, (detector.detect (.text text) method).1 = .ok detection) := by
  have haligned := hreachable.aligned
  rw [detect, isVoid_text]
  cases hchosen : detector.chosen method with
  | error fault => exact ⟨nofun, fun _ hknown => absurd hknown nofun⟩
  | ok chosen =>
      cases htext : isBlankText text with
      | true =>
          refine ⟨?_, fun _ _ => ⟨_, rfl⟩⟩
          rintro _ ⟨⟩
          exact ⟨detector, .inl rfl, isCoherent_of_unmatched rfl rfl fun _ =>
            ⟨_, detector.detectPatterns_of_isBlankText htext, htext, rfl, rfl, rfl, rfl⟩⟩
      | false =>
          obtain ⟨asked, settled, hasked, heq⟩ :=
            detector.exists_detectWith_eq chosen (.text text)
          have hstill := hasked.isSound hsound
          simp only [heq]
          rw [← hasked.catalog_eq] at haligned
          rw [← hasked.settings_eq] at hsettings
          constructor
          · intro detection hok
            refine ⟨asked, hasked, ?_⟩
            rw [← hasked.catalog_eq, ← hasked.settings_eq]
            exact isCoherent_withReason haligned hsettings hstill htext hok
          · intro hplain _
            rw [← hasked.catalog_eq] at hplain
            exact exists_withReason
              (failsOnly_detectBy hplain hsettings hstill haligned htext settled) _ _

/-- An order and nothing else, with a classifier that fails at first and then is fairly sure of an
unknown intent, under thresholds that nothing reaches. -/
def wavering : Detector :=
  create (Catalog.empty.write order.id order (Catalog.prepare order.patterns))
    (some (.prepared
      ⟨[.failure "sin respuesta", .classification ⟨.text "deseo", Settings.tenths 9⟩], []⟩))
    { Settings.standard with patternThreshold := .int 2, classifierThreshold := .int 2 }

theorem reachable_wavering : wavering.catalog.Reachable :=
  ⟨[⟨order, isDeclared_order⟩], wavering.catalog, [], rfl, rfl⟩

theorem areNumbers_wavering : wavering.settings.AreNumbers where
  least := areProbabilities_standard.areNumbers.least
  patternThreshold := ⟨.int 2, rfl⟩
  classifierThreshold := ⟨.int 2, rfl⟩

theorem isSound_wavering : wavering.IsSound := by
  rintro _ ⟨⟩
  refine Script.isSound_prepared ?_ _
  simp only [List.forall_mem_cons, List.not_mem_nil, false_implies, implies_true, and_true]
  exact ⟨⟨_, rfl⟩, ⟨_, rfl⟩, _, rfl, by decide +kernel, by decide +kernel⟩

/-- The classifier fails; asked again by the default method it is less sure than the patterns. -/
theorem isCoherent_detect_wavering :
    ∃ detection, (wavering.detect (.text "quiero pan") (.text "classifier")).1 = .ok detection ∧
      detection.intentId = some "PEDIDO" ∧ detection.decision = some .bestOfBoth ∧
        detection.parameters = [(.text "cosa", .text "pan")] ∧
          ∃ asked : Detector, asked.Follows wavering (.text "quiero pan") ∧
            detection.IsCoherent wavering.settings wavering.catalog "quiero pan"
              (asked.outcome (.text "quiero pan")) := by
  obtain ⟨hcoherent, hexists⟩ := isCoherent_detect reachable_wavering areNumbers_wavering
    isSound_wavering "quiero pan" (.text "classifier")
  have hplain : ∀ intent ∈ wavering.catalog.intents, intent.IsPlain := by
    have hintents : wavering.catalog.intents = [order] := rfl
    simpa [hintents] using isPlain_order
  obtain ⟨detection, hdetects⟩ := hexists hplain ⟨.classifier, rfl⟩
  have hfound : (wavering.detect (.text "quiero pan") (.text "classifier")).1 =
      .ok ⟨.text "quiero pan", .hybrid, some "PEDIDO", .real Real64.unit,
        some "quiero \x7bcosa\x7d", [(.text "cosa", .text "pan")], some .bestOfBoth,
        some (.real Real64.unit), some (Settings.tenths 9), none⟩ := by decide +kernel
  cases hdetects.symm.trans hfound
  exact ⟨_, hdetects, rfl, rfl, rfl, hcoherent _ hdetects⟩

/-- Under an undefined minimum an intent is detected although its confidence is not at least the
minimum. -/
theorem detect_disregards_undefined_minimum :
    ¬ ∀ (detector : Detector) (text : String) (detection : Detection),
      detector.catalog.Reachable → detector.settings.AreNumbers → detector.IsSound →
      (detector.detect (.text text) (.text "pattern_matching")).1 = .ok detection →
      detection.matched = true → Reaches detection.confidence detector.settings.patternLeast := by
  intro hreaches
  let detector : Detector :=
    create wavering.catalog none { Settings.standard with patternLeast := .real .nan }
  have hsettings : detector.settings.AreNumbers := by
    refine ⟨fun source => ?_, ⟨_, rfl⟩, ⟨_, rfl⟩⟩
    cases source <;> exact ⟨_, rfl⟩
  have hfound : (detector.detect (.text "quiero pan") (.text "pattern_matching")).1 =
      .ok ⟨.text "quiero pan", .patterns, some "PEDIDO", .real Real64.unit,
        some "quiero \x7bcosa\x7d", [(.text "cosa", .text "pan")], none, none, none, none⟩ := by
    decide +kernel
  have hreach := hreaches detector "quiero pan" _ reachable_wavering hsettings nofun hfound rfl
  exact absurd (reaches_number_iff.mp hreach) nofun

end Detector

end Phrasebook
