import Mathlib
import Phrasebook.Catalog.Change
import Phrasebook.Proofs.Detection.Sources
import Phrasebook.Proofs.Intent.Declared

/-!
# Which matches a hybrid detection keeps

A hybrid detection compares how sure its two sources are and not whether they have an intent.  A
source without an intent can be sure of itself all the same, when its confidence is below its own
minimum or its label is unknown; then the intent of the other source is lost.
-/

namespace Phrasebook

namespace Detection

variable {settings : Settings}

/-! ## The source that is trusted -/

/-- The patterns reach their threshold, or the classifier does not reach its own and is less sure
than the patterns. -/
def PatternsWin (settings : Settings) (patterns classifier : Detection) : Prop :=
  Reaches patterns.confidence settings.patternThreshold ∨
    ¬ Reaches classifier.confidence settings.classifierThreshold ∧
      Below classifier.confidence patterns.confidence

section Numbers

variable {patterns classifier : Detection} {sure other least enough : Number}
  (hpatterns : patterns.confidence = .number sure)
  (hclassifier : classifier.confidence = .number other)
  (hleast : settings.patternThreshold = .number least)
  (henough : settings.classifierThreshold = .number enough)

include hpatterns hclassifier hleast henough

/-- Between numbers the comparison never fails, and its two outcomes are those of `PatternsWin`. -/
theorem trusted_spec :
    (PatternsWin settings patterns classifier →
        ∃ decision, trusted settings patterns classifier = .ok (patterns, decision)) ∧
      (¬ PatternsWin settings patterns classifier →
        ∃ decision, trusted settings patterns classifier = .ok (classifier, decision)) := by
  rw [PatternsWin, trusted, hpatterns, hclassifier, hleast, henough, reaches_number_iff,
    reaches_number_iff, below_number_iff, Value.atLeast_number, Value.atLeast_number,
    Value.greaterThan_number]
  cases least.le sure <;> cases enough.le other <;> cases other.lt sure <;>
    simp [bind, Except.bind, pure, Except.pure]

theorem found_ofBoth_iff :
    found (ofBoth settings patterns classifier) = true ↔
      (PatternsWin settings patterns classifier ∧ patterns.matched = true) ∨
        (¬ PatternsWin settings patterns classifier ∧ classifier.matched = true) := by
  obtain ⟨hwin, hlose⟩ := trusted_spec hpatterns hclassifier hleast henough
  by_cases hwins : PatternsWin settings patterns classifier
  · obtain ⟨decision, htrusted⟩ := hwin hwins
    simp [ofBoth, htrusted, found, matched, hwins, bind, Except.bind, pure, Except.pure]
  · obtain ⟨decision, htrusted⟩ := hlose hwins
    simp [ofBoth, htrusted, found, matched, hwins, bind, Except.bind, pure, Except.pure]

end Numbers

/-! ## Matches that are lost -/

/-- How a hybrid detection loses the intent that one source has: the other source is trusted and has
none, or detecting by it fails in another way than that a classifier does not answer. -/
def Discards (settings : Settings) : (patterns classifier : Except Fault Detection) → Prop
  | .ok patterns, .ok classifier =>
      (patterns.matched = true ∧ classifier.matched = false ∧
          ¬ PatternsWin settings patterns classifier) ∨
        (patterns.matched = false ∧ classifier.matched = true ∧
          PatternsWin settings patterns classifier)
  | .ok patterns, .error fault => patterns.matched = true ∧ ∀ cause, fault ≠ .unanswered cause
  | .error _, .ok classifier => classifier.matched = true
  | .error _, .error _ => False

end Detection

namespace Detector

open Detection

variable {detector : Detector} {text : Value}

theorem detectHybrid_of_error {fault : Fault}
    (hpatterns : detector.detectPatterns text = .error fault) :
    (detector.detectHybrid text).1 = .error fault := by
  rw [detectHybrid, hpatterns]

/-- With no classifier the hybrid is as if the classifier had not answered. -/
theorem found_detectHybrid_of_ok {patterns : Detection}
    (hpatterns : detector.detectPatterns text = .ok patterns) :
    found (detector.detectHybrid text).1 =
      found (hybridOf detector.settings patterns (detector.detectClassifier text).1) := by
  rw [detectHybrid, hpatterns]
  cases hclassifier : detector.classifier with
  | none =>
      have hunanswered : (detector.detectClassifier text).1 =
          .error (.unanswered .notConfigured) := by
        simp [detectClassifier, ask, hclassifier, Except.bind]
      simp [hunanswered, hybridOf, patternsAlone, found, matched]
  | some classifier => rfl

theorem found_hybridOf_error_iff {settings : Settings} {patterns : Detection} {fault : Fault} :
    found (hybridOf settings patterns (.error fault)) = true ↔
      patterns.matched = true ∧ ∃ cause, fault = .unanswered cause := by
  cases fault <;> simp [hybridOf, patternsAlone, found, matched]

/-- A hybrid detection keeps every match, unless the match is discarded in one of these ways. -/
theorem found_detectHybrid_iff_not_discards (hsettings : detector.settings.AreProbabilities)
    (hanswer : ∀ classification, (detector.ask text).1 = .ok (some classification) →
      IsProbability classification.confidence) :
    (found (detector.detectPatterns text) = true ∨
        found (detector.detectClassifier text).1 = true →
      found (detector.detectHybrid text).1 = true) ↔
      ¬ Discards detector.settings (detector.detectPatterns text)
        (detector.detectClassifier text).1 := by
  cases hpatterns : detector.detectPatterns text with
  | error fault =>
      rw [detectHybrid_of_error hpatterns]
      cases (detector.detectClassifier text).1 <;> simp [found, Discards]
  | ok patterns =>
      rw [found_detectHybrid_of_ok hpatterns]
      cases hclassifier : (detector.detectClassifier text).1 with
      | error fault =>
          rw [found_hybridOf_error_iff]
          cases hmatched : patterns.matched <;> simp [found, Discards, hmatched]
      | ok classifier =>
          obtain ⟨sure, hsure⟩ := exists_confidence_of_detectPatterns hpatterns
          obtain ⟨other, hother⟩ := exists_confidence_of_detectClassifier hanswer hclassifier
          obtain ⟨least, hleast, -⟩ := hsettings.patternThreshold
          obtain ⟨enough, henough, -⟩ := hsettings.classifierThreshold
          rw [hybridOf, found_ofBoth_iff hsure hother hleast henough]
          by_cases hwins : PatternsWin detector.settings patterns classifier <;>
            cases hp : patterns.matched <;> cases hc : classifier.matched <;>
              simp [found, Discards, hwins, hp, hc]

/-- A detector with one intent and one prepared answer, under the standard settings. -/
def ofAnswer (template label : String) (tenths : Nat) : Detector :=
  let intent := Intent.ofTemplates "AYUDA" [template]
  create (Catalog.empty.write intent.id intent (Catalog.prepare intent.patterns))
    (some (.prepared ⟨[.classification ⟨.text label, Settings.tenths tenths⟩], []⟩)) .standard

/-- Two words of three are enough for the patterns, and the classifier knows the intent as well. -/
theorem found_detectHybrid_iff_not_discards_known_label :
    ∃ (detector : Detector) (text : Value), detector.settings.AreProbabilities ∧
      (∀ classification, (detector.ask text).1 = .ok (some classification) →
        IsProbability classification.confidence) ∧
      ¬ Discards detector.settings (detector.detectPatterns text)
        (detector.detectClassifier text).1 ∧
      found (detector.detectPatterns text) = true ∧
      found (detector.detectHybrid text).1 = true := by
  have hanswer : ∀ classification, ((ofAnswer "tengo un problema" "ayuda" 9).ask
      (.text "tengo un problemas")).1 = .ok (some classification) →
        IsProbability classification.confidence := by
    rintro classification ⟨⟩
    exact ⟨_, rfl, by decide +kernel, by decide +kernel⟩
  have hfound : found ((ofAnswer "tengo un problema" "ayuda" 9).detectHybrid
      (.text "tengo un problemas")).1 = true := by decide +kernel
  exact ⟨_, _, areProbabilities_standard, hanswer,
    (found_detectHybrid_iff_not_discards areProbabilities_standard hanswer).mp fun _ => hfound,
    by decide +kernel, hfound⟩

/-- An unknown label costs a text the intent that its words have. -/
theorem detectHybrid_discards_match :
    ¬ ∀ (detector : Detector) (text : String) (answer : Option Classification),
      detector.settings.AreProbabilities → isBlankText text = false →
      (detector.ask (.text text)).1 = .ok answer →
      (∀ classification ∈ answer, (∃ label, classification.label = .text label) ∧
        IsProbability classification.confidence) →
      found (detector.detectPatterns (.text text)) = true ∨
        found (detector.detectClassifier (.text text)).1 = true →
      found (detector.detectHybrid (.text text)).1 = true := by
  intro hkeeps
  have hfound := hkeeps (ofAnswer "tengo un problema" "RECLAMO" 9) "tengo un problemas" _
    areProbabilities_standard (by decide) rfl (by
      rintro classification ⟨⟩
      exact ⟨⟨_, rfl⟩, _, rfl, by decide +kernel, by decide +kernel⟩)
    (.inl (by decide +kernel))
  exact absurd hfound (by decide +kernel)

end Detector

end Phrasebook
