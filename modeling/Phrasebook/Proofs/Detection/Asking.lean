import Mathlib
import Phrasebook.Proofs.Classifier.Sound
import Phrasebook.Proofs.Slot.Faults

/-!
# How detectors ask

A detection is made by one method, after at most one earlier question to the classifier: where the
classifier has no answer, the default method takes over, and only the classifier's own method can be
left without one.
-/

namespace Phrasebook

/-- Who says which intent a text has. -/
inductive Source where
  | patterns
  | classifier
  deriving DecidableEq, Repr

def Source.method : Source → Method
  | .patterns => .patterns
  | .classifier => .classifier

/-- The faults that say that a classifier has no answer. -/
def Fault.IsUnanswered (fault : Fault) : Prop := ∃ cause, fault = .unanswered cause

namespace Detection

/-- The patterns never end for want of an answer. -/
theorem failsOnly_byPatterns (settings : Settings) (catalog : Catalog) (text : String) :
    FailsOnly Fault.IsAnswered (byPatterns settings catalog text) := by
  have hparameters : ∀ intent,
      FailsOnly Fault.IsAnswered (parametersFor catalog intent text) := by
    intro intent
    unfold parametersFor
    split
    · exact .bind (Parameters.failsOnly_ofRaw _ _) fun _ _ => .ok _
    · exact .bind (Parameters.failsOnly_ofRaw _ _) fun _ _ => .ok _
  unfold byPatterns
  dsimp only
  split
  · exact .ok _
  · refine .bind (Value.failsOnly_precedes trivial _ _ _) fun below _ => ?_
    split
    · exact .ok _
    split
    · exact .ok _
    · exact .bind (hparameters _) fun _ _ => .ok _

/-- Comparing confidences never ends for want of an answer. -/
theorem failsOnly_ofBoth (settings : Settings) (patterns classifier : Detection) :
    FailsOnly Fault.IsAnswered (ofBoth settings patterns classifier) := by
  have htrusted : FailsOnly Fault.IsAnswered (trusted settings patterns classifier) := by
    refine .bind (Value.failsOnly_precedes trivial _ _ _) fun reached _ => ?_
    split
    · exact .ok _
    refine .bind (Value.failsOnly_precedes trivial _ _ _) fun reached _ => ?_
    split
    · exact .ok _
    refine .bind (Value.failsOnly_precedes trivial _ _ _) fun surer _ => ?_
    split <;> exact .ok _
  exact .bind htrusted fun _ _ => .ok _

end Detection

namespace Detector

open Detection

variable {detector : Detector} {text : Value} {detection : Detection}

/-- What becomes of detecting by a source. -/
def outcome (detector : Detector) (text : Value) : Source → Except Fault Detection
  | .patterns => detector.detectPatterns text
  | .classifier => (detector.detectClassifier text).1

/-- A detector's classifier answers in a certain way, if there is one. -/
def Answers (P : Except Fault (Option Classification) → Prop) (detector : Detector) : Prop :=
  ∀ classifier ∈ detector.classifier, classifier.Answers P detector.catalog.intents

/-- A detector's classifier is sound, if there is one. -/
def IsSound (detector : Detector) : Prop :=
  ∀ classifier ∈ detector.classifier, classifier.IsSound detector.catalog.intents

theorem Answers.imp {P Q : Except Fault (Option Classification) → Prop}
    (hanswers : detector.Answers P) (himp : ∀ answer, P answer → Q answer) : detector.Answers Q :=
  fun classifier hclassifier => (hanswers classifier hclassifier).imp himp

theorem IsSound.answers (hsound : detector.IsSound) : detector.Answers IsProper := hsound

/-! ## Asking -/

section Ask

variable (detector text)

theorem ask_catalog : (detector.ask text).2.catalog = detector.catalog := by
  unfold ask
  split <;> rfl

theorem ask_settings : (detector.ask text).2.settings = detector.settings := by
  unfold ask
  split <;> rfl

theorem detectClassifier_fst :
    (detector.detectClassifier text).1 =
      (detector.ask text).1.bind (byAnswer detector.settings detector.catalog text) := rfl

variable {detector}

theorem Answers.answer {P : Except Fault (Option Classification) → Prop}
    (hanswers : detector.Answers P) (hnone : P (.error (.unanswered .notConfigured))) :
    P (detector.ask text).1 := by
  unfold ask
  split
  · exact hnone
  · rename_i classifier hclassifier
    exact (hanswers classifier hclassifier).answer text

theorem Answers.ask {P : Except Fault (Option Classification) → Prop}
    (hanswers : detector.Answers P) : (detector.ask text).2.Answers P := by
  unfold Detector.ask
  split
  · exact hanswers
  · rename_i classifier hclassifier
    rintro _ ⟨⟩
    exact (hanswers classifier hclassifier).classify text

theorem Answers.exists_confidence (hanswers : detector.Answers IsReply)
    (classification : Classification) (hask : (detector.ask text).1 = .ok (some classification)) :
    ∃ sure, classification.confidence = .number sure := by
  have hreply := hanswers.answer text ⟨_, rfl⟩
  rw [hask] at hreply
  exact hreply.2

theorem IsSound.isProper_ask (hsound : detector.IsSound) : IsProper (detector.ask text).1 :=
  hsound.answers.answer text ⟨_, rfl⟩

theorem IsSound.ask (hsound : detector.IsSound) : (detector.ask text).2.IsSound :=
  hsound.answers.ask text

/-- A detector as it is, or after it has asked about a text. -/
def Follows (asked detector : Detector) (text : Value) : Prop :=
  asked = detector ∨ asked = (detector.ask text).2

namespace Follows

variable {text} {asked : Detector} (hasked : asked.Follows detector text)

include hasked

theorem catalog_eq : asked.catalog = detector.catalog := by
  rcases hasked with rfl | rfl
  · rfl
  · exact ask_catalog detector text

theorem settings_eq : asked.settings = detector.settings := by
  rcases hasked with rfl | rfl
  · rfl
  · exact ask_settings detector text

theorem answers {P : Except Fault (Option Classification) → Prop}
    (hanswers : detector.Answers P) : asked.Answers P := by
  rcases hasked with rfl | rfl
  · exact hanswers
  · exact hanswers.ask text

theorem isSound (hsound : detector.IsSound) : asked.IsSound := hasked.answers hsound.answers

end Follows

/-- Detecting asks the classifier once, or not at all. -/
theorem follows_detectBy (detector : Detector) (method : Method) :
    (detector.detectBy method text).2.Follows detector text := by
  cases method with
  | patterns => exact .inl rfl
  | classifier => exact .inr rfl
  | hybrid =>
      rw [detectBy, detectHybrid]
      split
      · exact .inl rfl
      · split
        · exact .inl rfl
        · exact .inr rfl

/-- Detecting changes no catalog. -/
theorem detectBy_catalog (detector : Detector) (method : Method) :
    (detector.detectBy method text).2.catalog = detector.catalog :=
  (follows_detectBy text detector method).catalog_eq

theorem detectWith_catalog (detector : Detector) (method : Method) :
    (detector.detectWith method text).2.catalog = detector.catalog := by
  have hasked := detectBy_catalog text detector method
  unfold detectWith
  split
  · rename_i cause asked hunanswered
    rw [hunanswered] at hasked
    split
    · exact hasked
    · exact (detectBy_catalog text asked asked.defaultMethod).trans hasked
  · exact hasked

theorem detect_catalog (detector : Detector) (method : Value) :
    (detector.detect text method).2.catalog = detector.catalog := by
  unfold detect
  split
  · rfl
  split
  · rfl
  · rfl
  · exact detectWith_catalog text detector _

end Ask

/-! ## One method -/

/-- What a hybrid detection is made of. -/
theorem detectHybrid_cases
    (hok : (detector.detectHybrid text).1 = .ok detection) :
    ∃ patterns, detector.outcome text .patterns = .ok patterns ∧
      ((∃ cause error, detector.outcome text .classifier = .error (.unanswered cause) ∧
          detection = patternsAlone patterns error) ∨
        ∃ classifier, detector.outcome text .classifier = .ok classifier ∧
          ofBoth detector.settings patterns classifier = .ok detection) := by
  rw [detectHybrid] at hok
  split at hok
  · exact absurd hok nofun
  · rename_i patterns hpatterns
    refine ⟨patterns, hpatterns, ?_⟩
    split at hok
    · rename_i hnone
      cases hok
      refine .inl ⟨.notConfigured, none, ?_, rfl⟩
      rw [outcome, detectClassifier, ask, hnone]
      rfl
    · dsimp only at hok
      rw [outcome]
      unfold hybridOf at hok
      split at hok
      · rename_i classifier hclassifier
        exact .inr ⟨classifier, hclassifier, hok⟩
      · rename_i cause hcause
        cases hok
        exact .inl ⟨cause, _, hcause, rfl⟩
      · exact absurd hok nofun

/-- Only detection by the classifier's method ends for want of an answer. -/
theorem eq_classifier_of_unanswered {method : Method} {cause : Unanswered}
    (hfails : (detector.detectBy method text).1 = .error (.unanswered cause)) :
    method = .classifier := by
  have hpatterns : FailsOnly Fault.IsAnswered (detector.detectPatterns text) :=
    .bind (text.failsOnly_toText trivial) fun text _ => failsOnly_byPatterns _ _ text
  cases method with
  | patterns => exact absurd hfails (hpatterns.ne_unanswered cause)
  | classifier => rfl
  | hybrid =>
      refine absurd hfails (FailsOnly.ne_unanswered ?_ cause)
      rw [detectBy, detectHybrid]
      split
      · rename_i fault hfault
        exact FailsOnly.error_iff.mpr (hpatterns fault hfault)
      · split
        · exact .ok _
        · dsimp only
          unfold hybridOf
          split
          · exact failsOnly_ofBoth _ _ _
          · exact .ok _
          · rename_i fault hother _
            refine FailsOnly.error_iff.mpr ?_
            cases fault with
            | unanswered cause => exact absurd rfl (hother cause)
            | _ => trivial

/-! ## Any method -/

/-- Whatever falls back on what, a detection is made by one method, after at most one question. -/
theorem exists_detectWith_eq (detector : Detector) (method : Method) (text : Value) :
    ∃ (asked : Detector) (chosen : Method), asked.Follows detector text ∧
      (detector.detectWith method text).1 =
        withReason text chosen (asked.detectBy chosen text).1 := by
  unfold detectWith
  split
  · rename_i cause asked hfails
    have hasked := detector.follows_detectBy text method
    rw [hfails] at hasked
    split
    · refine ⟨detector, method, .inl rfl, ?_⟩
      rw [hfails]
    · exact ⟨asked, asked.defaultMethod, hasked, rfl⟩
  · rename_i hother
    refine ⟨detector, method, .inl rfl, ?_⟩
    unfold withReason
    split
    · rename_i cause hcause
      exact (hother cause (detector.detectBy method text).2 (Prod.ext hcause rfl)).elim
    · rfl

theorem isVoid_text (text : String) : isVoid (.text text) = .ok (isBlankText text) := by
  by_cases hempty : text = ""
  · subst hempty
    rfl
  · have hholds : (Value.text text).holds = true := by simpa [Value.holds] using hempty
    rw [isVoid, if_pos hholds]
    rfl

theorem exists_withReason {result : Except Fault Detection}
    (hresult : FailsOnly Fault.IsUnanswered result) (text : Value) (method : Method) :
    ∃ detection, withReason text method result = .ok detection := by
  cases result with
  | ok detection => exact ⟨detection, rfl⟩
  | error fault =>
      obtain ⟨cause, rfl⟩ := hresult fault rfl
      exact ⟨_, rfl⟩

end Detector

end Phrasebook
