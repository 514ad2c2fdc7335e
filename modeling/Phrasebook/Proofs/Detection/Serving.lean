import Mathlib
import Phrasebook.Proofs.Detection.Coherence

/-!
# How a request is served

A request is served by the method that it names, and by the default method if it names none or if
the classifier, asked for its own detection, has no answer.  What the default method comes to is
final, so there are two rounds at most, and the second one may ask the classifier only as a part of
a hybrid detection.
-/

namespace Phrasebook

open Detection

namespace Detector

variable {detector : Detector} {text : String} {method : Method}

/-! ## Questions -/

/-- The detector after it has asked about a text a number of times. -/
def askedTimes (detector : Detector) (text : Value) : Nat → Detector
  | 0 => detector
  | count + 1 => (detector.ask text).2.askedTimes text count

/-- Prepared answers are asked for with the same text every time. -/
theorem exists_script_askedTimes {script : Script}
    (hscript : detector.classifier = some (.prepared script)) (text : Value) (count : Nat) :
    ∃ later : Script, (detector.askedTimes text count).classifier = some (.prepared later) ∧
      later.asked = script.asked ++ List.replicate count text := by
  induction count generalizing detector script with
  | zero => exact ⟨script, hscript, (List.append_nil _).symm⟩
  | succ count ih =>
      have hasked : (detector.ask text).2.classifier =
          some (.prepared (script.classify text).2) := by
        rw [ask, hscript]
        rfl
      obtain ⟨later, hlater, hmessages⟩ := ih hasked
      refine ⟨later, hlater, ?_⟩
      rw [hmessages, Script.asked_classify, List.replicate_succ, List.append_assoc,
        List.singleton_append]

theorem exists_detectBy_snd_eq (detector : Detector) (method : Method) (text : Value) :
    ∃ count ≤ (if method = .patterns then 0 else 1),
      (detector.detectBy method text).2 = detector.askedTimes text count := by
  rcases detector.follows_detectBy text method with hsame | hasked
  · exact ⟨0, Nat.zero_le _, hsame⟩
  · cases method with
    | patterns => exact ⟨0, le_rfl, rfl⟩
    | classifier => exact ⟨1, le_rfl, hasked⟩
    | hybrid => exact ⟨1, le_rfl, hasked⟩

/-! ## Rounds -/

theorem ask_defaultMethod (detector : Detector) (text : Value) :
    (detector.ask text).2.defaultMethod = detector.defaultMethod := by
  rw [ask]
  split <;> rfl

theorem withReason_detectBy (hmethod : method ≠ .classifier) (text : Value) :
    withReason text method (detector.detectBy method text).1 =
      (detector.detectBy method text).1 := by
  unfold withReason
  split
  · rename_i cause hcause
    exact absurd (eq_classifier_of_unanswered hcause) hmethod
  · rfl

/-- No method but the classifier's ever gives way to the default method. -/
theorem detectWith_of_ne (hmethod : method ≠ .classifier) (text : Value) :
    detector.detectWith method text = detector.detectBy method text := by
  rw [detectWith]
  split
  · rename_i cause asked hfails
    exact absurd (eq_classifier_of_unanswered (congrArg Prod.fst hfails)) hmethod
  · rfl

theorem detectByDefault_of_ne (hdefault : detector.defaultMethod ≠ .classifier) (text : Value) :
    detector.detectByDefault text = detector.detectBy detector.defaultMethod text :=
  Prod.ext (withReason_detectBy hdefault text) rfl

theorem detectWith_of_unanswered {text : Value} {cause : Unanswered}
    (hfails : (detector.detectClassifier text).1 = .error (.unanswered cause)) :
    detector.detectWith .classifier text =
      if .classifier = detector.defaultMethod then
        (.ok { nothing text .classifier with error := some cause.message }, (detector.ask text).2)
      else (detector.ask text).2.detectByDefault text := by
  have hboth : detector.detectBy .classifier text =
      (.error (.unanswered cause), (detector.ask text).2) := Prod.ext hfails rfl
  rw [detectWith, hboth]
  rfl

theorem detectWith_of_answered {text : Value}
    (hanswers : ∀ cause, (detector.detectClassifier text).1 ≠ .error (.unanswered cause)) :
    detector.detectWith .classifier text = detector.detectClassifier text := by
  rw [detectWith]
  split
  · rename_i cause asked hfails
    exact absurd (congrArg Prod.fst hfails) (hanswers cause)
  · rfl

/-! ## Requests -/

theorem chosen_orNull (detector : Detector) (method : Option Method) :
    detector.chosen (orNull (fun method => .text method.name) method) =
      .ok (method.getD detector.defaultMethod) := by
  cases method with
  | none => rfl
  | some method => cases method <;> rfl

theorem detect_of_chosen {value : Value} (hchosen : detector.chosen value = .ok method)
    (text : String) :
    detector.detect (.text text) value =
      if isBlankText text then (.ok (nothing (.text text) method), detector)
      else detector.detectWith method (.text text) := by
  rw [detect, hchosen]
  dsimp only
  rw [isVoid_text]
  cases isBlankText text <;> rfl

/-- The most questions that a request may cost: two where the classifier leaves its own detection
without an answer and a hybrid detection takes over. -/
def allowance (detector : Detector) (text : String) (method : Method) : Nat :=
  if isBlankText text ∨ method = .patterns then 0
  else if method = .classifier ∧ detector.defaultMethod = .hybrid ∧
      (detector.detectClassifier (.text text)).1 matches .error (.unanswered _) then 2
  else 1

/-- How a request for a method is served.  In a blank text nothing is detected.  The patterns and
the hybrid come to what they come to on their own; so does the classifier, unless it has no answer.
Then the text is detected by the default method, after the one question, and if that is the
classifier's as well, nothing is detected and the reason is given. -/
structure IsServed (detector : Detector) (text : String) (method : Method)
    (result : Except Fault Detection × Detector) : Prop where
  blank : isBlankText text = true → result = (.ok (nothing (.text text) method), detector)
  own : isBlankText text = false → method ≠ .classifier →
    result = detector.detectBy method (.text text)
  answered : isBlankText text = false → method = .classifier →
    (∀ cause, (detector.detectClassifier (.text text)).1 ≠ .error (.unanswered cause)) →
      result = detector.detectClassifier (.text text)
  fallsBack : isBlankText text = false → method = .classifier →
    detector.defaultMethod ≠ .classifier → ∀ cause,
      (detector.detectClassifier (.text text)).1 = .error (.unanswered cause) →
        result = (detector.ask (.text text)).2.detect (.text text)
            (.text detector.defaultMethod.name) ∧
          result = (detector.ask (.text text)).2.detectBy detector.defaultMethod (.text text)
  givesUp : isBlankText text = false → method = .classifier →
    detector.defaultMethod = .classifier → ∀ cause,
      (detector.detectClassifier (.text text)).1 = .error (.unanswered cause) →
        result = (.ok { nothing (.text text) .classifier with error := some cause.message },
          (detector.ask (.text text)).2)
  asks : ∃ count ≤ detector.allowance text method,
    result.2 = detector.askedTimes (.text text) count ∧
      ∀ script, detector.classifier = some (.prepared script) → ∃ later : Script,
        result.2.classifier = some (.prepared later) ∧
          later.asked = script.asked ++ List.replicate count (.text text)

theorem detectWith_of_fallsBack {cause : Unanswered} (text : Value)
    (hdefault : detector.defaultMethod ≠ .classifier)
    (hfails : (detector.detectClassifier text).1 = .error (.unanswered cause)) :
    detector.detectWith .classifier text =
      (detector.ask text).2.detectBy detector.defaultMethod text := by
  have hsame := ask_defaultMethod detector text
  rw [detectWith_of_unanswered hfails, if_neg (Ne.symm hdefault),
    detectByDefault_of_ne (hsame ▸ hdefault), hsame]

theorem allowance_of_ne (htext : isBlankText text = false) (hmethod : method ≠ .classifier) :
    detector.allowance text method = if method = .patterns then 0 else 1 := by
  simp [allowance, htext, hmethod]

theorem one_le_allowance (detector : Detector) (htext : isBlankText text = false) :
    1 ≤ detector.allowance text .classifier := by
  rw [allowance, htext, if_neg (by simp)]
  split_ifs <;> decide

theorem allowance_of_unanswered {cause : Unanswered} (htext : isBlankText text = false)
    (hdefault : detector.defaultMethod = .hybrid)
    (hfails : (detector.detectClassifier (.text text)).1 = .error (.unanswered cause)) :
    detector.allowance text .classifier = 2 := by
  simp [allowance, htext, hdefault, hfails]

/-- The second round asks at most once more, and only for a hybrid detection. -/
theorem exists_fallback_snd_eq {cause : Unanswered} (htext : isBlankText text = false)
    (hdefault : detector.defaultMethod ≠ .classifier)
    (hfails : (detector.detectClassifier (.text text)).1 = .error (.unanswered cause)) :
    ∃ count ≤ detector.allowance text .classifier,
      ((detector.ask (.text text)).2.detectBy detector.defaultMethod (.text text)).2 =
        detector.askedTimes (.text text) count := by
  obtain ⟨count, hcount, hasked⟩ :=
    exists_detectBy_snd_eq (detector.ask (.text text)).2 detector.defaultMethod (.text text)
  refine ⟨count + 1, ?_, hasked⟩
  cases hmethod : detector.defaultMethod with
  | patterns =>
      rw [hmethod, if_pos rfl] at hcount
      have hone := one_le_allowance detector htext
      omega
  | classifier => exact absurd hmethod hdefault
  | hybrid =>
      rw [hmethod, if_neg nofun] at hcount
      rw [allowance_of_unanswered htext hmethod hfails]
      omega

theorem exists_detectWith_snd_eq (htext : isBlankText text = false) :
    ∃ count ≤ detector.allowance text method,
      (detector.detectWith method (.text text)).2 = detector.askedTimes (.text text) count := by
  by_cases hmethod : method = .classifier
  · subst hmethod
    by_cases hfails : ∃ cause,
        (detector.detectClassifier (.text text)).1 = .error (.unanswered cause)
    · obtain ⟨cause, hfails⟩ := hfails
      by_cases hdefault : detector.defaultMethod = .classifier
      · refine ⟨1, detector.one_le_allowance htext, ?_⟩
        rw [detectWith_of_unanswered hfails, if_pos hdefault.symm]
        rfl
      · rw [detectWith_of_fallsBack _ hdefault hfails]
        exact exists_fallback_snd_eq htext hdefault hfails
    · refine ⟨1, detector.one_le_allowance htext, ?_⟩
      rw [detectWith_of_answered (not_exists.mp hfails)]
      rfl
  · obtain ⟨count, hcount, hasked⟩ := exists_detectBy_snd_eq detector method (.text text)
    refine ⟨count, hcount.trans (allowance_of_ne htext hmethod).ge, ?_⟩
    rw [detectWith_of_ne hmethod, hasked]

theorem isServed_of_chosen {value : Value} (hchosen : detector.chosen value = .ok method)
    (text : String) : IsServed detector text method (detector.detect (.text text) value) := by
  have hblank : isBlankText text = true →
      detector.detect (.text text) value = (.ok (nothing (.text text) method), detector) := by
    intro htext
    rw [detect_of_chosen hchosen, if_pos htext]
  have hdetects : isBlankText text = false →
      detector.detect (.text text) value = detector.detectWith method (.text text) := by
    intro htext
    rw [detect_of_chosen hchosen, htext, if_neg Bool.false_ne_true]
  refine ⟨hblank, ?own, ?answered, ?fallsBack, ?givesUp, ?asks⟩
  case own =>
    intro htext hmethod
    rw [hdetects htext, detectWith_of_ne hmethod]
  case answered =>
    rintro htext rfl hanswers
    rw [hdetects htext, detectWith_of_answered hanswers]
  case fallsBack =>
    rintro htext rfl hdefault cause hfails
    have hround := detectWith_of_fallsBack _ hdefault hfails
    have hagain : (detector.ask (.text text)).2.detect (.text text)
        (.text detector.defaultMethod.name) =
          (detector.ask (.text text)).2.detectBy detector.defaultMethod (.text text) := by
      have hnamed := chosen_orNull (detector.ask (.text text)).2 (some detector.defaultMethod)
      rw [orNull] at hnamed
      rw [detect_of_chosen hnamed, htext, if_neg Bool.false_ne_true, Option.getD_some,
        detectWith_of_ne hdefault]
    rw [hdetects htext, hround, hagain]
    exact ⟨rfl, rfl⟩
  case givesUp =>
    rintro htext rfl hdefault cause hfails
    rw [hdetects htext, detectWith_of_unanswered hfails, if_pos hdefault.symm]
  case asks =>
    have hcount : ∃ count ≤ detector.allowance text method,
        (detector.detect (.text text) value).2 = detector.askedTimes (.text text) count := by
      cases htext : isBlankText text with
      | true => exact ⟨0, Nat.zero_le _, by rw [hblank htext]; rfl⟩
      | false =>
          rw [hdetects htext]
          exact exists_detectWith_snd_eq htext
    obtain ⟨count, hcount, hasked⟩ := hcount
    refine ⟨count, hcount, hasked, fun script hscript => ?_⟩
    rw [hasked]
    exact exists_script_askedTimes hscript _ count

/-! ## Every request -/

theorem exists_detect (hplain : ∀ intent ∈ detector.catalog.intents, intent.IsPlain)
    (hsettings : detector.settings.AreNumbers) (hanswers : detector.Answers IsReply)
    {value : Value} (hchosen : detector.chosen value = .ok method) (text : String) :
    ∃ detection, (detector.detect (.text text) value).1 = .ok detection := by
  rw [detect_of_chosen hchosen]
  split
  · exact ⟨_, rfl⟩
  · obtain ⟨asked, settled, hasked, heq⟩ := detector.exists_detectWith_eq method (.text text)
    have hstill : asked.Answers IsReply := hasked.answers hanswers
    rw [← hasked.catalog_eq] at hplain
    rw [← hasked.settings_eq] at hsettings
    rw [heq]
    exact exists_withReason (failsOnly_detectBy_of_answers hplain hsettings hstill text settled) _ _

end Detector

end Phrasebook
