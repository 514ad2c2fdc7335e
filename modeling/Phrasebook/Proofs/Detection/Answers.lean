import Mathlib
import Phrasebook.Catalog.Change
import Phrasebook.Proofs.Classifier.Answers
import Phrasebook.Proofs.Classifier.Retrying
import Phrasebook.Proofs.Detection.Serving

/-!
# What a model's answer leads to

Detection goes on without a classifier that has no answer, and reports what the patterns say or why
there is nothing to report.  An answer that overtaxes its reader ends the detection instead.  What
the classifier's method reports has a confidence of at least the minimum, save that the undefined
number is below no minimum.
-/

namespace Phrasebook

namespace Chat

variable {chat : Chat} {content : String}

/-- The client is asked at least once, and answers every request in the same words. -/
structure Repeats (chat : Chat) (content : String) : Prop where
  asks : ∃ retries, retryCount chat.retries = .ok retries ∧ 0 ≤ retries
  replies : ∀ index, chat.replyAt index = .content content

theorem retries_request (chat : Chat) (sent : ChatRequest) :
    (chat.request sent).2.retries = chat.retries := by
  rw [request]
  split <;> rfl

theorem Repeats.request (hrepeats : chat.Repeats content) (sent : ChatRequest) :
    (chat.request sent).2.Repeats content where
  asks := by
    rw [retries_request]
    exact hrepeats.asks
  replies := fun index => ((chat.spends_request sent).replies index).trans (hrepeats.replies _)

/-- The first request is answered, so there is no other one. -/
theorem Repeats.classify (hrepeats : chat.Repeats content) (intents : List Intent)
    (message : String) :
    chat.classify intents (.text message) =
      (answerOf (.text message) (.content content),
        (chat.request (chat.requestFor intents message)).2) := by
  obtain ⟨retries, hretries, hnonneg⟩ := hrepeats.asks
  obtain ⟨left, hleft⟩ : ∃ left, (retries + 1).toNat = left + 1 := ⟨retries.toNat, by omega⟩
  have hreply := hrepeats.replies 0
  rw [classify_eq hretries, hleft, attempts_of_delivered (by rw [hreply]; nofun), hreply]
  rfl

end Chat

namespace Detection

/-- What is detected in a text by a method when the classifier has no answer, for some cause. -/
def without (patterns : Detection) (text : Value) (cause : Unanswered) : Method → Detection
  | .patterns => patterns
  | .hybrid => patternsAlone patterns (some cause.message)
  | .classifier => { nothing text .classifier with error := some cause.message }

end Detection

namespace Detector

open Detection Classification

variable {detector : Detector} {content text : String} {patterns : Detection} {fault : Fault}

/-- The detector asks a model that answers every request in the same words. -/
def Hears (detector : Detector) (content : String) : Prop :=
  ∃ chat, detector.classifier = some (.model chat) ∧ chat.Repeats content

theorem Hears.ask_fst (hhears : detector.Hears content) {answer : Chat.Answer}
    (hyields : Chat.Yields (.content content) answer) (text : String) :
    (detector.ask (.text text)).1 = answer := by
  obtain ⟨chat, hchat, hrepeats⟩ := hhears
  simp only [ask, hchat, Classifier.classify, hrepeats.classify]
  exact hyields.answerOf_eq text

theorem Hears.ask_snd (hhears : detector.Hears content) (text : String) :
    (detector.ask (.text text)).2.Hears content := by
  obtain ⟨chat, hchat, hrepeats⟩ := hhears
  simp only [ask, hchat, Classifier.classify, hrepeats.classify]
  exact ⟨_, rfl, hrepeats.request _⟩

theorem detectPatterns_ask (detector : Detector) (text other : Value) :
    (detector.ask text).2.detectPatterns other = detector.detectPatterns other := by
  rw [detectPatterns, detectPatterns, ask_settings, ask_catalog]

/-! ## Answers that count as none -/

section Unanswered

variable {cause : Unanswered} (hhears : detector.Hears content)
  (hyields : Chat.Yields (.content content) (.error (.unanswered cause)))
  (hpatterns : detector.detectPatterns (.text text) = .ok patterns)

include hhears hyields

theorem detectClassifier_of_unanswered :
    detector.detectClassifier (.text text) =
      (.error (.unanswered cause), (detector.ask (.text text)).2) := by
  refine Prod.ext ?_ rfl
  rw [detectClassifier_fst, hhears.ask_fst hyields]
  rfl

include hpatterns

/-- Each method says what it can without the classifier, or why it cannot. -/
theorem withReason_of_yields (method : Method) :
    withReason (.text text) method (detector.detectBy method (.text text)).1 =
      .ok (patterns.without (.text text) cause method) := by
  cases method with
  | patterns =>
      rw [detectBy, hpatterns]
      rfl
  | classifier =>
      rw [detectBy, detectClassifier_of_unanswered hhears hyields]
      rfl
  | hybrid =>
      obtain ⟨chat, hchat, -⟩ := id hhears
      rw [detectBy, detectHybrid, hpatterns, hchat,
        detectClassifier_of_unanswered hhears hyields]
      rfl

theorem detectWith_of_yields (method : Method) :
    (detector.detectWith method (.text text)).1 = .ok (patterns.without (.text text) cause
      (if method = .classifier then detector.defaultMethod else method)) := by
  by_cases hmethod : method = .classifier
  · have hfails : (detector.detectClassifier (.text text)).1 = .error (.unanswered cause) := by
      rw [detectClassifier_of_unanswered hhears hyields]
    rw [if_pos hmethod, hmethod, detectWith_of_unanswered hfails]
    split_ifs with hdefault
    · rw [← hdefault]
      rfl
    · -- the default method asks once more, and hears the same
      rw [detectByDefault, ask_defaultMethod]
      exact withReason_of_yields (hhears.ask_snd text) hyields
        ((detectPatterns_ask detector _ _).trans hpatterns) detector.defaultMethod
  · rw [if_neg hmethod, detectWith_of_ne hmethod, ← withReason_detectBy hmethod]
    exact withReason_of_yields hhears hyields hpatterns method

end Unanswered

/-! ## Answers that overtax their reader -/

theorem hybridOf_of_not_isUnanswered {settings : Settings} (hother : ¬ fault.IsUnanswered) :
    hybridOf settings patterns (.error fault) = .error fault := by
  cases fault with
  | unanswered cause => exact absurd ⟨cause, rfl⟩ hother
  | _ => rfl

theorem yields_of_overtaxes (hovertaxes : Overtaxes content fault) :
    Chat.Yields (.content content) (.error fault) := by
  rw [← ofAnswer_of_overtaxes hovertaxes]
  refine .content ?_
  rintro rfl
  cases ofAnswer_of_overtaxes hovertaxes
  exact hovertaxes.not_isUnanswered ⟨_, rfl⟩

/-- Whatever depends on the classifier fails as reading its answer does. -/
theorem detectWith_of_overtaxes (hhears : detector.Hears content)
    (hovertaxes : Overtaxes content fault)
    (hpatterns : detector.detectPatterns (.text text) = .ok patterns) {method : Method}
    (hmethod : method ≠ .patterns) :
    (detector.detectWith method (.text text)).1 = .error fault := by
  have hfails : (detector.detectClassifier (.text text)).1 = .error fault := by
    rw [detectClassifier_fst, hhears.ask_fst (yields_of_overtaxes hovertaxes)]
    rfl
  have hanswered : ∀ cause, (detector.detectClassifier (.text text)).1 ≠
      .error (.unanswered cause) := by
    intro cause hcause
    cases hfails.symm.trans hcause
    exact hovertaxes.not_isUnanswered ⟨cause, rfl⟩
  cases method with
  | patterns => exact absurd rfl hmethod
  | classifier => rw [detectWith_of_answered hanswered, hfails]
  | hybrid =>
      obtain ⟨chat, hchat, -⟩ := id hhears
      rw [detectWith_of_ne (by decide), detectBy, detectHybrid, hpatterns, hchat]
      dsimp only
      rw [hfails, hybridOf_of_not_isUnanswered hovertaxes.not_isUnanswered]

/-- A detector with one intent, whose model answers everything in the same words. -/
def hearing (content : String) : Detector :=
  let intent := Intent.ofTemplates "AYUDA" ["tengo un problema"]
  create (Catalog.empty.write intent.id intent (Catalog.prepare intent.patterns))
    (some (.model (Chat.ofReplies (.text "modelo") Chat.defaultRetries Chat.defaultBackoff
      [.content content]))) .standard

theorem hears_hearing (content : String) : (hearing content).Hears content :=
  ⟨_, rfl, ⟨⟨2, rfl, by decide⟩, fun _ => rfl⟩⟩

theorem yields_of_ofAnswer {answer : Classification}
    (hanswer : Classification.ofAnswer content = .ok (some answer)) :
    Chat.Yields (.content content) (.ok (some answer)) := by
  rw [← hanswer]
  refine .content ?_
  rintro rfl
  cases hanswer

/-- What is reported is not below the minimum, as far as the two can be compared. -/
theorem lt_eq_false_of_detectClassifier {answer : Classification} {sure : Real64}
    (hask : (detector.ask (.text text)).1 = .ok (some answer))
    (hsure : answer.confidence = .real sure) {least : Number}
    (hleast : detector.settings.classifierLeast.number? = some least) {detection : Detection}
    (hdetect : (detector.detectClassifier (.text text)).1 = .ok detection)
    (hmatched : detection.matched = true) :
    detection.confidence = .real sure ∧ (Number.real sure).lt least = false := by
  rw [detectClassifier_fst, hask] at hdetect
  change byAnswer _ _ _ (some answer) = _ at hdetect
  obtain ⟨hconfidence, hspec⟩ := byAnswer_spec hdetect
  obtain ⟨_, id, intent, ⟨⟩, hbelow, -⟩ := hspec.mp hmatched
  rw [hsure, Value.lessThan, Value.precedes_of_number? rfl hleast] at hbelow
  exact ⟨hconfidence.trans hsure, Except.ok.inj hbelow⟩

/-- An answer with a label has a confidence from zero to one, unless it has the undefined number
for one.  Where the classifier's method then reports an intent, the confidence reaches the minimum,
unless either of them is undefined. -/
theorem reaches_of_ofAnswer {content : String} {answer : Classification}
    (hanswer : Classification.ofAnswer content = .ok (some answer)) :
    ∃ entries sure, Holds content entries ∧ answer.confidence = .real sure ∧
      (IsProbability answer.confidence ↔ ¬ IsUndefined (confidenceOf entries)) ∧
      (IsUndefined (confidenceOf entries) → sure = .nan) ∧
      ∀ (detector : Detector) (text : String) (least : Number) (detection : Detection),
        detector.Hears content → detector.settings.classifierLeast.number? = some least →
        (detector.detectClassifier (.text text)).1 = .ok detection → detection.matched = true →
          detection.confidence = .real sure ∧ (least.le (.real sure) = true ↔
            ¬ IsUndefined (confidenceOf entries) ∧ least ≠ .real .nan) := by
  obtain ⟨entries, given, hholds, -, hgiven, rfl⟩ := exists_of_ofAnswer hanswer
  have hundefined : IsUndefined (confidenceOf entries) ↔ given = .nan := by
    rw [← toReal_eq_nan_iff, hgiven, Except.ok.injEq]
  refine ⟨entries, clamped given, hholds, rfl, ?_, ?_, ?_⟩
  · rw [hundefined]
    constructor
    · rintro hprobability rfl
      exact not_isProbability_nan hprobability
    · exact isProbability_clamped
  · rw [hundefined]
    exact clamped_eq_nan_iff.mpr
  · intro detector text least detection hhears hleast hdetect hmatched
    have hask := hhears.ask_fst (yields_of_ofAnswer hanswer) text
    obtain ⟨hconfidence, hlt⟩ :=
      lt_eq_false_of_detectClassifier hask rfl hleast hdetect hmatched
    refine ⟨hconfidence, ?_⟩
    rw [Number.le_iff_isDefined_of_lt_eq_false hlt, Number.isDefined_iff, Number.isDefined_iff,
      hundefined, ← clamped_eq_nan_iff]
    simp

/-- A confidence of seven counts as one, which is enough. -/
theorem reaches_of_ofAnswer_large :
    ∃ detection, ((hearing "\x7b\"intent\": \"AYUDA\", \"confidence\": 7\x7d").detectClassifier
        (.text "hola")).1 = .ok detection ∧ detection.intentId = some "AYUDA" ∧
      detection.confidence = .real Real64.unit ∧
        (Number.real (.ofRatio false 4 10)).le (.real Real64.unit) = true := by
  have hanswer : Classification.ofAnswer "\x7b\"intent\": \"AYUDA\", \"confidence\": 7\x7d" =
      .ok (some ⟨.text "AYUDA", .real Real64.unit⟩) := by
    decide +kernel
  obtain ⟨detection, hdetect, hid⟩ : ∃ detection,
      ((hearing "\x7b\"intent\": \"AYUDA\", \"confidence\": 7\x7d").detectClassifier
        (.text "hola")).1 = .ok detection ∧ (detection.intentId == some "AYUDA") = true :=
    exists_of_any_toOption (by decide +kernel)
  have hfound : detection.intentId = some "AYUDA" := beq_iff_eq.mp hid
  have hmatched : detection.matched = true := by rw [Detection.matched, hfound, Option.isSome_some]
  obtain ⟨entries, sure, -, hsure, hprobability, -, hreaches⟩ := reaches_of_ofAnswer hanswer
  cases hsure
  have hdefined := hprobability.mp ⟨_, rfl, by decide +kernel, by decide +kernel⟩
  obtain ⟨hconfidence, hle⟩ :=
    hreaches _ "hola" (.real (.ofRatio false 4 10)) detection (hears_hearing _) rfl hdetect hmatched
  exact ⟨detection, hdetect, hfound, hconfidence, hle.mpr ⟨hdefined, by decide +kernel⟩⟩

/-- The undefined number passes for a confidence. -/
theorem ofAnswer_passes_undefined_confidence :
    ¬ ∀ content answer, Classification.ofAnswer content = .ok (some answer) →
      IsProbability answer.confidence := by
  intro hprobability
  exact not_isProbability_nan (hprobability
    "\x7b\"intent\": \"AYUDA\", \"confidence\": NaN\x7d" ⟨.text "AYUDA", .real .nan⟩
    (by decide +kernel))

end Detector

end Phrasebook
