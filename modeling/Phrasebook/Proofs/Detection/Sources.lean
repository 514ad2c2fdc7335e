import Mathlib
import Phrasebook.Detection.Detector
import Phrasebook.Proofs.Fault

/-!
# What the sources detect

Each source says how sure it is, whether or not it has an intent.  It has one if its confidence
reaches its own minimum and the intent is known.
-/

namespace Phrasebook

/-- A number from zero to one. -/
def IsProbability (value : Value) : Prop :=
  ∃ number, value = .number number ∧ (Number.int 0).le number = true ∧ number.le (.int 1) = true

structure Settings.AreProbabilities (settings : Settings) : Prop where
  patternLeast : IsProbability settings.patternLeast
  classifierLeast : IsProbability settings.classifierLeast
  patternThreshold : IsProbability settings.patternThreshold
  classifierThreshold : IsProbability settings.classifierThreshold

theorem areProbabilities_standard : Settings.standard.AreProbabilities where
  patternLeast := ⟨_, rfl, by decide +kernel, by decide +kernel⟩
  classifierLeast := ⟨_, rfl, by decide +kernel, by decide +kernel⟩
  patternThreshold := ⟨_, rfl, by decide +kernel, by decide +kernel⟩
  classifierThreshold := ⟨_, rfl, by decide +kernel, by decide +kernel⟩

/-- One number is at least another. -/
def Reaches (value least : Value) : Prop :=
  ∃ a b, value = .number a ∧ least = .number b ∧ b.le a = true

/-- One number is below another. -/
def Below (value other : Value) : Prop :=
  ∃ a b, value = .number a ∧ other = .number b ∧ a.lt b = true

theorem reaches_number_iff {a b : Number} : Reaches (.number a) (.number b) ↔ b.le a = true := by
  constructor
  · rintro ⟨_, _, ha, hb, hle⟩
    cases ha
    cases hb
    exact hle
  · exact fun hle => ⟨a, b, rfl, rfl, hle⟩

theorem below_number_iff {a b : Number} : Below (.number a) (.number b) ↔ a.lt b = true := by
  constructor
  · rintro ⟨_, _, ha, hb, hlt⟩
    cases ha
    cases hb
    exact hlt
  · exact fun hlt => ⟨a, b, rfl, rfl, hlt⟩

namespace Value

variable (a b : Number)

theorem greaterThan_number : (Value.number a).greaterThan (.number b) = .ok (b.lt a) := by
  simp [greaterThan, precedes, number?]

theorem lessThan_number : (Value.number a).lessThan (.number b) = .ok (a.lt b) := by
  simp [lessThan, precedes, number?]

theorem atLeast_number : (Value.number a).atLeast (.number b) = .ok (b.le a) := by
  simp [atLeast, precedes, number?]

end Value

namespace Detection

variable {settings : Settings} {catalog : Catalog}

/-- Whether a detection came about and has an intent. -/
def found : Except Fault Detection → Bool
  | .ok detection => detection.matched
  | .error _ => false

/-! ## Detections of the patterns -/

/-- How the patterns come to a detection.  Without a candidate there is nothing; of a best candidate
below the minimum, or of an unknown intent, only its confidence and its pattern remain. -/
inductive FromPatterns (settings : Settings) (catalog : Catalog) (text : String) :
    Detection → Prop
  | nothing :
      Ranking.candidates text catalog = [] →
      FromPatterns settings catalog text (nothing (.text text) .patterns)
  | weak {best : Candidate} {rest : List Candidate} {below : Bool} :
      Ranking.candidates text catalog = best :: rest →
      (Value.real best.confidence).lessThan settings.patternLeast = .ok below →
      below = true ∨ catalog.find? best.intentId = none →
      FromPatterns settings catalog text { nothing (.text text) .patterns with
        confidence := .real best.confidence
        pattern := some best.pattern }
  | intent {best : Candidate} {rest : List Candidate} {intent : Intent}
      {template : Option String} {parameters : Parameters} :
      Ranking.candidates text catalog = best :: rest →
      (Value.real best.confidence).lessThan settings.patternLeast = .ok false →
      catalog.find? best.intentId = some intent →
      parametersFor catalog intent text = .ok (template, parameters) →
      FromPatterns settings catalog text { nothing (.text text) .patterns with
        intentId := some intent.id
        confidence := .real best.confidence
        pattern := some (template.getD best.pattern)
        parameters }

theorem fromPatterns {text : String} {detection : Detection}
    (hok : byPatterns settings catalog text = .ok detection) :
    FromPatterns settings catalog text detection := by
  unfold byPatterns at hok
  dsimp only at hok
  split at hok
  · rename_i hnone
    cases hok
    exact .nothing hnone
  · rename_i best rest hcandidates
    obtain ⟨below, hbelow, hrest⟩ := bind_eq_ok_iff.mp hok
    cases below with
    | true =>
        cases hrest
        exact .weak hcandidates hbelow (.inl rfl)
    | false =>
        simp only [Bool.false_eq_true, if_false] at hrest
        split at hrest
        · rename_i hunknown
          cases hrest
          exact .weak hcandidates hbelow (.inr hunknown)
        · rename_i intent hknown
          obtain ⟨⟨template, parameters⟩, hfound, hresult⟩ := bind_eq_ok_iff.mp hrest
          cases hresult
          exact .intent hcandidates hbelow hknown hfound

/-- The patterns are as sure as the best candidate, and have an intent if that reaches their minimum
and its intent is known. -/
theorem byPatterns_spec {text : String} {detection : Detection}
    (hok : byPatterns settings catalog text = .ok detection) :
    detection.confidence =
        .real (((Ranking.candidates text catalog).head?.map (·.confidence)).getD .zero) ∧
      (detection.matched = true ↔ ∃ best intent,
        (Ranking.candidates text catalog).head? = some best ∧
          (Value.real best.confidence).lessThan settings.patternLeast = .ok false ∧
          catalog.find? best.intentId = some intent) := by
  cases fromPatterns hok with
  | nothing hnone => simp [hnone, nothing, matched]
  | weak hcandidates hbelow hweak =>
      rcases hweak with rfl | hunknown
      · simp [hcandidates, hbelow, nothing, matched]
      · simp [hcandidates, hunknown, nothing, matched]
  | intent hcandidates hbelow hknown _ => simp [hcandidates, hbelow, hknown, matched]

/-! ## Detections of the classifier -/

/-- How a classifier's answer comes to a detection.  Without a label there is nothing; of one below
the minimum, or of no known intent, only the confidence remains. -/
inductive FromAnswer (settings : Settings) (catalog : Catalog) (text : Value) :
    Option Classification → Detection → Prop
  | nothing : FromAnswer settings catalog text none (nothing text .classifier)
  | weak {answer : Classification} {below : Bool} :
      answer.confidence.lessThan settings.classifierLeast = .ok below →
      (below = true ∨ ∃ id, catalog.idOfLabel answer.label = .ok id ∧
        id.bind catalog.find? = none) →
      FromAnswer settings catalog text (some answer)
        { nothing text .classifier with confidence := answer.confidence }
  | intent {answer : Classification} {id written : String} {intent : Intent}
      {pattern : Option String} {parameters : Parameters} :
      answer.confidence.lessThan settings.classifierLeast = .ok false →
      catalog.idOfLabel answer.label = .ok (some id) →
      catalog.find? id = some intent →
      text.toText = .ok written →
      parametersFor catalog intent written = .ok (pattern, parameters) →
      FromAnswer settings catalog text (some answer) { nothing text .classifier with
        intentId := some intent.id
        confidence := answer.confidence
        pattern
        parameters }

theorem fromAnswer {text : Value} {answer : Option Classification} {detection : Detection}
    (hok : byAnswer settings catalog text answer = .ok detection) :
    FromAnswer settings catalog text answer detection := by
  unfold byAnswer at hok
  split at hok
  · cases hok
    exact .nothing
  · rename_i answer
    obtain ⟨below, hbelow, hrest⟩ := bind_eq_ok_iff.mp hok
    cases below with
    | true =>
        cases hrest
        exact .weak hbelow (.inl rfl)
    | false =>
        simp only [Bool.false_eq_true, if_false] at hrest
        obtain ⟨id, hid, hrest⟩ := bind_eq_ok_iff.mp hrest
        split at hrest
        · rename_i hunknown
          cases hrest
          exact .weak hbelow (.inr ⟨id, hid, hunknown⟩)
        · rename_i intent hknown
          obtain ⟨known, rfl, hfind⟩ := Option.bind_eq_some_iff.mp hknown
          obtain ⟨written, hwritten, hrest⟩ := bind_eq_ok_iff.mp hrest
          obtain ⟨⟨pattern, parameters⟩, hfound, hresult⟩ := bind_eq_ok_iff.mp hrest
          cases hresult
          exact .intent hbelow hid hfind hwritten hfound

/-- The classifier is as sure as its answer, and has an intent if that reaches its minimum and
labels a known intent. -/
theorem byAnswer_spec {text : Value} {answer : Option Classification} {detection : Detection}
    (hok : byAnswer settings catalog text answer = .ok detection) :
    detection.confidence = (answer.map (·.confidence)).getD (.real .zero) ∧
      (detection.matched = true ↔ ∃ classification id intent, answer = some classification ∧
        classification.confidence.lessThan settings.classifierLeast = .ok false ∧
          catalog.idOfLabel classification.label = .ok (some id) ∧
          catalog.find? id = some intent) := by
  cases fromAnswer hok with
  | nothing => simp [nothing, matched]
  | weak hbelow hweak =>
      rcases hweak with rfl | ⟨id, hid, hunknown⟩
      · simp [hbelow, nothing, matched]
      · have hnone : ∀ known, id = some known → ∀ intent, catalog.find? known ≠ some intent := by
          rintro known rfl intent hfind
          exact absurd (hunknown.symm.trans hfind) nofun
        simpa [nothing, matched, hid] using fun _ => hnone
  | intent hbelow hid hfind _ _ => simp [matched, hbelow, hid, hfind]

end Detection

namespace Detector

open Detection

variable {detector : Detector} {text : Value}

theorem exists_confidence_of_detectPatterns {detection : Detection}
    (hok : detector.detectPatterns text = .ok detection) :
    ∃ sure, detection.confidence = .number sure := by
  obtain ⟨text, -, hok⟩ := bind_eq_ok_iff.mp hok
  exact ⟨_, (byPatterns_spec hok).1⟩

theorem exists_confidence_of_answer {detection : Detection}
    (hanswer : ∀ classification, (detector.ask text).1 = .ok (some classification) →
      ∃ sure, classification.confidence = .number sure)
    (hok : (detector.detectClassifier text).1 = .ok detection) :
    ∃ sure, detection.confidence = .number sure := by
  obtain ⟨answer, hask, hok⟩ := bind_eq_ok_iff.mp hok
  rw [(byAnswer_spec hok).1]
  cases answer with
  | none => exact ⟨_, rfl⟩
  | some classification => exact hanswer classification hask

theorem exists_confidence_of_detectClassifier {detection : Detection}
    (hanswer : ∀ classification, (detector.ask text).1 = .ok (some classification) →
      IsProbability classification.confidence)
    (hok : (detector.detectClassifier text).1 = .ok detection) :
    ∃ sure, detection.confidence = .number sure :=
  exists_confidence_of_answer
    (fun classification hask => (hanswer classification hask).imp fun _ hsure => hsure.1) hok

end Detector

end Phrasebook
