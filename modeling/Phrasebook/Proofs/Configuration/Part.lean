import Mathlib
import Phrasebook.Configuration.Basic
import Phrasebook.Proofs.Detection.Sources

/-!
# The parts of a configuration

Each part of a configuration is read from a variable of its own, and from nothing else.  Whatever
the text of the variable is, it either gives a value that the part may have, or breaks a rule that
names the variable.
-/

namespace Phrasebook.Configuration

inductive Part where
  | detectionMethod
  | logLevel
  | patternLeast
  | classifierLeast
  | patternThreshold
  | classifierThreshold
  | classifierEnabled
  | classifierTimeout
  | maxTextLength
  | portNumber
  | modelAddress
  | modelName
  | host
  deriving DecidableEq

namespace Part

/-- The variable that a part is read from. -/
def name : Part → String
  | .detectionMethod => "DETECTION_METHOD"
  | .logLevel => "LOG_LEVEL"
  | .patternLeast => "PATTERN_MIN_CONFIDENCE"
  | .classifierLeast => "CLASSIFIER_MIN_CONFIDENCE"
  | .patternThreshold => "HYBRID_PATTERN_THRESHOLD"
  | .classifierThreshold => "HYBRID_CLASSIFIER_THRESHOLD"
  | .classifierEnabled => "CLASSIFIER_ENABLED"
  | .classifierTimeout => "CLASSIFIER_TIMEOUT_SECONDS"
  | .maxTextLength => "MAX_TEXT_LENGTH"
  | .portNumber => "PORT"
  | .modelAddress => "LLM_BASE_URL"
  | .modelName => "LLM_MODEL"
  | .host => "HOST"

def of (configuration : Configuration) : Part → Value
  | .detectionMethod => configuration.detectionMethod
  | .logLevel => configuration.logLevel
  | .patternLeast => configuration.patternLeast
  | .classifierLeast => configuration.classifierLeast
  | .patternThreshold => configuration.patternThreshold
  | .classifierThreshold => configuration.classifierThreshold
  | .classifierEnabled => configuration.classifierEnabled
  | .classifierTimeout => configuration.classifierTimeout
  | .maxTextLength => configuration.maxTextLength
  | .portNumber => configuration.portNumber
  | .modelAddress => configuration.modelAddress
  | .modelName => configuration.modelName
  | .host => configuration.host

/-- The configuration of given parts. -/
def assemble (values : Part → Value) : Configuration where
  detectionMethod := values .detectionMethod
  patternLeast := values .patternLeast
  classifierLeast := values .classifierLeast
  patternThreshold := values .patternThreshold
  classifierThreshold := values .classifierThreshold
  classifierEnabled := values .classifierEnabled
  modelAddress := values .modelAddress
  modelName := values .modelName
  classifierTimeout := values .classifierTimeout
  maxTextLength := values .maxTextLength
  logLevel := values .logLevel
  host := values .host
  portNumber := values .portNumber

/-- How a part is read from an environment. -/
def read (environment : Environment) : Part → Except Fault Value
  | .detectionMethod => methodSetting environment
  | .logLevel => logLevelSetting environment
  | .patternLeast => confidenceSetting environment "PATTERN_MIN_CONFIDENCE" standard.patternLeast
  | .classifierLeast =>
      confidenceSetting environment "CLASSIFIER_MIN_CONFIDENCE" standard.classifierLeast
  | .patternThreshold =>
      confidenceSetting environment "HYBRID_PATTERN_THRESHOLD" standard.patternThreshold
  | .classifierThreshold =>
      confidenceSetting environment "HYBRID_CLASSIFIER_THRESHOLD" standard.classifierThreshold
  | .classifierEnabled => flagSetting environment "CLASSIFIER_ENABLED" standard.classifierEnabled
  | .classifierTimeout =>
      realSetting environment "CLASSIFIER_TIMEOUT_SECONDS" standard.classifierTimeout
        (.ofRatio false 1 10) (.ofRatio false 600 1)
  | .maxTextLength => countSetting environment "MAX_TEXT_LENGTH" standard.maxTextLength
  | .portNumber => countSetting environment "PORT" standard.portNumber
  | .modelAddress => .ok (textSetting environment "LLM_BASE_URL" standard.modelAddress)
  | .modelName => .ok (textSetting environment "LLM_MODEL" standard.modelName)
  | .host => .ok (textSetting environment "HOST" standard.host)

variable {environment other : Environment} {part : Part} {configuration : Configuration}

/-! ## All parts -/

@[simp]
theorem of_assemble (values : Part → Value) : part.of (assemble values) = values part := by
  cases part <;> rfl

theorem ofEnvironment_eq_ok_iff :
    ofEnvironment environment = .ok configuration ↔
      ∀ part : Part, part.read environment = .ok (part.of configuration) := by
  simp only [ofEnvironment, bind_eq_ok_iff]
  constructor
  · rintro ⟨_, hmethod, _, hlevel, _, hpatternLeast, _, hclassifierLeast, _, hpatternThreshold, _,
      hclassifierThreshold, _, henabled, _, htimeout, _, hlength, _, hport, hresult⟩ part
    cases hresult
    cases part with
    | detectionMethod => exact hmethod
    | logLevel => exact hlevel
    | patternLeast => exact hpatternLeast
    | classifierLeast => exact hclassifierLeast
    | patternThreshold => exact hpatternThreshold
    | classifierThreshold => exact hclassifierThreshold
    | classifierEnabled => exact henabled
    | classifierTimeout => exact htimeout
    | maxTextLength => exact hlength
    | portNumber => exact hport
    | modelAddress | modelName | host => rfl
  · intro hparts
    refine ⟨_, hparts .detectionMethod, _, hparts .logLevel, _, hparts .patternLeast, _,
      hparts .classifierLeast, _, hparts .patternThreshold, _, hparts .classifierThreshold, _,
      hparts .classifierEnabled, _, hparts .classifierTimeout, _, hparts .maxTextLength, _,
      hparts .portNumber, ?_⟩
    have haddress := Except.ok.inj (hparts .modelAddress)
    have hname := Except.ok.inj (hparts .modelName)
    have hhost := Except.ok.inj (hparts .host)
    rw [haddress, hname, hhost]
    rfl

/-- A configuration is read if every part of it is. -/
theorem exists_ofEnvironment_iff :
    (∃ configuration, ofEnvironment environment = .ok configuration) ↔
      ∀ part : Part, ∃ value, part.read environment = .ok value := by
  constructor
  · rintro ⟨configuration, hread⟩ part
    exact ⟨_, ofEnvironment_eq_ok_iff.mp hread part⟩
  · intro hparts
    choose values hvalues using hparts
    refine ⟨assemble values, ofEnvironment_eq_ok_iff.mpr fun part => ?_⟩
    rw [of_assemble, hvalues]

/-- Reading fails with the fault of a part. -/
theorem failsOnly_ofEnvironment (environment : Environment) :
    FailsOnly (fun fault => ∃ part : Part, part.read environment = .error fault)
      (ofEnvironment environment) := by
  have hpart : ∀ part : Part,
      FailsOnly (fun fault => ∃ part : Part, part.read environment = .error fault)
        (part.read environment) := fun part _ hfault => ⟨part, hfault⟩
  exact .bind (hpart .detectionMethod) fun _ _ => .bind (hpart .logLevel) fun _ _ =>
    .bind (hpart .patternLeast) fun _ _ => .bind (hpart .classifierLeast) fun _ _ =>
    .bind (hpart .patternThreshold) fun _ _ => .bind (hpart .classifierThreshold) fun _ _ =>
    .bind (hpart .classifierEnabled) fun _ _ => .bind (hpart .classifierTimeout) fun _ _ =>
    .bind (hpart .maxTextLength) fun _ _ => .bind (hpart .portNumber) fun _ _ => .ok _

/-! ## One variable -/

theorem read_congr
    (hsame : OrderedMap.get? part.name environment = OrderedMap.get? part.name other) :
    part.read environment = part.read other := by
  cases part <;>
    simp only [read, methodSetting, logLevelSetting, confidenceSetting, realSetting, countSetting,
      flagSetting, textSetting, givenText?, name] at hsame ⊢ <;>
    rw [hsame]

/-- An environment with at most the one variable. -/
def lone (name : String) (value : Option String) : Environment :=
  (value.map fun value => (name, value)).toList

theorem get?_lone (name other : String) (value : Option String) :
    OrderedMap.get? other (lone name value) = if name = other then value else none := by
  cases value <;> simp [lone, OrderedMap.get?]

theorem name_inj {other : Part} (hname : part.name = other.name) : part = other := by
  revert hname
  cases part <;> cases other <;> decide

theorem read_nil (part : Part) : part.read [] = .ok (part.of standard) := by
  cases part <;> rfl

/-- A variable alone settles its part, and leaves all other parts as they are by default. -/
theorem map_of_ofEnvironment_lone (part : Part) (value : Option String) :
    (ofEnvironment (lone part.name value)).map part.of = part.read (lone part.name value) := by
  have hothers : ∀ other : Part, other ≠ part →
      other.read (lone part.name value) = .ok (other.of standard) := by
    intro other hother
    have hname : part.name ≠ other.name := fun hname => hother (name_inj hname).symm
    rw [← read_nil, read_congr]
    rw [get?_lone, if_neg hname]
    rfl
  cases hread : ofEnvironment (lone part.name value) with
  | ok configuration => exact (ofEnvironment_eq_ok_iff.mp hread part).symm
  | error fault =>
      obtain ⟨failing, hfails⟩ := failsOnly_ofEnvironment _ fault hread
      by_cases hsame : failing = part
      · rw [hsame] at hfails
        rw [hfails]
        rfl
      · rw [hothers failing hsame] at hfails
        cases hfails

end Part

end Phrasebook.Configuration
