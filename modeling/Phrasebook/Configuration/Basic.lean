import Phrasebook.Configuration.EnvFile
import Phrasebook.Detection.Settings
import Phrasebook.Text.CaseMap

/-!
# Configuration

The configuration is read from variables, each of which has a default.  A variable that is set to
nothing but blanks counts as missing where a number or a truth value is wanted.
-/

namespace Phrasebook

/-- A configuration.  One that is read from variables has a text, a number or a truth value in each
part; one that is given directly keeps whatever it is given. -/
structure Configuration where
  detectionMethod : Value
  patternLeast : Value
  classifierLeast : Value
  patternThreshold : Value
  classifierThreshold : Value
  classifierEnabled : Value
  modelAddress : Value
  modelName : Value
  classifierTimeout : Value
  maxTextLength : Value
  logLevel : Value
  host : Value
  portNumber : Value
  deriving DecidableEq, Repr

namespace Configuration

def standard : Configuration where
  detectionMethod := .text Method.hybrid.name
  patternLeast := Settings.standard.patternLeast
  classifierLeast := Settings.standard.classifierLeast
  patternThreshold := Settings.standard.patternThreshold
  classifierThreshold := Settings.standard.classifierThreshold
  classifierEnabled := .bool true
  modelAddress := .text "http://localhost:11434/v1"
  modelName := .text "qwen3:1.7b"
  classifierTimeout := .real (.ofRatio false 30 1)
  maxTextLength := .int 1000
  logLevel := .text "INFO"
  host := .text "0.0.0.0"
  portNumber := .int 3000

def toValue (configuration : Configuration) : Value :=
  .record [("detection_method", configuration.detectionMethod),
    ("pattern_min_confidence", configuration.patternLeast),
    ("classifier_min_confidence", configuration.classifierLeast),
    ("hybrid_pattern_threshold", configuration.patternThreshold),
    ("hybrid_classifier_threshold", configuration.classifierThreshold),
    ("classifier_enabled", configuration.classifierEnabled),
    ("llm_base_url", configuration.modelAddress), ("llm_model", configuration.modelName),
    ("classifier_timeout_seconds", configuration.classifierTimeout),
    ("max_text_length", configuration.maxTextLength), ("log_level", configuration.logLevel),
    ("host", configuration.host), ("port", configuration.portNumber)]

/-- The settings of detection under a configuration. -/
def settings (configuration : Configuration) : Except Fault Settings := do
  return {
    defaultMethod := ← Method.ofValue configuration.detectionMethod
    patternLeast := configuration.patternLeast
    classifierLeast := configuration.classifierLeast
    patternThreshold := configuration.patternThreshold
    classifierThreshold := configuration.classifierThreshold }

/-- The text of a variable. -/
def textSetting (environment : Environment) (name : String) (fallback : Value) : Value :=
  ((OrderedMap.get? name environment).map Value.text).getD fallback

/-- The text of a variable that is set to more than blanks. -/
def givenText? (environment : Environment) (name : String) : Option String :=
  (OrderedMap.get? name environment).filter fun raw => !isBlankText raw

/-- A real variable within two bounds, which are shown when it is outside of them. -/
def realSetting (environment : Environment) (name : String) (fallback : Value)
    (least greatest : Real64) : Except Fault Value :=
  match givenText? environment name with
  | none => .ok fallback
  | some raw =>
      match Numeral.real? raw with
      | none => invalid (.settingNotNumber name raw)
      | some value =>
          let number := Number.real value
          if (Number.real least).le number && number.le (.real greatest) then .ok (.real value)
          else invalid (.settingOutside name least.text greatest.text value.text)

/-- A confidence, from zero to one. -/
def confidenceSetting (environment : Environment) (name : String) (fallback : Value) :
    Except Fault Value :=
  realSetting environment name fallback .zero (.ofRatio false 1 1)

/-- A whole variable of at least one. -/
def countSetting (environment : Environment) (name : String) (fallback : Value) :
    Except Fault Value :=
  match givenText? environment name with
  | none => .ok fallback
  | some raw =>
      match Numeral.whole raw with
      | .error _ => invalid (.settingNotWhole name raw)
      | .ok value =>
          if value < 1 then invalid (.settingBelow name "1" (toString value)) else .ok (.int value)

def flagSetting (environment : Environment) (name : String) (fallback : Value) :
    Except Fault Value :=
  match givenText? environment name with
  | none => .ok fallback
  | some raw =>
      let word := lowered (trimmed raw)
      if ["1", "true", "yes", "on"].contains word then .ok (.bool true)
      else if ["0", "false", "no", "off"].contains word then .ok (.bool false)
      else invalid (.settingNotBoolean name raw)

def methodSetting (environment : Environment) : Except Fault Value :=
  let name := lowered (trimmed ((OrderedMap.get? "DETECTION_METHOD" environment).getD "hybrid"))
  if (Method.ofName? name).isSome then .ok (.text name)
  else invalid (.unknownDefaultMethod name)

def logLevels : List String := ["DEBUG", "INFO", "WARNING", "ERROR", "CRITICAL"]

def logLevelSetting (environment : Environment) : Except Fault Value :=
  let name := uppered ((OrderedMap.get? "LOG_LEVEL" environment).getD "INFO")
  if logLevels.contains name then .ok (.text name) else invalid (.unknownLogLevel name)

/-- The configuration that an environment asks for. -/
def ofEnvironment (environment : Environment) : Except Fault Configuration := do
  let detectionMethod ← methodSetting environment
  let logLevel ← logLevelSetting environment
  let patternLeast ←
    confidenceSetting environment "PATTERN_MIN_CONFIDENCE" standard.patternLeast
  let classifierLeast ←
    confidenceSetting environment "CLASSIFIER_MIN_CONFIDENCE" standard.classifierLeast
  let patternThreshold ←
    confidenceSetting environment "HYBRID_PATTERN_THRESHOLD" standard.patternThreshold
  let classifierThreshold ←
    confidenceSetting environment "HYBRID_CLASSIFIER_THRESHOLD" standard.classifierThreshold
  let classifierEnabled ← flagSetting environment "CLASSIFIER_ENABLED" standard.classifierEnabled
  let classifierTimeout ←
    realSetting environment "CLASSIFIER_TIMEOUT_SECONDS" standard.classifierTimeout
      (.ofRatio false 1 10) (.ofRatio false 600 1)
  let maxTextLength ← countSetting environment "MAX_TEXT_LENGTH" standard.maxTextLength
  let portNumber ← countSetting environment "PORT" standard.portNumber
  return {
    detectionMethod, patternLeast, classifierLeast, patternThreshold, classifierThreshold
    classifierEnabled
    modelAddress := textSetting environment "LLM_BASE_URL" standard.modelAddress
    modelName := textSetting environment "LLM_MODEL" standard.modelName
    classifierTimeout, maxTextLength, logLevel
    host := textSetting environment "HOST" standard.host
    portNumber }

/-- The names of the variables that the configuration is read from. -/
def variableNames : List String :=
  ["DETECTION_METHOD", "LOG_LEVEL", "PATTERN_MIN_CONFIDENCE", "CLASSIFIER_MIN_CONFIDENCE",
    "HYBRID_PATTERN_THRESHOLD", "HYBRID_CLASSIFIER_THRESHOLD", "CLASSIFIER_ENABLED",
    "CLASSIFIER_TIMEOUT_SECONDS", "MAX_TEXT_LENGTH", "PORT", "LLM_BASE_URL", "LLM_MODEL", "HOST",
    Environment.offSwitch]

/-- The configuration with one part given by name. -/
def given (configuration : Configuration) (name : Key) (value : Value) :
    Except Fault Configuration :=
  match name with
  | .text "detection_method" => .ok { configuration with detectionMethod := value }
  | .text "pattern_min_confidence" => .ok { configuration with patternLeast := value }
  | .text "classifier_min_confidence" => .ok { configuration with classifierLeast := value }
  | .text "hybrid_pattern_threshold" => .ok { configuration with patternThreshold := value }
  | .text "hybrid_classifier_threshold" => .ok { configuration with classifierThreshold := value }
  | .text "classifier_enabled" => .ok { configuration with classifierEnabled := value }
  | .text "llm_base_url" => .ok { configuration with modelAddress := value }
  | .text "llm_model" => .ok { configuration with modelName := value }
  | .text "classifier_timeout_seconds" => .ok { configuration with classifierTimeout := value }
  | .text "max_text_length" => .ok { configuration with maxTextLength := value }
  | .text "log_level" => .ok { configuration with logLevel := value }
  | .text "host" => .ok { configuration with host := value }
  | .text "port" => .ok { configuration with portNumber := value }
  | _ => .error .unsuitable

/-- The standard configuration with those parts that are given by name. -/
def ofParts (parts : List (Key × Value)) : Except Fault Configuration :=
  parts.foldlM (fun configuration part => configuration.given part.1 part.2) standard

end Configuration

end Phrasebook
