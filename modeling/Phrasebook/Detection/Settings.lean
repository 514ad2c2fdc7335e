import Phrasebook.Value.Convert
import Phrasebook.Value.Equality
import Phrasebook.Value.Written

/-!
# Methods of detection and their settings

An intent is detected by patterns, by the classifier, or by both under thresholds.
-/

namespace Phrasebook

inductive Method where
  | patterns
  | classifier
  | hybrid
  deriving DecidableEq, Repr

namespace Method

def all : List Method := [.patterns, .classifier, .hybrid]

def name : Method → String
  | .patterns => "pattern_matching"
  | .classifier => "classifier"
  | .hybrid => "hybrid"

def ofName? (name : String) : Option Method := all.find? (·.name == name)

/-- The method that a value names. -/
def ofValue (value : Value) : Except Fault Method :=
  match value with
  | .text name =>
      match ofName? name with
      | some method => .ok method
      | none => invalid (.unknownMethod value.quoted)
  | _ => invalid (.unknownMethod value.quoted)

def title : Method → String
  | .patterns => "Pattern Matching"
  | .classifier => "Secondary Classifier"
  | .hybrid => "Hybrid (Pattern + Classifier)"

def description : Method → String
  | .patterns => "Detection based on predefined text patterns"
  | .classifier => "Detection delegated to the configured statistical classifier"
  | .hybrid => "Combines pattern matching with the classifier under confidence thresholds"

end Method

/-- The default method, the least confidence that each source has to reach, and the thresholds above
which one of them is trusted outright.  The latter are numbers, as a rule; a value of another kind
is kept as it is given, and confidences may turn out not to compare with it. -/
structure Settings where
  defaultMethod : Method
  patternLeast : Value
  classifierLeast : Value
  patternThreshold : Value
  classifierThreshold : Value
  deriving DecidableEq, Repr

namespace Settings

def tenths (count : Nat) : Value := .real (.ofRatio false count 10)

def standard : Settings where
  defaultMethod := .hybrid
  patternLeast := tenths 3
  classifierLeast := tenths 4
  patternThreshold := tenths 7
  classifierThreshold := tenths 6

/-- The settings with one of them given by name. -/
def given (settings : Settings) (name : Key) (value : Value) : Except Fault Settings :=
  match name with
  | .text "default_method" => do
      return { settings with defaultMethod := ← Method.ofValue value }
  | .text "pattern_min_confidence" => .ok { settings with patternLeast := value }
  | .text "classifier_min_confidence" => .ok { settings with classifierLeast := value }
  | .text "pattern_threshold" => .ok { settings with patternThreshold := value }
  | .text "classifier_threshold" => .ok { settings with classifierThreshold := value }
  | _ => .error .unsuitable

/-- The standard settings with those that are given by name; the method is looked at first. -/
def ofParts (parts : List (Key × Value)) : Except Fault Settings := do
  let method ←
    match Value.field? "default_method" parts with
    | some value => standard.given (.text "default_method") value
    | none => .ok standard
  parts.foldlM (fun settings part => settings.given part.1 part.2) method

/-- What a method is configured with. -/
def toValue (settings : Settings) : Method → Value
  | .patterns => .record [("min_confidence", settings.patternLeast)]
  | .classifier => .record [("min_confidence", settings.classifierLeast)]
  | .hybrid =>
      .record [("pattern_threshold", settings.patternThreshold),
        ("classifier_threshold", settings.classifierThreshold)]

end Settings

end Phrasebook
