import Phrasebook.Classifier.Basic
import Phrasebook.Detection.Basic

/-!
# Detectors

A detector has a catalog, settings and perhaps a classifier, which remembers what it was asked.
When the chosen method has no answer, the default method is tried in its place.
-/

namespace Phrasebook

structure Detector where
  catalog : Catalog
  classifier : Option Classifier
  settings : Settings
  defaultMethod : Method

namespace Detector

def create (catalog : Catalog) (classifier : Option Classifier) (settings : Settings) : Detector :=
  { catalog, classifier, settings, defaultMethod := settings.defaultMethod }

/-- Asks the classifier about a text; without one there is no answer. -/
def ask (detector : Detector) (text : Value) :
    Except Fault (Option Classification) × Detector :=
  match detector.classifier with
  | none => (.error (.unanswered .notConfigured), detector)
  | some classifier =>
      let (answer, asked) := classifier.classify detector.catalog.intents text
      (answer, { detector with classifier := some asked })

def detectPatterns (detector : Detector) (text : Value) : Except Fault Detection := do
  Detection.byPatterns detector.settings detector.catalog (← text.toText)

def detectClassifier (detector : Detector) (text : Value) : Except Fault Detection × Detector :=
  let (answer, asked) := detector.ask text
  (answer.bind (Detection.byAnswer detector.settings detector.catalog text), asked)

/-- The hybrid of a pattern detection and what became of the classifier's. -/
def hybridOf (settings : Settings) (patterns : Detection) :
    Except Fault Detection → Except Fault Detection
  | .ok classifier => Detection.ofBoth settings patterns classifier
  | .error (.unanswered cause) => .ok (Detection.patternsAlone patterns (some cause.message))
  | .error fault => .error fault

def detectHybrid (detector : Detector) (text : Value) : Except Fault Detection × Detector :=
  match detector.detectPatterns text with
  | .error fault => (.error fault, detector)
  | .ok patterns =>
      match detector.classifier with
      | none => (.ok (Detection.patternsAlone patterns none), detector)
      | some _ =>
          let (answer, asked) := detector.detectClassifier text
          (hybridOf detector.settings patterns answer, asked)

/-- Detection by one method. -/
def detectBy (detector : Detector) (method : Method) (text : Value) :
    Except Fault Detection × Detector :=
  match method with
  | .patterns => (detector.detectPatterns text, detector)
  | .classifier => detector.detectClassifier text
  | .hybrid => detector.detectHybrid text

/-- No answer counts as nothing detected, with the reason. -/
def withReason (text : Value) (method : Method) : Except Fault Detection → Except Fault Detection
  | .error (.unanswered cause) =>
      .ok { Detection.nothing text method with error := some cause.message }
  | other => other

/-- Detection by the default method. -/
def detectByDefault (detector : Detector) (text : Value) : Except Fault Detection × Detector :=
  let (answer, asked) := detector.detectBy detector.defaultMethod text
  (withReason text detector.defaultMethod answer, asked)

/-- Detection by a method or, if that one has no answer, by the default method. -/
def detectWith (detector : Detector) (method : Method) (text : Value) :
    Except Fault Detection × Detector :=
  match detector.detectBy method text with
  | (.error (.unanswered cause), asked) =>
      if method = detector.defaultMethod then
        (withReason text method (.error (.unanswered cause)), asked)
      else asked.detectByDefault text
  | outcome => outcome

/-- Whether there is nothing to detect in a text: it does not hold, or has nothing but blanks. -/
def isVoid (text : Value) : Except Fault Bool :=
  if text.holds then do return isBlankText (← text.toText) else .ok true

/-- The method that a value names; one that does not hold stands for the default. -/
def chosen (detector : Detector) (method : Value) : Except Fault Method :=
  if method.holds then Method.ofValue method else .ok detector.defaultMethod

/-- Detection by the method that a value names. -/
def detect (detector : Detector) (text method : Value) : Except Fault Detection × Detector :=
  match detector.chosen method with
  | .error fault => (.error fault, detector)
  | .ok chosen =>
      match isVoid text with
      | .error fault => (.error fault, detector)
      | .ok true => (.ok (Detection.nothing text chosen), detector)
      | .ok false => detector.detectWith chosen text

/-- The classifier's method needs a classifier. -/
def isEnabled (detector : Detector) (method : Method) : Bool :=
  method ≠ .classifier || detector.classifier.isSome

def setDefault (detector : Detector) (method : Value) : Except Fault Detector := do
  let chosen ← Method.ofValue method
  if detector.isEnabled chosen then return { detector with defaultMethod := chosen }
  else invalid (.methodDisabled chosen.name)

def describe (detector : Detector) (method : Method) : Value :=
  .record [("name", .text method.title), ("description", .text method.description),
    ("enabled", .bool (detector.isEnabled method)),
    ("default", .bool (method = detector.defaultMethod)),
    ("config", detector.settings.toValue method)]

/-- Every method with its title, its state and its thresholds. -/
def methods (detector : Detector) : Value :=
  .record (Method.all.map fun method => (method.name, detector.describe method))

/-- Detection by each of some methods in turn. -/
def compareBy (detector : Detector) (text : Value) :
    List Method → Except Fault (List (Method × Detection)) × Detector
  | [] => (.ok [], detector)
  | method :: others =>
      match detector.detect text (.text method.name) with
      | (.error fault, asked) => (.error fault, asked)
      | (.ok detection, asked) =>
          let (rest, afterwards) := asked.compareBy text others
          (rest.map ((method, detection) :: ·), afterwards)

/-- Detection by every enabled method. -/
def compare (detector : Detector) (text : Value) :
    Except Fault (List (Method × Detection)) × Detector :=
  detector.compareBy text (Method.all.filter detector.isEnabled)

end Detector

end Phrasebook
