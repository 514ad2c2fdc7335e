import Phrasebook.Classifier.Answer
import Phrasebook.Detection.Settings
import Phrasebook.Ranking

/-!
# Detecting an intent

A detection says which intent a text has, how sure that is, and the parameters read from the text.
Patterns and classifier each detect on their own; a hybrid detection takes one of the two and says
which and why.
-/

namespace Phrasebook

/-- Which source a hybrid detection trusts. -/
inductive Decision where
  | patternHighConfidence
  | classifierHighConfidence
  | bestOfBoth
  | patternFallback
  deriving DecidableEq, Repr

def Decision.name : Decision → String
  | .patternHighConfidence => "pattern_high_confidence"
  | .classifierHighConfidence => "classifier_high_confidence"
  | .bestOfBoth => "best_of_both"
  | .patternFallback => "pattern_fallback"

/-- What was detected.  The text and the confidence are kept as the caller and the classifier gave
them. -/
structure Detection where
  text : Value
  method : Method
  intentId : Option String
  confidence : Value
  pattern : Option String
  parameters : Parameters
  decision : Option Decision
  patternConfidence : Option Value
  classifierConfidence : Option Value
  error : Option String
  deriving DecidableEq, Repr

namespace Detection

/-- Nothing detected. -/
def nothing (text : Value) (method : Method) : Detection where
  text := text
  method := method
  intentId := none
  confidence := .real .zero
  pattern := none
  parameters := []
  decision := none
  patternConfidence := none
  classifierConfidence := none
  error := none

def matched (detection : Detection) : Bool := detection.intentId.isSome

def orNull {α : Type} (shown : α → Value) : Option α → Value
  | some value => shown value
  | none => .null

def toValue (detection : Detection) : Value :=
  .record [("original_text", detection.text), ("method", .text detection.method.name),
    ("intent_id", orNull .text detection.intentId), ("confidence", detection.confidence),
    ("pattern", orNull .text detection.pattern), ("parameters", .mapping detection.parameters),
    ("decision", orNull (fun decision => .text decision.name) detection.decision),
    ("pattern_confidence", detection.patternConfidence.getD .null),
    ("classifier_confidence", detection.classifierConfidence.getD .null),
    ("error", orNull .text detection.error)]

/-- The template of an intent that accepts a text, if one does, and the parameters. -/
def parametersFor (catalog : Catalog) (intent : Intent) (text : String) :
    Except Fault (Option String × Parameters) :=
  match matchFirst? text (catalog.usablePatterns intent.id) with
  | none => do return (none, ← Parameters.ofRaw [] intent.parameters)
  | some (pattern, captures) => do
      return (some pattern.source, ← Parameters.ofCaptures captures intent.parameters)

/-- Detection by the best ranked pattern. -/
def byPatterns (settings : Settings) (catalog : Catalog) (text : String) :
    Except Fault Detection :=
  let none := nothing (.text text) .patterns
  match Ranking.candidates text catalog with
  | [] => .ok none
  | best :: _ => do
      let confidence := Value.real best.confidence
      let weak := { none with confidence, pattern := some best.pattern }
      if ← confidence.lessThan settings.patternLeast then return weak
      else
        match catalog.find? best.intentId with
        | .none => return weak
        | some intent =>
            let (pattern, parameters) ← parametersFor catalog intent text
            return { weak with
              intentId := some intent.id
              pattern := some (pattern.getD best.pattern)
              parameters }

/-- Detection by what a classifier answered. -/
def byAnswer (settings : Settings) (catalog : Catalog) (text : Value) :
    Option Classification → Except Fault Detection
  | none => .ok (nothing text .classifier)
  | some answer => do
      let weak := { nothing text .classifier with confidence := answer.confidence }
      if ← answer.confidence.lessThan settings.classifierLeast then return weak
      else
        match (← catalog.idOfLabel answer.label).bind catalog.find? with
        | none => return weak
        | some intent =>
            let (pattern, parameters) ← parametersFor catalog intent (← text.toText)
            return { weak with intentId := some intent.id, pattern, parameters }

/-- The hybrid detection that keeps to the patterns, with the reason if the classifier failed. -/
def patternsAlone (patterns : Detection) (error : Option String) : Detection :=
  { patterns with
    method := .hybrid
    decision := some .patternFallback
    patternConfidence := some patterns.confidence
    error := error.or patterns.error }

/-- The source that a hybrid detection trusts, and why. -/
def trusted (settings : Settings) (patterns classifier : Detection) :
    Except Fault (Detection × Decision) := do
  if ← patterns.confidence.atLeast settings.patternThreshold then
    return (patterns, .patternHighConfidence)
  else if ← classifier.confidence.atLeast settings.classifierThreshold then
    return (classifier, .classifierHighConfidence)
  else if ← patterns.confidence.greaterThan classifier.confidence then
    return (patterns, .bestOfBoth)
  else return (classifier, .bestOfBoth)

/-- The hybrid of the detections of both sources. -/
def ofBoth (settings : Settings) (patterns classifier : Detection) : Except Fault Detection := do
  let (chosen, decision) ← trusted settings patterns classifier
  return { chosen with
    method := .hybrid
    decision := some decision
    patternConfidence := some patterns.confidence
    classifierConfidence := some classifier.confidence }

end Detection

end Phrasebook
