import Phrasebook.JsonText.Reader
import Phrasebook.Text.CaseMap
import Phrasebook.Value.Convert
import Phrasebook.Value.Equality
import Phrasebook.Value.Written

/-!
# Answers of a classifier

A classifier names an intent and its confidence, or no intent.  A chat model answers in prose with
a JSON object in it, which reaches from the first opening brace to the last closing one.
-/

namespace Phrasebook

/-- What a classifier names, a text with a number as a rule; they are kept as the classifier gives
them. -/
structure Classification where
  label : Value
  confidence : Value
  deriving DecidableEq, Repr

namespace Classification

/-- The label by which a model says that no intent applies. -/
def noLabel : String := "none"

/-- The text from the first opening brace to the last closing brace behind it. -/
def enclosed? (content : List Char) : Option (List Char) :=
  match ((content.dropWhile (· != '\x7b')).reverse.dropWhile (· != '\x7d')).reverse with
  | [] => none
  | text => some text

/-- The nearest confidence from zero to one; the undefined number stays undefined. -/
def clamped (confidence : Real64) : Real64 :=
  if (Number.real confidence).lt (.int 0) then .zero
  else if (Number.int 1).lt (.real confidence) then .finite false Real64.one
  else confidence

def readConfidence (value : Value) : Except Fault Real64 :=
  match value.toReal with
  | .ok confidence => .ok (clamped confidence)
  | .error (.overflow cause) => .error (.overflow cause)
  | .error _ => .error (.unanswered .confidenceNotNumber)

/-- The classification of an answer's entries; an empty label and the label for no intent are
none. -/
def ofEntries (entries : List (Key × Value)) : Except Fault (Option Classification) := do
  let label := trimmed ((Value.fieldOrNull "intent" entries).orElse (.text "")).written
  if label.isEmpty || lowered label == noLabel then return none
  else
    let confidence ← readConfidence (Value.fieldOr "confidence" (.real .zero) entries)
    return some ⟨.text label, .real confidence⟩

/-- The classification that a model's answer holds. -/
def ofAnswer (content : String) : Except Fault (Option Classification) :=
  match enclosed? content.toList with
  | none => .error (.unanswered .noObject)
  | some text =>
      match JsonText.read text with
      | .ok (.mapping entries) => ofEntries entries
      | .ok _ => .error (.unanswered .notAnObject)
      | .error (.flaw flaw position) =>
          .error (.unanswered (.badJson (JsonText.flawMessage text flaw position)))
      | .error (.tooManyDigits count) => invalid (.tooManyDigits count)
      | .error (.tooDeep container) => .error (.crash (.nesting container.name))

end Classification

end Phrasebook
