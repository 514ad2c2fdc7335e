import Phrasebook.Intent.Basic

/-!
# Reading intent declarations

A declaration is checked part by part, in the order of its parts, and the first part that cannot be
used decides the fault.  Absent parts have defaults; the name stands in for itself with the id.
-/

namespace Phrasebook.Intent

/-- The parts of an intent as they were declared. -/
structure Draft where
  id : Value
  name : Value
  description : Value
  patterns : Value
  parameters : Value
  synonyms : Value
  threshold : Value
  priority : Value

/-- The threshold of intents that declare none, eight tenths. -/
def defaultThreshold : Value := .real (.ofRatio false 8 10)

def defaultPriority : Value := .int 1

def readId (id : Value) : Except Fault String :=
  if id.holds then do
    let text ← id.toText
    if isBlankText text then invalid .blankIntentId else return trimmed text
  else invalid .blankIntentId

/-- A display text, trimmed; one that does not hold gives way to `other`. -/
def readLabel (other : String) (value : Value) : Except Fault String := do
  return trimmed (← (value.orElse (.text other)).toText)

/-- A template that can stand in a declaration; whether it is well formed is not asked. -/
def readTemplate (id : String) : Value → Except Fault String
  | .text template =>
      if isBlankText template then invalid (.unusablePattern id) else .ok template
  | _ => invalid (.unusablePattern id)

def readPatterns (id : String) : Value → Except Fault (List String)
  | .text _ => invalid (.patternsNotListed id)
  | value => do
      let templates ← value.members
      if templates.isEmpty then invalid (.noPatterns id)
      else templates.mapM (readTemplate id)

/-- The entries of a part that has to be a mapping already. -/
def entriesOf : Value → Except Fault (List (Key × Value))
  | .mapping entries => .ok entries
  | _ => .error .lacking

def readParameters (declared : Value) : Except Fault Schema := do
  let slots ← (← entriesOf declared).mapM fun entry => do
    return (entry.1, ← Slot.ofValue entry.2)
  return OrderedMap.ofList slots

/-- The alternatives to a word: one text, or the members of a list. -/
def readAlternatives : Value → Except Fault (List Value)
  | .text alternative => .ok [.text alternative]
  | value => value.members

def readSynonyms (declared : Value) : Except Fault Synonyms := do
  let words ← (← entriesOf declared).mapM fun entry => do
    let word ← (Value.ofKey entry.1).toText
    return (lowered word, ← readAlternatives entry.2)
  return OrderedMap.ofList words

def isProbability (value : Real64) : Bool :=
  (Number.int 0).le (.real value) && (Number.real value).le (.int 1)

def readThreshold (id : String) (value : Value) : Except Fault Real64 := do
  let threshold ← value.toReal
  if isProbability threshold then return threshold else invalid (.thresholdOutOfRange id)

def readPriority (id : String) (value : Value) : Except Fault Number :=
  match value with
  | .bool _ => invalid (.priorityNotWhole id)
  | .number priority => do
      let whole ← priority.toWhole
      if (Number.int whole).same priority then
        if priority.lt (.int 1) then invalid (.priorityBelowOne id) else return priority
      else invalid (.priorityNotWhole id)
  | other => do
      let _ ← other.toWhole
      invalid (.priorityNotWhole id)

/-- The intent that a draft describes. -/
def ofDraft (draft : Draft) : Except Fault Intent := do
  let id ← readId draft.id
  let name ← readLabel id draft.name
  let description ← readLabel "" draft.description
  let patterns ← readPatterns id draft.patterns
  let parameters ← readParameters draft.parameters
  let synonyms ← readSynonyms draft.synonyms
  let threshold ← readThreshold id draft.threshold
  let priority ← readPriority id draft.priority
  return { id, name, description, patterns, parameters, synonyms, threshold, priority }

/-- The draft of a declaration with every part spelled out; `id` may not be missing, and there are
no other parts. -/
def draftOfParts (parts : List (Key × Value)) : Except Fault Draft := do
  let known := ["id", "name", "description", "patterns", "parameters", "synonyms",
    "confidence_threshold", "priority"]
  if parts.all fun part => known.any fun name => part.1 == .text name then
    match Value.field? "id" parts with
    | none => .error .unsuitable
    | some id =>
        return {
          id
          name := Value.fieldOr "name" (.text "") parts
          description := Value.fieldOr "description" (.text "") parts
          patterns := Value.fieldOr "patterns" (.list []) parts
          parameters := Value.fieldOr "parameters" (.mapping []) parts
          synonyms := Value.fieldOr "synonyms" (.mapping []) parts
          threshold := Value.fieldOr "confidence_threshold" defaultThreshold parts
          priority := Value.fieldOr "priority" defaultPriority parts }
  else .error .unsuitable

/-- The draft of a configured intent.  The threshold goes by either of two names. -/
def draftOf (id : Value) (entries : List (Key × Value)) : Except Fault Draft := do
  let part := fun (name : String) => Value.fieldOrNull name entries
  return {
    id
    name := (part "name").orElse id
    description := (part "description").orElse (.text "")
    patterns := (part "patterns").orElse (.list [])
    parameters := .mapping (← ((part "parameters").orElse (.mapping [])).toEntries)
    synonyms := .mapping (← ((part "synonyms").orElse (.mapping [])).toEntries)
    threshold := Value.fieldOr "confidence"
      (Value.fieldOr "confidence_threshold" defaultThreshold entries) entries
    priority := Value.fieldOr "priority" defaultPriority entries }

/-- The intent configured under an id. -/
def ofEntries (id : Value) (entries : List (Key × Value)) : Except Fault Intent := do
  ofDraft (← draftOf id entries)

def ofValue (id data : Value) : Except Fault Intent :=
  match data with
  | .mapping entries => ofEntries id entries
  | _ => .error .lacking

end Phrasebook.Intent
