import Phrasebook.Parameters

/-!
# Intents

An intent is a kind of request: the templates that phrase it, the slots that these may use, and
words with their synonyms.
-/

namespace Phrasebook

/-- Words with the alternatives to each, under the word in lower case. -/
abbrev Synonyms := OrderedMap String (List Value)

structure Intent where
  id : String
  name : String
  description : String
  patterns : List String
  parameters : Schema
  synonyms : Synonyms
  threshold : Real64
  priority : Number
  deriving DecidableEq, Repr

namespace Intent

def parametersWith (shown : Slot → Value) (parameters : Schema) : Value :=
  .mapping (parameters.map fun entry => (entry.1, shown entry.2))

/-- What a catalog shows of an intent. -/
def summary (intent : Intent) : Value :=
  .record [("id", .text intent.id), ("name", .text intent.name),
    ("description", .text intent.description), ("patterns", .texts intent.patterns),
    ("parameters", parametersWith Slot.summary intent.parameters)]

def synonymsValue (synonyms : Synonyms) : Value :=
  .record (synonyms.map fun entry => (entry.1, .list entry.2))

/-- The full declaration of an intent. -/
def toValue (intent : Intent) : Value :=
  .record [("id", .text intent.id), ("name", .text intent.name),
    ("description", .text intent.description), ("patterns", .texts intent.patterns),
    ("parameters", parametersWith Slot.toValue intent.parameters),
    ("synonyms", synonymsValue intent.synonyms), ("confidence", .real intent.threshold),
    ("priority", .number intent.priority)]

end Intent

end Phrasebook
