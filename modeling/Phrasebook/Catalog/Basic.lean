import Phrasebook.Intent.Declaration

/-!
# Catalogs

A catalog keeps the definitions of intents in order and, apart from them, the patterns made ready
for their templates, both under the ids of the intents.  A template that is not well formed has an
empty place among its intent's patterns, and stays out of use.
-/

namespace Phrasebook

/-- `prepared` has one place for each template of a definition. -/
structure Catalog where
  definitions : OrderedMap String Intent
  prepared : OrderedMap String (List (Option Pattern))
  deriving DecidableEq, Repr

namespace Catalog

def empty : Catalog := ⟨[], []⟩

/-- The patterns of templates, each in its place. -/
def prepare (templates : List String) : List (Option Pattern) :=
  templates.map fun template => (Pattern.ofTemplate template).toOption

def intents (catalog : Catalog) : List Intent := catalog.definitions.map (·.2)

def ids (catalog : Catalog) : List String := OrderedMap.keys catalog.definitions

def size (catalog : Catalog) : Nat := catalog.definitions.length

def find? (catalog : Catalog) (id : String) : Option Intent :=
  OrderedMap.get? id catalog.definitions

def has (catalog : Catalog) (id : String) : Bool := OrderedMap.hasKey id catalog.definitions

def patternsOf (catalog : Catalog) (id : String) : List String :=
  ((catalog.find? id).map (·.patterns)).getD []

def parametersOf (catalog : Catalog) (id : String) : Schema :=
  ((catalog.find? id).map (·.parameters)).getD []

def synonymsOf (catalog : Catalog) (id : String) : Synonyms :=
  ((catalog.find? id).map (·.synonyms)).getD []

/-- The synonyms of a word for an intent, or the word itself. -/
def findSynonyms (catalog : Catalog) (word id : String) : List Value :=
  match OrderedMap.get? (lowered word) (catalog.synonymsOf id) with
  | some (first :: others) => first :: others
  | _ => [.text word]

/-- The id that a loosely written one stands for. -/
def normalizeId? (catalog : Catalog) (id : String) : Option String :=
  let normalized := uppered (trimmed id)
  if !id.isEmpty && catalog.has normalized then some normalized else none

/-- The id that a label stands for; one that does not hold stands for none. -/
def idOfLabel (catalog : Catalog) (label : Value) : Except Fault (Option String) :=
  if label.holds then do return catalog.normalizeId? (← label.toText) else .ok none

/-- The id that a value is: any text is one, and other single values are ids of no intent. -/
def idOf : Value → Except Fault (Option String)
  | .text id => .ok (some id)
  | .list _ | .mapping _ => .error .unsuitable
  | _ => .ok none

def patternsAt (catalog : Catalog) (id : String) : List (Option Pattern) :=
  (OrderedMap.get? id catalog.prepared).getD []

/-- The patterns in use for an intent, in order. -/
def usablePatterns (catalog : Catalog) (id : String) : List Pattern :=
  (catalog.patternsAt id).filterMap fun place => place

/-- The place at an index, if it lies among the places; an index among them has to be whole. -/
def placeAt (places : List (Option Pattern)) (index : Value) : Except Fault (Option Pattern) :=
  match index.number? with
  | none => .error .unsuitable
  | some number =>
      if (Number.int 0).le number && number.lt (.int places.length) then
        match number with
        | .int place => .ok (places[place.toNat]?.join)
        | .real _ => .error .unsuitable
      else .ok none

/-- Every pattern in use with its intent, in catalog order. -/
def usablePairs (catalog : Catalog) : List (Intent × Pattern) :=
  catalog.definitions.flatMap fun entry =>
    (catalog.usablePatterns entry.1).map fun pattern => (entry.2, pattern)

def summary (catalog : Catalog) : List Value := catalog.intents.map (·.summary)

structure Stats where
  total : Nat
  withPatterns : Nat
  withParameters : Nat
  averagePatterns : Number
  averageParameters : Number
  unusablePatterns : Nat
  deriving DecidableEq, Repr

/-- The average of a sum over a number of parts; of no parts it is the integer zero. -/
def average (sum parts : Nat) : Number :=
  if parts = 0 then .int 0 else .real (.ofRatio false sum parts)

/-- The sum of a measure over a list. -/
def sumOf {α : Type} (measure : α → Nat) : List α → Nat
  | [] => 0
  | item :: rest => measure item + sumOf measure rest

def stats (catalog : Catalog) : Stats :=
  let intents := catalog.intents
  let total := intents.length
  { total
    withPatterns := intents.countP fun intent => !intent.patterns.isEmpty
    withParameters := intents.countP fun intent => !intent.parameters.isEmpty
    averagePatterns := average (sumOf (·.patterns.length) intents) total
    averageParameters := average (sumOf (·.parameters.length) intents) total
    unusablePatterns := sumOf (fun entry => entry.2.countP (·.isNone)) catalog.prepared }

def Stats.toValue (stats : Stats) : Value :=
  .record [("total", .int stats.total), ("with_patterns", .int stats.withPatterns),
    ("with_parameters", .int stats.withParameters),
    ("average_patterns", .number stats.averagePatterns),
    ("average_parameters", .number stats.averageParameters),
    ("invalid_patterns", .int stats.unusablePatterns)]

end Catalog

end Phrasebook
