import Phrasebook.Catalog.Basic

/-!
# Ranking patterns by their words

A pattern coincides with a text when its literals occur in the folded text one after another.  Among
the coinciding patterns the one whose words are best covered by the text's tokens comes first, and
equally good ones stay in catalog order.
-/

namespace Phrasebook

structure Candidate where
  intentId : String
  pattern : String
  confidence : Real64
  deriving DecidableEq, Repr

namespace Ranking

/-- What follows the leftmost occurrence of a text in another. -/
def afterFirst? (part : List Char) : List Char → Option (List Char)
  | [] => if part.isEmpty then some [] else none
  | c :: rest =>
      if part.isPrefixOf (c :: rest) then some ((c :: rest).drop part.length)
      else afterFirst? part rest

/-- Whether the parts occur one after another, each behind the end of the one before it. -/
def occurInOrder : List (List Char) → List Char → Bool
  | [], _ => true
  | part :: parts, text =>
      match afterFirst? part text with
      | some rest => occurInOrder parts rest
      | none => false

/-- Whether a pattern has literals and they occur in order in a folded text. -/
def occursIn (folded : List Char) (pattern : Pattern) : Bool :=
  !pattern.literals.isEmpty && occurInOrder pattern.literals folded

def coincides (text : String) (pattern : Pattern) : Bool :=
  occursIn (Text.fold text.toList) pattern

/-- The share of words that are among the tokens; of no words it is zero. -/
def coverage (tokens words : List (List Char)) : Real64 :=
  if words.isEmpty then .zero
  else .ofRatio false (words.countP fun word => tokens.contains word) words.length

/-- The share of a pattern's words that a text has. -/
def score (text : String) (pattern : Pattern) : Real64 :=
  coverage (Text.tokens text.toList) pattern.literalWords

/-- The order of candidates: higher confidence first. -/
def ahead (left right : Candidate) : Bool :=
  !(Number.real left.confidence).lt (.real right.confidence)

/-- The coinciding patterns of a catalog, in its order. -/
def coinciding (text : String) (catalog : Catalog) : List Candidate :=
  let folded := Text.fold text.toList
  let tokens := Text.tokens text.toList
  (catalog.usablePairs.filter fun pair => occursIn folded pair.2).map fun pair =>
    { intentId := pair.1.id
      pattern := pair.2.source
      confidence := coverage tokens pair.2.literalWords }

/-- The coinciding patterns, best first; a blank text has none. -/
def candidates (text : String) (catalog : Catalog) : List Candidate :=
  if isBlankText text then [] else (coinciding text catalog).mergeSort ahead

/-- The best candidate, unless its confidence is below the minimum. -/
def best (text : String) (catalog : Catalog) (least : Value) : Except Fault (Option Candidate) :=
  match candidates text catalog with
  | [] => .ok none
  | first :: _ => do
      if ← (Value.real first.confidence).lessThan least then return none else return some first

end Ranking

end Phrasebook
