import Phrasebook.Extraction
import Phrasebook.Slot.Coercion

/-!
# Parameters of a message

The parameters are the delivered values of the declared slots, in the order of their declaration,
and after them the captured texts without a declaration, trimmed.  A slot is declared under a text,
as a rule, but any single value may be its name.
-/

namespace Phrasebook

abbrev Schema := OrderedMap Key Slot

abbrev Parameters := OrderedMap Key Value

namespace Parameters

/-- Captured values by slot name, texts as a rule; null stands for no capture. -/
abbrev Raw := OrderedMap Key Value

def Raw.captured (raw : Raw) (name : Key) : Value := (OrderedMap.get? name raw).getD .null

def Raw.ofCaptures (captures : Captures) : Raw :=
  captures.map fun entry => (.text entry.1, .text entry.2)

def declared (raw : Raw) : Schema → Except Fault Parameters
  | [] => .ok []
  | (name, slot) :: rest => do
      let value ← slot.deliver (raw.captured name)
      let others ← declared raw rest
      match value with
      | some delivered => return (name, delivered) :: others
      | none => return others

def undeclared (schema : Schema) : Raw → Except Fault Parameters
  | [] => .ok []
  | (name, captured) :: rest =>
      if OrderedMap.hasKey name schema then undeclared schema rest
      else do
        let text ← captured.toText
        let others ← undeclared schema rest
        if isBlankText text then return others
        else return (name, .text (trimmed text)) :: others

/-- The parameters that captured texts amount to under a schema. -/
def ofRaw (raw : Raw) (schema : Schema) : Except Fault Parameters := do
  let known ← declared raw schema
  let others ← undeclared schema raw
  return known ++ others

def ofCaptures (captures : Captures) (schema : Schema) : Except Fault Parameters :=
  ofRaw (.ofCaptures captures) schema

/-- The parameters of a text read by the first of the patterns that accepts it. -/
def ofText (text : String) (patterns : List Pattern) (schema : Schema) :
    Except Fault Parameters :=
  ofCaptures (extractSlots text patterns) schema

end Parameters

end Phrasebook
