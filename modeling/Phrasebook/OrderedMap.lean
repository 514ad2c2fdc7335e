/-!
# Maps that keep their order

A map is a list of entries in the order in which their keys first came.  Writing under a key that is
present keeps its place.
-/

namespace Phrasebook

abbrev OrderedMap (κ : Type) (α : Type) := List (κ × α)

namespace OrderedMap

variable {κ α : Type} [BEq κ]

def get? (key : κ) : OrderedMap κ α → Option α
  | [] => none
  | (other, value) :: rest => if other == key then some value else get? key rest

/-- Writes in the old place of the key, or at the end if it has none. -/
def insert (key : κ) (value : α) : OrderedMap κ α → OrderedMap κ α
  | [] => [(key, value)]
  | (other, old) :: rest =>
      if other == key then (other, value) :: rest else (other, old) :: insert key value rest

def erase (key : κ) (entries : OrderedMap κ α) : OrderedMap κ α :=
  entries.filter fun entry => !(entry.1 == key)

def keys (entries : OrderedMap κ α) : List κ := entries.map (·.1)

def hasKey (key : κ) (entries : OrderedMap κ α) : Bool := entries.any fun entry => entry.1 == key

/-- Writes the entries of `changes` one after another. -/
def merge (entries changes : OrderedMap κ α) : OrderedMap κ α :=
  changes.foldl (fun written change => insert change.1 change.2 written) entries

/-- The map that writing the entries in order makes: last value, first place. -/
def ofList (entries : List (κ × α)) : OrderedMap κ α := merge [] entries

end OrderedMap

end Phrasebook
