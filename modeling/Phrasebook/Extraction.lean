import Phrasebook.Template.Pattern

/-!
# Reading slot values from a text

The first pattern that accepts a text decides its slot values.  A value is the slot's share of the
text without outer blanks; of a slot that occurs twice the last share counts, and a share with
nothing but blanks leaves the slot without a value.
-/

namespace Phrasebook

/-- Slot names with the raw texts read for them, in order of first appearance. -/
abbrev Captures := List (String × String)

namespace Captures

/-- Gives `name` the value in its old place, or at the end if it has none yet. -/
def insert (name value : String) : Captures → Captures
  | [] => [(name, value)]
  | (other, old) :: rest =>
      if other = name then (name, value) :: rest else (other, old) :: insert name value rest

def erase (name : String) (captures : Captures) : Captures :=
  captures.filter fun entry => entry.1 != name

/-- One more share for a slot. -/
def record (captures : Captures) (name share : String) : Captures :=
  let value := trimmed share
  if value.isEmpty then captures.erase name else captures.insert name value

def ofShares (names shares : List String) : Captures :=
  (names.zip shares).foldl (fun captures entry => captures.record entry.1 entry.2) []

end Captures

/-- The first pattern that accepts a text, with the values it reads; a blank text has none. -/
def matchFirst? (text : String) (patterns : List Pattern) : Option (Pattern × Captures) :=
  if isBlankText text then none
  else
    patterns.findSome? fun pattern =>
      (pattern.captures? text).map fun shares =>
        (pattern, Captures.ofShares pattern.slotNames shares)

/-- The values read by the first accepting pattern, or none at all. -/
def extractSlots (text : String) (patterns : List Pattern) : Captures :=
  match matchFirst? text patterns with
  | some (_, captures) => captures
  | none => []

end Phrasebook
