import Phrasebook.JsonText.Token

/-!
# Reading JSON

The text of one value, with space around it.  Of entries with the same name the last one counts, in
the place of the first.  Containers may stand inside each other only so far.
-/

namespace Phrasebook.JsonText

mutual

/-- One value.  The fuel bounds the number of nested and neighbouring values, and `room` is how many
containers may still be opened inside each other. -/
def readValue : (fuel room : Nat) → Place → Except Refusal (Value × Place)
  | 0, _, place => refuse .noValue place.position
  | fuel + 1, room, place =>
      match place.rest with
      | [] => refuse .noValue place.position
      | c :: rest =>
          let inner := (Place.mk (place.position + 1) rest).skip
          if c = Text.doubleQuote then do
            let (characters, after) ← readString place.position (place.position + 1) rest
            return (.text (String.ofList characters), after)
          else if c = '\x7b' then
            if room = 0 then .error (.tooDeep .mapping)
            else
              match inner.rest with
              | '\x7d' :: others => .ok (.mapping [], ⟨inner.position + 1, others⟩)
              | _ => do
                  let (entries, after) ← readEntries fuel (room - 1) [] inner
                  return (.mapping entries, after)
          else if c = '[' then
            if room = 0 then .error (.tooDeep .list)
            else
              match inner.rest with
              | ']' :: others => .ok (.list [], ⟨inner.position + 1, others⟩)
              | _ => do
                  let (items, after) ← readItems fuel (room - 1) inner
                  return (.list items, after)
          else
            match readWord? place with
            | some found => .ok found
            | none => readNumber place

/-- The entries of a mapping up to its closing brace, after those already read. -/
def readEntries : (fuel room : Nat) → List (Key × Value) → Place →
    Except Refusal (List (Key × Value) × Place)
  | 0, _, _, place => refuse .noName place.position
  | fuel + 1, room, written, place =>
      match place.rest with
      | c :: rest =>
          if c = Text.doubleQuote then do
            let (name, afterName) ← readString place.position (place.position + 1) rest
            let colon := afterName.skip
            match colon.rest with
            | ':' :: others =>
                let (value, afterValue) ←
                  readValue fuel room (Place.mk (colon.position + 1) others).skip
                let entries := OrderedMap.insert (.text (String.ofList name)) value written
                let next := afterValue.skip
                match next.rest with
                | '\x7d' :: others => .ok (entries, ⟨next.position + 1, others⟩)
                | ',' :: others =>
                    readEntries fuel room entries (Place.mk (next.position + 1) others).skip
                | _ => refuse .noComma next.position
            | _ => refuse .noColon colon.position
          else refuse .noName place.position
      | [] => refuse .noName place.position

/-- The items of a list up to its closing bracket. -/
def readItems : (fuel room : Nat) → Place → Except Refusal (List Value × Place)
  | 0, _, place => refuse .noValue place.position
  | fuel + 1, room, place => do
      let (value, afterValue) ← readValue fuel room place
      let next := afterValue.skip
      match next.rest with
      | ']' :: others => .ok ([value], ⟨next.position + 1, others⟩)
      | ',' :: others => do
          let (items, after) ← readItems fuel room (Place.mk (next.position + 1) others).skip
          return (value :: items, after)
      | _ => refuse .noComma next.position

end

/-- Every value takes a character, and every item stands for itself and for its value. -/
def enoughFuel (text : List Char) : Nat := 2 * text.length + 2

/-- How many containers a reader opens inside each other.  Its stack holds a thousand calls, some of
which are those that led to the reader. -/
def deepest : Nat := 990

/-- The value that a text writes. -/
def read (text : List Char) : Except Refusal Value := do
  let (value, after) ← readValue (enoughFuel text) deepest (skipFrom 0 text)
  let rest := after.skip
  if rest.rest.isEmpty then return value else refuse .extraData rest.position

end Phrasebook.JsonText
