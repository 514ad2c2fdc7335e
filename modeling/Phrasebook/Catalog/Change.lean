import Phrasebook.Catalog.Basic

/-!
# Changing a catalog

Intents are added at the end, updated in place and removed.  A change makes ready only the templates
of the intent that it concerns, and not even those when an update leaves them as they are.
-/

namespace Phrasebook.Catalog

/-- How a change ended: what it returned, and the catalog afterwards. -/
structure Outcome where
  answer : Except Fault Intent
  catalog : Catalog

/-- The catalog with a definition and its patterns under an id. -/
def write (catalog : Catalog) (id : String) (intent : Intent) (patterns : List (Option Pattern)) :
    Catalog where
  definitions := OrderedMap.insert id intent catalog.definitions
  prepared := OrderedMap.insert id patterns catalog.prepared

/-- The catalog with one more intent; ids are not repeated. -/
def insert (catalog : Catalog) (intent : Intent) : Except Fault Catalog :=
  if catalog.has intent.id then invalid (.intentExists intent.id)
  else .ok (catalog.write intent.id intent (prepare intent.patterns))

def add (catalog : Catalog) (intent : Intent) : Outcome :=
  match catalog.insert intent with
  | .ok changed => ⟨.ok intent, changed⟩
  | .error fault => ⟨.error fault, catalog⟩

/-- Reads an intent and adds it. -/
def addDeclared (catalog : Catalog) (id data : Value) : Outcome :=
  match Intent.ofValue id data with
  | .ok intent => catalog.add intent
  | .error fault => ⟨.error fault, catalog⟩

/-- Changes name the threshold as declarations do, by either name; the longer one prevails. -/
def withShortNames (changes : List (Key × Value)) : List (Key × Value) :=
  match Value.field? "confidence_threshold" changes with
  | some threshold =>
      OrderedMap.insert (.text "confidence") threshold
        (OrderedMap.erase (.text "confidence_threshold") changes)
  | none => changes

/-- The intent under an id, whose declaration has the changes written over it. -/
def revised (id : String) (existing : Intent) (changes : List (Key × Value)) :
    Except Fault Intent := do
  Intent.ofEntries (.text id) (OrderedMap.merge (← existing.toValue.toEntries) changes)

/-- The patterns of a revised intent; those of unchanged templates are taken over. -/
def revisedPatterns (catalog : Catalog) (id : String) (existing updated : Intent) :
    Except Fault (List (Option Pattern)) :=
  if updated.patterns = existing.patterns then
    match OrderedMap.get? id catalog.prepared with
    | some patterns => .ok patterns
    | none => .error .lacking
  else .ok (prepare updated.patterns)

/-- The revised intent under an id and the catalog with it. -/
def revise (catalog : Catalog) (id : String) (existing : Intent) (changes : List (Key × Value)) :
    Except Fault (Intent × Catalog) := do
  let updated ← revised id existing changes
  let patterns ← catalog.revisedPatterns id existing updated
  return (updated, catalog.write id updated patterns)

/-- Writes changes over an intent.  A change is reported with its names in order: where they have
none, the call fails although the change has been made. -/
def update (catalog : Catalog) (id : String) (changes : List (Key × Value)) : Outcome :=
  match catalog.find? id with
  | none => ⟨invalid (.intentMissing id), catalog⟩
  | some existing =>
      let named := withShortNames changes
      match catalog.revise id existing named with
      | .error fault => ⟨.error fault, catalog⟩
      | .ok (updated, changed) =>
          { answer :=
              if Key.sortable (OrderedMap.keys named) then .ok updated else .error .unsuitable
            catalog := changed }

/-- A change to the intent of an id that may be any value. -/
def changeOf (catalog : Catalog) (id : Value) (change : String → Outcome) : Outcome :=
  match idOf id with
  | .error fault => ⟨.error fault, catalog⟩
  | .ok none => ⟨invalid (.intentMissing id.written), catalog⟩
  | .ok (some text) => change text

/-- Reads changes and writes them over an intent. -/
def updateDeclared (catalog : Catalog) (id changes : Value) : Outcome :=
  catalog.changeOf id fun id =>
    match catalog.has id, changes.toEntries with
    | true, .ok entries => catalog.update id entries
    | true, .error fault => ⟨.error fault, catalog⟩
    | false, _ => ⟨invalid (.intentMissing id), catalog⟩

def remove (catalog : Catalog) (id : String) : Outcome :=
  match catalog.find? id with
  | none => ⟨invalid (.intentMissing id), catalog⟩
  | some existing =>
      { answer := .ok existing
        catalog :=
          { definitions := OrderedMap.erase id catalog.definitions
            prepared := OrderedMap.erase id catalog.prepared } }

/-- Removes the intent of an id that may be any value. -/
def removeGiven (catalog : Catalog) (id : Value) : Outcome :=
  catalog.changeOf id catalog.remove

/-- The catalog of a list of intents. -/
def ofIntents (intents : List Intent) : Except Fault Catalog := intents.foldlM insert empty

/-- The catalog of declarations with their ids, read one after another. -/
def ofDeclarations (declarations : List (Value × Value)) : Except Fault Catalog :=
  declarations.foldlM
    (fun catalog declaration => do
      catalog.insert (← Intent.ofValue declaration.1 declaration.2))
    empty

/-- The catalog of a mapping from ids to declarations. -/
def ofMapping (entries : List (Key × Value)) : Except Fault Catalog :=
  ofDeclarations (entries.map fun entry => (.ofKey entry.1, entry.2))

end Phrasebook.Catalog
