import Mathlib
import Phrasebook.Catalog.Change
import Phrasebook.Proofs.Intent.Declared
import Phrasebook.Proofs.OrderedMap

/-!
# Runs of changes

A catalog starts from a list of intents and is changed by one call after another, whether or not the
calls succeed.  Each call writes the two maps of the catalog apart from each other; what holds
between them is one invariant, which every call preserves.
-/

namespace Phrasebook.Catalog

/-- A call that changes a catalog. -/
inductive Change where
  | add (intent : Intent.Declared)
  | update (id changes : Value)
  | remove (id : Value)

def Change.outcome (catalog : Catalog) : Change → Outcome
  | .add intent => catalog.add intent.1
  | .update id changes => catalog.updateDeclared id changes
  | .remove id => catalog.removeGiven id

/-- The catalog after calls in a row; one that fails does not stop the run. -/
def run (catalog : Catalog) (changes : List Change) : Catalog :=
  changes.foldl (fun catalog change => (change.outcome catalog).catalog) catalog

/-- The patterns that definitions call for. -/
def preparedFor (definitions : OrderedMap String Intent) :
    OrderedMap String (List (Option Pattern)) :=
  OrderedMap.mapValues (fun intent => prepare intent.patterns) definitions

/-- The two maps agree: every intent is declared and stands under its own id, and its patterns, made
ready place by place, under the same id in the same order. -/
structure Aligned (catalog : Catalog) : Prop where
  prepared : catalog.prepared = preparedFor catalog.definitions
  nodup : catalog.ids.Nodup
  keyed : ∀ entry ∈ catalog.definitions, entry.1 = entry.2.id
  declared : ∀ entry ∈ catalog.definitions, entry.2.IsDeclared

theorem aligned_empty : empty.Aligned := ⟨rfl, List.nodup_nil, nofun, nofun⟩

namespace Aligned

variable {catalog : Catalog}

theorem isId (haligned : catalog.Aligned) (entry : String × Intent)
    (hentry : entry ∈ catalog.definitions) : Intent.IsId entry.1 := by
  rw [haligned.keyed entry hentry]
  exact (haligned.declared entry hentry).isId

theorem write (haligned : catalog.Aligned) {intent : Intent} (hdeclared : intent.IsDeclared) :
    (catalog.write intent.id intent (prepare intent.patterns)).Aligned where
  prepared := by
    rw [Catalog.write, haligned.prepared]
    exact OrderedMap.insert_mapValues (fun intent : Intent => prepare intent.patterns) _ _ _
  nodup := OrderedMap.nodup_keys_insert haligned.nodup _ _
  keyed := fun entry hentry => by
    rcases OrderedMap.mem_of_mem_insert hentry with rfl | hentry
    · rfl
    · exact haligned.keyed entry hentry
  declared := fun entry hentry => by
    rcases OrderedMap.mem_of_mem_insert hentry with rfl | hentry
    · exact hdeclared
    · exact haligned.declared entry hentry

theorem insert (haligned : catalog.Aligned) {intent : Intent} (hdeclared : intent.IsDeclared)
    {changed : Catalog} (hinsert : catalog.insert intent = .ok changed) : changed.Aligned := by
  unfold Catalog.insert at hinsert
  split at hinsert
  · cases hinsert
  · cases hinsert
    exact haligned.write hdeclared

theorem find? (haligned : catalog.Aligned) {id : String} {intent : Intent}
    (hfind : catalog.find? id = some intent) : id = intent.id ∧ Intent.IsId id := by
  have hmem := OrderedMap.mem_of_get?_eq_some hfind
  exact ⟨haligned.keyed _ hmem, haligned.isId _ hmem⟩

theorem get?_prepared_of_find? (haligned : catalog.Aligned) {id : String} {intent : Intent}
    (hfind : catalog.find? id = some intent) :
    OrderedMap.get? id catalog.prepared = some (prepare intent.patterns) := by
  rw [Catalog.find?] at hfind
  rw [haligned.prepared, preparedFor, OrderedMap.get?_mapValues, hfind, Option.map_some]

/-- Patterns that an update takes over are those of the templates it leaves. -/
theorem revisedPatterns_eq (haligned : catalog.Aligned) {id : String} {existing updated : Intent}
    (hfind : catalog.find? id = some existing) :
    catalog.revisedPatterns id existing updated = .ok (prepare updated.patterns) := by
  unfold revisedPatterns
  split
  · rename_i hsame
    rw [haligned.get?_prepared_of_find? hfind, hsame]
  · rfl

theorem isDeclared_of_find? (haligned : catalog.Aligned) {id : String} {intent : Intent}
    (hfind : catalog.find? id = some intent) : intent.IsDeclared :=
  haligned.declared _ (OrderedMap.mem_of_get?_eq_some hfind)

/-- A revised intent has the id that it had, and is declared. -/
theorem id_of_revised (haligned : catalog.Aligned) {id : String} {existing updated : Intent}
    (hfind : catalog.find? id = some existing) {changes : List (Key × Value)}
    (hrevised : revised id existing changes = .ok updated) :
    updated.id = id ∧ updated.IsDeclared := by
  obtain ⟨entries, -, hread⟩ := bind_eq_ok_iff.mp hrevised
  exact ⟨(haligned.find? hfind).2.eq_of_readId (Intent.readId_of_ofEntries hread),
    Intent.isDeclared_of_ofEntries hread⟩

/-- A change is made if the revised declaration can be read, and leaves the catalog as it is if
not. -/
theorem update_eq (haligned : catalog.Aligned) {id : String} {existing : Intent}
    (hfind : catalog.find? id = some existing) (changes : List (Key × Value)) :
    catalog.update id changes =
      match revised id existing (withShortNames changes) with
      | .ok updated =>
          { answer :=
              if Key.sortable (OrderedMap.keys (withShortNames changes)) then .ok updated
              else .error .unsuitable
            catalog := catalog.write id updated (prepare updated.patterns) }
      | .error fault => ⟨.error fault, catalog⟩ := by
  simp only [Catalog.update, hfind, Catalog.revise]
  cases revised id existing (withShortNames changes) with
  | error fault => rfl
  | ok updated =>
      simp only [haligned.revisedPatterns_eq hfind]
      rfl

theorem update (haligned : catalog.Aligned) (id : String) (changes : List (Key × Value)) :
    (catalog.update id changes).catalog.Aligned := by
  cases hfind : catalog.find? id with
  | none => rwa [Catalog.update, hfind]
  | some existing =>
      rw [haligned.update_eq hfind]
      cases hrevised : revised id existing (withShortNames changes) with
      | error fault => exact haligned
      | ok updated =>
          obtain ⟨rfl, hdeclared⟩ := haligned.id_of_revised hfind hrevised
          exact haligned.write hdeclared

theorem remove (haligned : catalog.Aligned) (id : String) :
    (catalog.remove id).catalog.Aligned := by
  unfold Catalog.remove
  split
  · exact haligned
  · refine ⟨?_, ?_, ?_, ?_⟩
    · dsimp only
      rw [haligned.prepared, preparedFor, OrderedMap.erase_mapValues, preparedFor]
    · rw [ids, OrderedMap.keys_erase]
      exact haligned.nodup.filter _
    · exact fun entry hentry => haligned.keyed entry (List.mem_of_mem_filter hentry)
    · exact fun entry hentry => haligned.declared entry (List.mem_of_mem_filter hentry)

theorem changeOf (haligned : catalog.Aligned) (id : Value) {change : String → Outcome}
    (hchange : ∀ id, (change id).catalog.Aligned) :
    (catalog.changeOf id change).catalog.Aligned := by
  unfold Catalog.changeOf
  split
  · exact haligned
  · exact haligned
  · exact hchange _

theorem outcome (haligned : catalog.Aligned) (change : Change) :
    (change.outcome catalog).catalog.Aligned := by
  cases change with
  | add intent =>
      rw [Change.outcome, add]
      split
      · rename_i changed hinsert
        exact haligned.insert intent.2 hinsert
      · exact haligned
  | update id changes =>
      refine haligned.changeOf id fun id => ?_
      split
      · exact haligned.update id _
      · exact haligned
      · exact haligned
  | remove id => exact haligned.changeOf id haligned.remove

theorem run (haligned : catalog.Aligned) (changes : List Change) :
    (catalog.run changes).Aligned := by
  induction changes generalizing catalog with
  | nil => exact haligned
  | cons change changes ih => exact ih (haligned.outcome change)

end Aligned

theorem aligned_of_ofIntents {initial : List Intent.Declared} {start : Catalog}
    (hstart : ofIntents (initial.map Subtype.val) = .ok start) : start.Aligned := by
  have hfold : ∀ (initial : List Intent.Declared) {catalog : Catalog}, catalog.Aligned →
      (initial.map Subtype.val).foldlM Catalog.insert catalog = .ok start → start.Aligned := by
    intro initial
    induction initial with
    | nil =>
        intro catalog haligned hfold
        cases hfold
        exact haligned
    | cons intent initial ih =>
        intro catalog haligned hfold
        obtain ⟨changed, hinsert, hrest⟩ := bind_eq_ok_iff.mp hfold
        exact ih (haligned.insert intent.2 hinsert) hrest
  exact hfold initial aligned_empty hstart

/-- The catalogs that a program can have: those that runs of changes lead to. -/
def Reachable (catalog : Catalog) : Prop :=
  ∃ (initial : List Intent.Declared) (start : Catalog) (changes : List Change),
    ofIntents (initial.map Subtype.val) = .ok start ∧ start.run changes = catalog

theorem reachable_of_ofDeclarations {declarations : List (Value × Value)} {catalog : Catalog}
    (hcatalog : ofDeclarations declarations = .ok catalog) : catalog.Reachable := by
  have hfold : ∀ {before : Catalog}, declarations.foldlM (fun catalog declaration => do
        catalog.insert (← Intent.ofValue declaration.1 declaration.2)) before = .ok catalog →
      ∃ initial : List Intent.Declared,
        (initial.map Subtype.val).foldlM Catalog.insert before = .ok catalog := by
    clear hcatalog
    induction declarations with
    | nil => exact fun hfold => ⟨[], hfold⟩
    | cons declaration declarations ih =>
        intro before hfold
        obtain ⟨changed, hchanged, hrest⟩ := bind_eq_ok_iff.mp hfold
        obtain ⟨intent, hintent, hinsert⟩ := bind_eq_ok_iff.mp hchanged
        obtain ⟨initial, hinitial⟩ := ih hrest
        exact ⟨⟨intent, Intent.isDeclared_of_ofValue hintent⟩ :: initial,
          bind_eq_ok_iff.mpr ⟨changed, hinsert, hinitial⟩⟩
  obtain ⟨initial, hinitial⟩ := hfold hcatalog
  exact ⟨initial, catalog, [], hinitial, rfl⟩

theorem Reachable.aligned {catalog : Catalog} (hreachable : catalog.Reachable) :
    catalog.Aligned := by
  obtain ⟨initial, start, changes, hstart, rfl⟩ := hreachable
  exact (aligned_of_ofIntents hstart).run changes

end Phrasebook.Catalog
