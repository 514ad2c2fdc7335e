import Mathlib
import Phrasebook.Proofs.Catalog.Run
import Phrasebook.Proofs.Intent.Faults

/-!
# Failed changes

A call that fails leaves the catalog as it was, with one exception.  An update is made before it is
reported, and the report puts the names of the changes in order; where they have none, the call
fails although the intent has been changed.
-/

namespace Phrasebook.Catalog

variable {catalog : Catalog}

/-- An update that is made although the call fails: the declaration with the changes is another
intent, and the names of the changes have no order. -/
def IsHalfDone (catalog : Catalog) : Change → Prop
  | .update id changes => ∃ text entries existing updated,
      idOf id = .ok (some text) ∧ changes.toEntries = .ok entries ∧
        catalog.find? text = some existing ∧
        revised text existing (withShortNames entries) = .ok updated ∧ updated ≠ existing ∧
          Key.sortable (OrderedMap.keys (withShortNames entries)) = false
  | _ => False

/-- The fault that says of the id of a change that it is taken, or missing. -/
def Change.refusal : Change → Fault
  | .add intent => .invalid (.intentExists intent.1.id)
  | .update id _ | .remove id => .invalid (.intentMissing id.written)

/-- The id of a new intent is taken, or that of a change names no intent. -/
def Refuses (catalog : Catalog) : Change → Prop
  | .add intent => intent.1.id ∈ catalog.ids
  | .update id _ | .remove id => ∃ named, idOf id = .ok named ∧ ∀ text ∈ named, text ∉ catalog.ids

theorem find?_eq_none_iff {id : String} : catalog.find? id = none ↔ id ∉ catalog.ids :=
  OrderedMap.get?_eq_none_iff

theorem exists_find?_of_mem {id : String} (hid : id ∈ catalog.ids) :
    ∃ intent, catalog.find? id = some intent :=
  Option.ne_none_iff_exists'.mp (mt find?_eq_none_iff.mp (not_not.mpr hid))

theorem mem_ids_of_find? {id : String} {intent : Intent}
    (hfind : catalog.find? id = some intent) : id ∈ catalog.ids := by
  by_contra hid
  exact absurd ((find?_eq_none_iff.mpr hid).symm.trans hfind) nofun

/-- Writing an intent changes the catalog unless it is the intent that stands there. -/
theorem Aligned.write_eq_self_iff (haligned : catalog.Aligned) {id : String}
    {existing updated : Intent} (hfind : catalog.find? id = some existing) :
    catalog.write id updated (prepare updated.patterns) = catalog ↔ updated = existing := by
  constructor
  · intro hwrite
    have hget := OrderedMap.get?_insert id id updated catalog.definitions
    have hdefinitions : OrderedMap.insert id updated catalog.definitions = catalog.definitions :=
      congrArg Catalog.definitions hwrite
    rw [hdefinitions, ← Catalog.find?, hfind] at hget
    simpa using hget.symm
  · rintro rfl
    rw [Catalog.write, OrderedMap.insert_eq_self hfind,
      OrderedMap.insert_eq_self (haligned.get?_prepared_of_find? hfind)]

/-! ## What each call can do -/

theorem add_of_mem {intent : Intent} (hid : intent.id ∈ catalog.ids) :
    catalog.add intent = ⟨invalid (.intentExists intent.id), catalog⟩ := by
  rw [add, insert, has, OrderedMap.hasKey_eq_true_iff.mpr hid]
  rfl

theorem add_eq_of_not_mem {intent : Intent} (hid : intent.id ∉ catalog.ids) :
    catalog.add intent =
      ⟨.ok intent, catalog.write intent.id intent (prepare intent.patterns)⟩ := by
  rw [add, insert, has, OrderedMap.hasKey_eq_false_iff.mpr hid]
  rfl

theorem add_of_not_mem {intent : Intent} (hid : intent.id ∉ catalog.ids) :
    (catalog.add intent).answer = .ok intent := by
  rw [add_eq_of_not_mem hid]

theorem remove_of_not_mem {id : String} (hid : id ∉ catalog.ids) :
    catalog.remove id = ⟨invalid (.intentMissing id), catalog⟩ := by
  rw [remove, find?_eq_none_iff.mpr hid]

theorem remove_of_mem {id : String} (hid : id ∈ catalog.ids) :
    ∃ removed, (catalog.remove id).answer = .ok removed := by
  obtain ⟨existing, hfind⟩ := exists_find?_of_mem hid
  exact ⟨existing, by rw [remove, hfind]⟩

theorem update_of_not_mem {id : String} (hid : id ∉ catalog.ids) (changes : Value) :
    catalog.updateDeclared (.text id) changes = ⟨invalid (.intentMissing id), catalog⟩ := by
  rw [updateDeclared, Catalog.changeOf, idOf]
  simp only [has, OrderedMap.hasKey_eq_false_iff.mpr hid]

/-- An update of a known intent fails without a trace, for a reason other than an id, or is made. -/
theorem Aligned.update_of_find? (haligned : catalog.Aligned) {id : String} {existing : Intent}
    (hfind : catalog.find? id = some existing) (changes : Value) :
    (∃ fault, fault.IsApart ∧
        catalog.updateDeclared (.text id) changes = ⟨.error fault, catalog⟩ ∧
        ∀ entries, changes.toEntries = .ok entries →
          ∀ updated, revised id existing (withShortNames entries) ≠ .ok updated) ∨
      ∃ entries updated, changes.toEntries = .ok entries ∧
        revised id existing (withShortNames entries) = .ok updated ∧
        catalog.updateDeclared (.text id) changes =
          { answer :=
              if Key.sortable (OrderedMap.keys (withShortNames entries)) then .ok updated
              else .error .unsuitable
            catalog := catalog.write id updated (prepare updated.patterns) } := by
  have hhas : catalog.has id = true :=
    OrderedMap.hasKey_eq_true_iff.mpr (mem_ids_of_find? hfind)
  rw [updateDeclared, Catalog.changeOf, idOf]
  simp only [hhas]
  cases hentries : changes.toEntries with
  | error fault =>
      exact .inl ⟨fault, changes.failsOnly_toEntries fault hentries, rfl, nofun⟩
  | ok entries =>
      have houtcome := haligned.update_eq hfind entries
      cases hrevised : revised id existing (withShortNames entries) with
      | error fault =>
          rw [hrevised] at houtcome
          refine .inl ⟨fault, ?_, houtcome, ?_⟩
          · refine FailsOnly.bind ?_ (fun _ _ => Intent.failsOnly_ofEntries _ _) fault hrevised
            exact Value.failsOnly_toEntries _
          · rintro _ ⟨⟩ updated hupdated
            exact absurd (hrevised.symm.trans hupdated) nofun
      | ok updated =>
          rw [hrevised] at houtcome
          exact .inr ⟨entries, updated, rfl, hrevised, houtcome⟩

/-- A call for an id that is not a text does nothing; it says that the intent is missing if the id
could be a key at all. -/
theorem changeOf_cases (catalog : Catalog) (id : Value) :
    (∃ text, id = .text text) ∨
      (∀ text, idOf id ≠ .ok (some text)) ∧ ∃ fault,
        (fault = .invalid (.intentMissing id.written) ↔ idOf id = .ok none) ∧
          ∀ change, catalog.changeOf id change = ⟨.error fault, catalog⟩ := by
  cases id with
  | text text => exact .inl ⟨text, rfl⟩
  | list items => exact .inr ⟨nofun, .unsuitable, by simp [idOf], fun _ => rfl⟩
  | mapping entries => exact .inr ⟨nofun, .unsuitable, by simp [idOf], fun _ => rfl⟩
  | null => exact .inr ⟨nofun, _, by simp [idOf], fun _ => rfl⟩
  | bool value => exact .inr ⟨nofun, _, by simp [idOf], fun _ => rfl⟩
  | number value => exact .inr ⟨nofun, _, by simp [idOf], fun _ => rfl⟩

theorem changeOf_text (catalog : Catalog) (text : String) (change : String → Outcome) :
    catalog.changeOf (.text text) change = change text := rfl

/-! ## Failed calls -/

/-- A failed call has left the catalog as it was. -/
def LeavesOnFailure (catalog : Catalog) (outcome : Outcome) : Prop :=
  ∀ fault, outcome.answer = .error fault → outcome.catalog = catalog

theorem leavesOnFailure_error (fault : Fault) : catalog.LeavesOnFailure ⟨.error fault, catalog⟩ :=
  fun _ _ => rfl

theorem Aligned.leavesOnFailure_update_iff (haligned : catalog.Aligned) (id : String)
    (changes : Value) :
    catalog.LeavesOnFailure (catalog.updateDeclared (.text id) changes) ↔
      ¬ catalog.IsHalfDone (.update (.text id) changes) := by
  cases hfind : catalog.find? id with
  | none =>
      rw [update_of_not_mem (find?_eq_none_iff.mp hfind)]
      refine iff_of_true (leavesOnFailure_error _) ?_
      rintro ⟨_, -, existing, -, ⟨⟩, -, hexisting, -⟩
      exact absurd (hfind.symm.trans hexisting) nofun
  | some existing =>
      rcases haligned.update_of_find? hfind changes with
        ⟨fault, -, houtcome, hrevised⟩ | ⟨entries, updated, hentries, hrevised, houtcome⟩
      · rw [houtcome]
        refine iff_of_true (leavesOnFailure_error fault) ?_
        rintro ⟨_, entries, other, updated, ⟨⟩, hentries, hother, hupdated, -⟩
        cases hfind.symm.trans hother
        exact hrevised entries hentries updated hupdated
      · have hhalf : catalog.IsHalfDone (.update (.text id) changes) ↔ updated ≠ existing ∧
            Key.sortable (OrderedMap.keys (withShortNames entries)) = false := by
          constructor
          · rintro ⟨_, other, found, revised, ⟨⟩, hother, hfound, hsame, hhalf⟩
            cases hentries.symm.trans hother
            cases hfind.symm.trans hfound
            cases hrevised.symm.trans hsame
            exact hhalf
          · exact fun hhalf =>
              ⟨id, entries, existing, updated, rfl, hentries, hfind, hrevised, hhalf⟩
        rw [houtcome, hhalf, LeavesOnFailure]
        simp only [haligned.write_eq_self_iff hfind]
        cases Key.sortable (OrderedMap.keys (withShortNames entries)) <;> simp

theorem Aligned.refused_update_iff (haligned : catalog.Aligned) (id : String) (changes : Value) :
    (catalog.updateDeclared (.text id) changes).answer = .error (.invalid (.intentMissing id)) ↔
      id ∉ catalog.ids := by
  constructor
  · intro hanswer hid
    obtain ⟨existing, hfind⟩ := exists_find?_of_mem hid
    rcases haligned.update_of_find? hfind changes with
      ⟨fault, hfault, houtcome, -⟩ | ⟨entries, updated, -, -, houtcome⟩
    · rw [houtcome] at hanswer
      cases hanswer
      exact hfault
    · rw [houtcome] at hanswer
      dsimp only at hanswer
      split at hanswer <;> cases hanswer
  · intro hid
    rw [update_of_not_mem hid]
    rfl

theorem refused_remove_iff (id : String) :
    (catalog.remove id).answer = .error (.invalid (.intentMissing id)) ↔ id ∉ catalog.ids := by
  constructor
  · intro hanswer hid
    obtain ⟨removed, hremoved⟩ := remove_of_mem hid
    exact absurd (hanswer.symm.trans hremoved) nofun
  · intro hid
    rw [remove_of_not_mem hid]
    rfl

theorem Aligned.leavesOnFailure_iff (haligned : catalog.Aligned) (change : Change) :
    catalog.LeavesOnFailure (change.outcome catalog) ↔ ¬ catalog.IsHalfDone change := by
  cases change with
  | add intent =>
      refine iff_of_true ?_ not_false
      rw [Change.outcome]
      by_cases hid : intent.1.id ∈ catalog.ids
      · rw [add_of_mem hid]
        exact leavesOnFailure_error _
      · intro fault hfault
        cases (add_of_not_mem hid).symm.trans hfault
  | update id changes =>
      rcases catalog.changeOf_cases id with ⟨text, rfl⟩ | ⟨hid, fault, -, houtcome⟩
      · exact haligned.leavesOnFailure_update_iff text changes
      · rw [Change.outcome, updateDeclared, houtcome]
        refine iff_of_true (leavesOnFailure_error fault) ?_
        rintro ⟨text, -, -, -, htext, -⟩
        exact hid text htext
  | remove id =>
      refine iff_of_true ?_ not_false
      rw [Change.outcome, removeGiven]
      rcases catalog.changeOf_cases id with ⟨text, rfl⟩ | ⟨-, fault, -, houtcome⟩
      · rw [changeOf_text]
        by_cases hid : text ∈ catalog.ids
        · obtain ⟨removed, hanswer⟩ := remove_of_mem hid
          intro fault hfault
          cases hanswer.symm.trans hfault
        · rw [remove_of_not_mem hid]
          exact leavesOnFailure_error _
      · rw [houtcome]
        exact leavesOnFailure_error fault

theorem Aligned.refused_iff (haligned : catalog.Aligned) (change : Change) :
    (change.outcome catalog).answer = .error change.refusal ↔ catalog.Refuses change := by
  -- An id that is not a text is refused if it could be a key.
  have hnamed : ∀ {id : Value}, (∀ text, idOf id ≠ .ok (some text)) →
      ((∃ named, idOf id = .ok named ∧ ∀ text ∈ named, text ∉ catalog.ids) ↔
        idOf id = .ok none) := by
    intro id hid
    constructor
    · rintro ⟨_ | text, hnamed, -⟩
      · exact hnamed
      · exact absurd hnamed (hid text)
    · exact fun hnone => ⟨none, hnone, nofun⟩
  cases change with
  | add intent =>
      constructor
      · intro hanswer
        by_contra hid
        exact absurd (hanswer.symm.trans (add_of_not_mem hid)) nofun
      · intro hid
        rw [Change.outcome, add_of_mem hid]
        rfl
  | update id changes =>
      rw [Refuses, Change.refusal, Change.outcome]
      rcases catalog.changeOf_cases id with ⟨text, rfl⟩ | ⟨hid, fault, hfault, houtcome⟩
      · simpa [idOf, Value.written] using haligned.refused_update_iff text changes
      · rw [hnamed hid, updateDeclared, houtcome, Except.error.injEq, hfault]
  | remove id =>
      rw [Refuses, Change.refusal, Change.outcome, removeGiven]
      rcases catalog.changeOf_cases id with ⟨text, rfl⟩ | ⟨hid, fault, hfault, houtcome⟩
      · simpa [idOf, Value.written, changeOf_text] using refused_remove_iff text
      · rw [hnamed hid, houtcome, Except.error.injEq, hfault]

/-- A catalog with one intent. -/
def greeting : Catalog :=
  let intent := Intent.ofTemplates "SALUDO" ["hola"]
  empty.write intent.id intent (prepare intent.patterns)

theorem reachable_greeting : greeting.Reachable :=
  ⟨[⟨Intent.ofTemplates "SALUDO" ["hola"],
      Intent.isDeclared_ofTemplates ⟨by decide, by decide⟩ (by decide) (by decide)⟩],
    greeting, [], rfl, rfl⟩

/-- A new name along with a change whose own name is a number. -/
def renamed : Change :=
  .update (.text "SALUDO")
    (.mapping [(.number (.int 1), .text "x"), (.text "name", .text "Bienvenida")])

theorem isHalfDone_renamed : greeting.IsHalfDone renamed :=
  ⟨"SALUDO", _, Intent.ofTemplates "SALUDO" ["hola"],
    { Intent.ofTemplates "SALUDO" ["hola"] with name := "Bienvenida" }, rfl, rfl, by decide +kernel,
    by decide +kernel, by decide +kernel, by decide⟩

end Phrasebook.Catalog
