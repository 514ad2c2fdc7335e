import Mathlib
import Phrasebook.Proofs.Intent.Breaks
import Phrasebook.Proofs.Intent.Faults
import Phrasebook.Proofs.Intent.Reread
import Phrasebook.Proofs.Service.Entries

/-!
# Which changes of the catalog crash

A request for a change answers with the rule that its declaration breaks, if it breaks one.  A value
of a wrong kind is no broken rule: it ends in an internal error, before anything has changed.
-/

namespace Phrasebook

namespace Service

variable {service : Service}

/-- The declaration of an intent with the changes of a body written over it. -/
def revision (existing : Intent) (changes : List (Key × Value)) : List (Key × Value) :=
  OrderedMap.merge existing.declared
    (Catalog.withShortNames (OrderedMap.erase (.text "id") changes))

theorem revised_eq (id : String) (existing : Intent) (changes : List (Key × Value)) :
    Catalog.revised id existing
        (Catalog.withShortNames (OrderedMap.erase (.text "id") changes)) =
      Intent.ofEntries (.text id) (revision existing changes) := rfl

section

variable {status : Nat} {answered : Intent → Value} {fault : Fault}

theorem status_changeResponse_of_isRule (hrule : fault.IsRule) (hapart : fault.IsApart) :
    (changeResponse status answered (.error fault)).status = 422 := by
  cases fault with
  | invalid cause => cases cause <;> first | rfl | exact absurd hapart id
  | _ => exact absurd hrule id

theorem status_changeResponse_of_not_isRule (hcrash : ¬ fault.IsRule) :
    (changeResponse status answered (.error fault)).status = 500 := by
  cases fault with
  | invalid cause => exact absurd trivial hcrash
  | _ => rfl

/-- The fault of a declaration is answered by whether it is a crash. -/
theorem status_changeResponse_of_unread {id : Value} {data : List (Key × Value)}
    (hread : Intent.ofEntries id data = .error fault) :
    (Crashes (.error fault : Except Fault Intent) →
        (changeResponse status answered (.error fault)).status = 500) ∧
      (¬ Crashes (.error fault : Except Fault Intent) →
        (changeResponse status answered (.error fault)).status = 422) := by
  rw [crashes_error_iff, not_not]
  exact ⟨status_changeResponse_of_not_isRule, fun hrule =>
    status_changeResponse_of_isRule hrule (Intent.failsOnly_ofEntries _ _ fault hread)⟩

end

/-! ## New intents -/

theorem both_eq_ok_iff {α β γ : Type} {combine : α → β → γ} {left : Checked α} {right : Checked β}
    {result : γ} :
    both combine left right = .ok result ↔
      ∃ first second, left = .ok first ∧ right = .ok second ∧ combine first second = result := by
  cases left <;> cases right <;> simp [both]

/-- A body of the right shape has an id, and it is a text. -/
theorem exists_id_of_readParts {value : Value} {parts : List (String × Value)}
    (hread : readParts intentParts value = .ok parts) :
    ∃ id, OrderedMap.get? "id" parts = some (.text id) := by
  cases value with
  | mapping entries =>
      obtain ⟨first, rest, hfirst, -, rfl⟩ := both_eq_ok_iff.mp hread
      unfold Part.read at hfirst
      dsimp only at hfirst
      cases hfield : Value.field? "id" entries with
      | none =>
          rw [hfield] at hfirst
          cases hfirst
      | some given =>
          rw [hfield] at hfirst
          cases given with
          | text id =>
              cases hfirst
              exact ⟨id, rfl⟩
          | _ => cases hfirst
  | _ => cases hread

theorem addIntent_of_shape {body : String} {value : Value} {parts : List (String × Value)}
    {id : String} (hbody : readBody body = .ok value)
    (hparts : readParts intentParts value = .ok parts)
    (hid : OrderedMap.get? "id" parts = some (.text id)) :
    service.addIntent body =
      let outcome := service.catalog.addDeclared (.text id)
        (.mapping (presentParts (OrderedMap.erase "id" parts)))
      (changeResponse 201 Intent.summary outcome.answer, service.withCatalog outcome.catalog) := by
  have hread : (do checked (readParts intentParts (← readBody body))) = Except.ok parts := by
    rw [hbody]
    exact congrArg checked hparts
  simp only [addIntent, hread, hid, Option.getD_some]

/-- What adding an intent is answered with depends on how its declaration is read. -/
theorem status_addDeclared (catalog : Catalog) (id : String) (data : List (Key × Value)) :
    let outcome := catalog.addDeclared (.text id) (.mapping data)
    (Intent.BreaksReader id data →
        (changeResponse 201 Intent.summary outcome.answer).status = 500 ∧
          outcome.catalog = catalog) ∧
      (¬ Intent.BreaksReader id data →
        (changeResponse 201 Intent.summary outcome.answer).status ∈ [201, 409, 422]) := by
  rw [← Intent.crashes_ofEntries_iff]
  dsimp only
  rw [Catalog.addDeclared, Intent.ofValue]
  cases hread : Intent.ofEntries (.text id) data with
  | error fault =>
      obtain ⟨hcrash, hrule⟩ := status_changeResponse_of_unread hread
      refine ⟨fun hcrashes => ⟨hcrash hcrashes, rfl⟩, fun hnot => ?_⟩
      rw [hrule hnot]
      decide
  | ok intent =>
      refine ⟨fun hcrash => absurd hcrash (not_crashes_ok intent), fun _ => ?_⟩
      dsimp only
      by_cases hid : intent.id ∈ catalog.ids
      · rw [Catalog.add_of_mem hid]
        simp [changeResponse, invalid, detail, json]
      · rw [Catalog.add_of_not_mem hid]
        simp [changeResponse, json]

/-! ## Changed intents -/

/-- The declaration that the changes make of an intent breaks the reader. -/
def BreaksUpdate (catalog : Catalog) (id : String) (changes : List (Key × Value)) : Prop :=
  ∃ existing, catalog.find? id = some existing ∧
    Intent.BreaksReader id (revision existing changes)

theorem updateIntent_of_mapping {id body : String} {changes : List (Key × Value)}
    (hbody : readBody body = .ok (.mapping changes)) :
    service.updateIntent id body =
      let outcome := service.catalog.update id (OrderedMap.erase (.text "id") changes)
      (changeResponse 200 Intent.summary outcome.answer, service.withCatalog outcome.catalog) := by
  have hread : (do checked (readEntries (← readBody body))) = Except.ok changes := by
    rw [hbody]
    rfl
  simp only [updateIntent, hread]

/-- What changing an intent is answered with depends on how the revised declaration is read. -/
theorem status_update {catalog : Catalog} (haligned : catalog.Aligned) (id : String)
    {changes : List (Key × Value)} (hnamed : AreNamed changes) :
    let outcome := catalog.update id (OrderedMap.erase (.text "id") changes)
    (BreaksUpdate catalog id changes →
        (changeResponse 200 Intent.summary outcome.answer).status = 500 ∧
          outcome.catalog = catalog) ∧
      (¬ BreaksUpdate catalog id changes →
        (changeResponse 200 Intent.summary outcome.answer).status ∈ [200, 404, 422]) := by
  dsimp only
  cases hfind : catalog.find? id with
  | none =>
      rw [Catalog.update_of_missing (Catalog.find?_eq_none_iff.mp hfind)]
      constructor
      · rintro ⟨existing, hexisting, -⟩
        exact absurd (hfind.symm.trans hexisting) nofun
      · intro _
        simp [changeResponse, invalid, detail, json]
  | some existing =>
      have hbreaks : BreaksUpdate catalog id changes ↔
          Crashes (Intent.ofEntries (.text id) (revision existing changes)) := by
        rw [Intent.crashes_ofEntries_iff, BreaksUpdate]
        constructor
        · rintro ⟨other, hother, hbreaks⟩
          cases hfind.symm.trans hother
          exact hbreaks
        · exact fun hbreaks => ⟨existing, hfind, hbreaks⟩
      rw [hbreaks, haligned.update_of_named hfind (hnamed.erase _), revised_eq]
      cases hread : Intent.ofEntries (.text id) (revision existing changes) with
      | error fault =>
          obtain ⟨hcrash, hrule⟩ := status_changeResponse_of_unread hread
          refine ⟨fun hcrashes => ⟨hcrash hcrashes, rfl⟩, fun hnot => ?_⟩
          rw [hrule hnot]
          decide
      | ok updated =>
          refine ⟨fun hcrash => absurd hcrash (not_crashes_ok updated), fun _ => ?_⟩
          simp [changeResponse, json]

/-! ## Requests -/

/-- A number in the place of a name. -/
def misnamed : Request := ⟨.put, "/api/intents/SALUDO", "\x7b\"name\": 5\x7d"⟩

theorem readBody_misnamed :
    readBody misnamed.body = .ok (.mapping [(.text "name", .int 5)]) :=
  eq_ok_of_toOption (by decide +kernel)

theorem breaksUpdate_misnamed :
    BreaksUpdate welcoming.catalog "SALUDO" [(.text "name", .int 5)] := by
  refine ⟨.ofTemplates "SALUDO" ["hola"], rfl, ?_⟩
  have hname : Value.fieldOrNull "name"
      (revision (.ofTemplates "SALUDO" ["hola"]) [(.text "name", .int 5)]) = .int 5 := by
    decide
  have hbreaks : ¬ (Value.fieldOrNull "name"
      (revision (.ofTemplates "SALUDO" ["hola"]) [(.text "name", .int 5)])).IsLabel := by
    rw [hname]
    intro hlabel
    obtain ⟨text, htext⟩ := hlabel (by decide +kernel)
    cases htext
  refine .later ⟨[], ?_⟩ (.later ⟨[], ?_⟩ (.later ?_ (.here hbreaks)))
  · decide
  · decide
  · exact (by decide : isBlankText "SALUDO" = false)

/-- A number in the place of the name of a transform. -/
def mistransformed : Request where
  verb := .post
  path := "/api/intents"
  body := "\x7b\"id\": \"PEDIDO\", \"patterns\": [\"quiero \x7bcosa\x7d\"], \"parameters\": "
    ++ "\x7b\"cosa\": \x7b\"transform\": 5\x7d\x7d\x7d"

/-- The slot of that request. -/
def mistransformedSlot : List (Key × Value) := [(.text "transform", .int 5)]

def mistransformedValue : Value :=
  .record [("id", .text "PEDIDO"), ("patterns", .texts ["quiero \x7bcosa\x7d"]),
    ("parameters", .record [("cosa", .mapping mistransformedSlot)])]

theorem breaks_mistransformedSlot : Slot.Breaks (.mapping mistransformedSlot) := by
  have htransform : Value.fieldOrNull "transform" mistransformedSlot = .int 5 := by decide
  have hflattened : Slot.flattened (.mapping mistransformedSlot) = .ok mistransformedSlot := by
    decide
  refine .kind hflattened (.transform (by decide) ?_ ?_)
  · rw [htransform]
    decide +kernel
  · rw [htransform]
    rintro ⟨text, ⟨⟩⟩

def mistransformedData : List (Key × Value) :=
  [(.text "patterns", .texts ["quiero \x7bcosa\x7d"]),
    (.text "parameters", .record [("cosa", .mapping mistransformedSlot)]),
    (.text "synonyms", .mapping [])]

theorem breaksReader_mistransformed : Intent.BreaksReader "PEDIDO" mistransformedData := by
  have hname : Value.fieldOrNull "name" mistransformedData = .null := by decide
  have hdescription : Value.fieldOrNull "description" mistransformedData = .null := by
    decide
  have htemplates : Intent.Part.templates mistransformedData =
      .list [.text "quiero \x7bcosa\x7d"] := by decide
  have hslots : Intent.Part.entriesUnder mistransformedData "parameters" =
      [(.text "cosa", .mapping mistransformedSlot)] := by decide
  have hnull : Value.IsLabel .null := nofun
  refine .later ⟨[(.text "cosa", .mapping mistransformedSlot)], by decide⟩ ?_
  refine .later ⟨[], by decide⟩ (.later (by decide : isBlankText "PEDIDO" = false) ?_)
  refine .later ?_ (.later ?_ (.later ?_ (.here ?_)))
  · rwa [Intent.Part.Reads, hname]
  · rwa [Intent.Part.Reads, hdescription]
  · rw [Intent.Part.Reads, htemplates]
    refine ⟨?_, _, rfl, List.cons_ne_nil _ _, List.forall_mem_singleton.mpr ⟨_, rfl, by decide⟩⟩
    rintro ⟨text, ⟨⟩⟩
  · rw [Intent.Part.Breaks, hslots]
    exact .here breaks_mistransformedSlot

end Service

end Phrasebook
