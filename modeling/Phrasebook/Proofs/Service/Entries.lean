import Mathlib
import Phrasebook.Proofs.Catalog.Failure
import Phrasebook.Proofs.Detection.Asking
import Phrasebook.Proofs.Service.Body

/-!
# The service keeps an ordered map

To its clients the catalog is a map from ids to the entries that are shown for them.  Every request
acts on that map as its answer tells: what was created stands at the end, what was replaced stays in
its place, what was deleted is gone, and after any other answer the map is the same.
-/

namespace Phrasebook

namespace Catalog

variable {catalog : Catalog}

/-- A change whose names are texts is made if the revised declaration can be read, and leaves the
catalog as it is if not. -/
theorem Aligned.update_of_named (haligned : catalog.Aligned) {id : String} {existing : Intent}
    (hfind : catalog.find? id = some existing) {entries : List (Key × Value)}
    (hnamed : AreNamed entries) :
    catalog.update id entries =
      match revised id existing (withShortNames entries) with
      | .ok updated => ⟨.ok updated, catalog.write id updated (prepare updated.patterns)⟩
      | .error fault => ⟨.error fault, catalog⟩ := by
  rw [haligned.update_eq hfind, hnamed.withShortNames.sortable]
  rfl

theorem update_of_missing {id : String} (hid : id ∉ catalog.ids) (entries : List (Key × Value)) :
    catalog.update id entries = ⟨invalid (.intentMissing id), catalog⟩ := by
  rw [update, find?_eq_none_iff.mpr hid]

theorem Aligned.update_cases (haligned : catalog.Aligned) (id : String)
    {entries : List (Key × Value)} (hnamed : AreNamed entries) :
    (∃ fault, catalog.update id entries = ⟨.error fault, catalog⟩) ∨
      ∃ updated, (updated.id = id ∧ updated.IsDeclared) ∧ id ∈ catalog.ids ∧
        catalog.update id entries =
          ⟨.ok updated, catalog.write id updated (prepare updated.patterns)⟩ := by
  by_cases hid : id ∈ catalog.ids
  · obtain ⟨existing, hfind⟩ := exists_find?_of_mem hid
    rw [haligned.update_of_named hfind hnamed]
    cases hrevised : revised id existing (withShortNames entries) with
    | error fault => exact .inl ⟨fault, rfl⟩
    | ok updated => exact .inr ⟨updated, haligned.id_of_revised hfind hrevised, hid, rfl⟩
  · exact .inl ⟨_, update_of_missing hid entries⟩

theorem addDeclared_cases (catalog : Catalog) (id data : Value) :
    (∃ fault, catalog.addDeclared id data = ⟨.error fault, catalog⟩) ∨
      ∃ intent, intent.id ∉ catalog.ids ∧ Intent.ofValue id data = .ok intent ∧
        catalog.addDeclared id data =
          ⟨.ok intent, catalog.write intent.id intent (prepare intent.patterns)⟩ := by
  rw [addDeclared]
  cases hintent : Intent.ofValue id data with
  | error fault => exact .inl ⟨fault, rfl⟩
  | ok intent =>
      by_cases hid : intent.id ∈ catalog.ids
      · exact .inl ⟨_, add_of_mem hid⟩
      · exact .inr ⟨intent, hid, rfl, add_eq_of_not_mem hid⟩

end Catalog

namespace Service

/-! ## What clients see -/

/-- Where the path of a request leads. -/
def Request.target? (request : Request) : Option Endpoint := endpoint? (decodedPath request.path)

/-- The entries that the service shows, under their ids. -/
def entries (service : Service) : OrderedMap String Value :=
  OrderedMap.mapValues (fun intent => shown intent.summary) service.catalog.definitions

/-- The list of entries and their number. -/
def listing (entries : OrderedMap String Value) : Value :=
  .record [("intents", .list (entries.map (·.2))), ("total", .int entries.length)]

/-- The id that an entry shows. -/
def shownId? : Value → Option Value
  | .mapping fields => Value.field? "id" fields
  | _ => none

/-- Every entry shows the id it stands under, and no two show the same one. -/
structure IsKeyed (entries : OrderedMap String Value) : Prop where
  nodup : (OrderedMap.keys entries).Nodup
  shows : ∀ entry ∈ entries, shownId? entry.2 = some (.text entry.1)

section

variable (id : String) (before : OrderedMap String Value) (response : Response)
  (after : OrderedMap String Value)

/-- The entry of an id is answered, or it is said that there is none. -/
def Shows : Prop :=
  (∀ entry, OrderedMap.get? id before = some entry → response = json 200 entry) ∧
    (OrderedMap.get? id before = none → response.status = 404)

/-- With the status of a creation the answered entry is put behind all others, under a new id. -/
def Creates : Prop :=
  (response.status = 201 → ∃ id entry, id ∉ OrderedMap.keys before ∧ response = json 201 entry ∧
      after = before ++ [(id, entry)]) ∧
    (response.status ≠ 201 → after = before)

/-- With the status of a success the answered entry takes the place of the one under the id. -/
def Replaces : Prop :=
  (response.status = 200 → ∃ entry, id ∈ OrderedMap.keys before ∧ response = json 200 entry ∧
      after = OrderedMap.insert id entry before) ∧
    (response.status ≠ 200 → after = before)

/-- With the status of a success the entry under the id is gone. -/
def Deletes : Prop :=
  (response.status = 200 → id ∈ OrderedMap.keys before ∧ after = OrderedMap.erase id before) ∧
    (response.status ≠ 200 → after = before)

end

/-- What the answer to a request means for the entries. -/
def Answers (request : Request) (before : OrderedMap String Value) (response : Response)
    (after : OrderedMap String Value) : Prop :=
  match request.target?, request.verb with
  | some .intents, .get => response = json 200 (listing before) ∧ after = before
  | some .intents, .post => Creates before response after
  | some (.intent id), .get => Shows id before response ∧ after = before
  | some (.intent id), .put => Replaces id before response after
  | some (.intent id), .delete => Deletes id before response after
  | _, _ => after = before

/-- Answers to requests one after another, each to the entries that the last one left. -/
inductive Run : List Request → OrderedMap String Value → List Response →
    OrderedMap String Value → Prop
  | nil (entries : OrderedMap String Value) : Run [] entries [] entries
  | cons {request : Request} {requests : List Request} {response : Response}
      {responses : List Response} {before between after : OrderedMap String Value} :
      Answers request before response between → Run requests between responses after →
      Run (request :: requests) before (response :: responses) after

variable {service : Service}

@[simp]
theorem keys_entries (service : Service) :
    OrderedMap.keys service.entries = service.catalog.ids := OrderedMap.keys_mapValues _ _

theorem get?_entries (service : Service) (id : String) :
    OrderedMap.get? id service.entries =
      (service.catalog.find? id).map fun intent => shown intent.summary :=
  OrderedMap.get?_mapValues _ _ _

theorem entries_write (service : Service) (id : String) (intent : Intent)
    (patterns : List (Option Pattern)) :
    (service.withCatalog (service.catalog.write id intent patterns)).entries =
      OrderedMap.insert id (shown intent.summary) service.entries :=
  (OrderedMap.insert_mapValues (fun intent : Intent => shown intent.summary) id intent _).symm

theorem entries_write_of_not_mem {intent : Intent} (hid : intent.id ∉ service.catalog.ids)
    (patterns : List (Option Pattern)) :
    (service.withCatalog (service.catalog.write intent.id intent patterns)).entries =
      service.entries ++ [(intent.id, shown intent.summary)] := by
  rw [entries_write, OrderedMap.insert_of_not_mem]
  rwa [keys_entries]

theorem entries_remove {id : String} (hid : id ∈ service.catalog.ids) :
    (service.withCatalog (service.catalog.remove id).catalog).entries =
      OrderedMap.erase id service.entries := by
  obtain ⟨existing, hfind⟩ := Catalog.exists_find?_of_mem hid
  rw [Catalog.remove, hfind, entries, entries, OrderedMap.erase_mapValues]
  rfl

theorem isKeyed_entries (haligned : service.catalog.Aligned) : IsKeyed service.entries where
  nodup := by
    rw [keys_entries]
    exact haligned.nodup
  shows := by
    intro entry hentry
    obtain ⟨⟨id, intent⟩, hmem, rfl⟩ := List.mem_map.mp hentry
    rw [haligned.keyed _ hmem]
    rfl

/-! ## One request -/

theorem isFault_changeResponse (status : Nat) (answered : Intent → Value) (fault : Fault) :
    (changeResponse status answered (.error fault)).IsFault := by
  cases fault with
  | invalid cause => cases cause <;> exact isFault_json (by decide) _
  | _ => exact isFault_internalError _

theorem addIntent_cases (service : Service) (body : String) :
    (∃ response, response.IsFault ∧ service.addIntent body = (response, service)) ∨
      ∃ intent : Intent, intent.IsDeclared ∧ intent.id ∉ service.catalog.ids ∧
        service.addIntent body = (json 201 (shown intent.summary),
          service.withCatalog
            (service.catalog.write intent.id intent (Catalog.prepare intent.patterns))) := by
  rw [addIntent]
  split
  · rename_i response hread
    exact .inl ⟨response, (isRefusal_of_checked hread).isFault, rfl⟩
  · rename_i parts hread
    dsimp only
    rcases service.catalog.addDeclared_cases ((OrderedMap.get? "id" parts).getD .null)
      (.mapping (presentParts (OrderedMap.erase "id" parts))) with
      ⟨fault, houtcome⟩ | ⟨intent, hid, hread, houtcome⟩
    · rw [houtcome]
      exact .inl ⟨_, isFault_changeResponse _ _ fault, rfl⟩
    · rw [houtcome]
      exact .inr ⟨intent, Intent.isDeclared_of_ofValue hread, hid, rfl⟩

theorem updateIntent_cases (haligned : service.catalog.Aligned) (id body : String) :
    (∃ response, response.IsFault ∧ service.updateIntent id body = (response, service)) ∨
      ∃ intent, (intent.id = id ∧ intent.IsDeclared) ∧ id ∈ service.catalog.ids ∧
        service.updateIntent id body = (json 200 (shown intent.summary),
          service.withCatalog
            (service.catalog.write id intent (Catalog.prepare intent.patterns))) := by
  rw [updateIntent]
  split
  · rename_i response hread
    exact .inl ⟨response, (isRefusal_of_checked hread).isFault, rfl⟩
  · rename_i entries hread
    have hnamed : AreNamed (OrderedMap.erase (.text "id") entries) :=
      (areNamed_of_checked hread).2.erase _
    rcases haligned.update_cases id hnamed with
      ⟨fault, houtcome⟩ | ⟨intent, hintent, hid, houtcome⟩
    · rw [houtcome]
      exact .inl ⟨_, isFault_changeResponse _ _ fault, rfl⟩
    · rw [houtcome]
      exact .inr ⟨intent, hintent, hid, rfl⟩

theorem removeIntent_cases (service : Service) (id : String) :
    (∃ response, response.IsFault ∧ service.removeIntent id = (response, service)) ∨
      id ∈ service.catalog.ids ∧
        service.removeIntent id = (json 200 (shown (.record [("deleted", .text id)])),
          service.withCatalog (service.catalog.remove id).catalog) := by
  by_cases hid : id ∈ service.catalog.ids
  · obtain ⟨removed, hremoved⟩ := Catalog.remove_of_mem hid
    refine .inr ⟨hid, ?_⟩
    rw [removeIntent, hremoved]
    rfl
  · rw [removeIntent, Catalog.remove_of_not_mem hid]
    exact .inl ⟨_, isFault_changeResponse _ _ _, rfl⟩

theorem catalog_detect (service : Service) (body : String) :
    (service.detect body).2.catalog = service.catalog := by
  unfold detect
  split
  · rfl
  · rename_i text method _
    exact service.detector.detect_catalog (.text text) method

theorem entries_congr {other : Service} (hcatalog : other.catalog = service.catalog) :
    other.entries = service.entries := by
  rw [entries, hcatalog, entries]

theorem listIntents_eq (service : Service) :
    service.listIntents = json 200 (listing service.entries) := by
  have hitems : ∀ intents : List Intent,
      shownItems (intents.map (·.summary)) = intents.map fun intent => shown intent.summary := by
    intro intents
    induction intents with
    | nil => rfl
    | cons intent intents ih => rw [List.map_cons, shownItems, ih, List.map_cons]
  have hvalues : service.entries.map (·.2) =
      shownItems service.catalog.summary := by
    rw [Catalog.summary, hitems, entries, OrderedMap.mapValues, List.map_map, Catalog.intents,
      List.map_map]
    rfl
  have hlength : service.entries.length = service.catalog.size := List.length_map _
  rw [listIntents, listing, hvalues, hlength]
  rfl

theorem handle_of_target {request : Request} {endpoint : Endpoint}
    (htarget : request.target? = some endpoint) :
    service.handle request =
      (service.respond? endpoint request).getD (detail 405 "Method Not Allowed", service) := by
  rw [Request.target?] at htarget
  simp only [handle, htarget]

/-- A request that leads nowhere is answered without a look at the catalog. -/
theorem handle_of_no_target {request : Request} (htarget : request.target? = none) :
    (service.handle request).2 = service ∧ (service.handle request).1.status ∈ [307, 404] := by
  rw [Request.target?] at htarget
  simp only [handle, htarget]
  split
  · exact ⟨rfl, List.mem_cons_self⟩
  · exact ⟨rfl, List.mem_cons_of_mem _ List.mem_cons_self⟩

theorem catalog_handle_of_no_target {request : Request} (htarget : request.target? = none) :
    (service.handle request).2.catalog = service.catalog :=
  congrArg catalog (handle_of_no_target htarget).1

theorem shows_showIntent (service : Service) (id : String) :
    Shows id service.entries (service.showIntent id) := by
  rw [Shows, get?_entries, showIntent]
  cases service.catalog.find? id with
  | none => exact ⟨nofun, fun _ => rfl⟩
  | some intent =>
      refine ⟨fun entry hentry => ?_, nofun⟩
      rw [Option.map_some, Option.some.injEq] at hentry
      rw [← hentry]

theorem creates_addIntent (service : Service) (body : String) :
    Creates service.entries (service.addIntent body).1 (service.addIntent body).2.entries := by
  rcases service.addIntent_cases body with ⟨response, hfault, heq⟩ | ⟨intent, -, hid, heq⟩
  · rw [heq]
    exact ⟨fun hcreated => absurd hcreated (hfault.status_ne (by decide)), fun _ => rfl⟩
  · rw [heq]
    refine ⟨fun _ => ⟨intent.id, shown intent.summary, ?_, rfl, ?_⟩,
      fun hother => absurd rfl hother⟩
    · rwa [keys_entries]
    · exact entries_write_of_not_mem hid _

theorem replaces_updateIntent (haligned : service.catalog.Aligned) (id body : String) :
    Replaces id service.entries (service.updateIntent id body).1
      (service.updateIntent id body).2.entries := by
  rcases updateIntent_cases haligned id body with
    ⟨response, hfault, heq⟩ | ⟨intent, -, hid, heq⟩
  · rw [heq]
    exact ⟨fun hreplaced => absurd hreplaced (hfault.status_ne (by decide)), fun _ => rfl⟩
  · rw [heq]
    refine ⟨fun _ => ⟨shown intent.summary, ?_, rfl, ?_⟩, fun hother => absurd rfl hother⟩
    · rwa [keys_entries]
    · exact entries_write _ _ _ _

theorem deletes_removeIntent (service : Service) (id : String) :
    Deletes id service.entries (service.removeIntent id).1
      (service.removeIntent id).2.entries := by
  rcases service.removeIntent_cases id with ⟨response, hfault, heq⟩ | ⟨hid, heq⟩
  · rw [heq]
    exact ⟨fun hdeleted => absurd hdeleted (hfault.status_ne (by decide)), fun _ => rfl⟩
  · rw [heq]
    refine ⟨fun _ => ⟨?_, entries_remove hid⟩, fun hother => absurd rfl hother⟩
    rwa [keys_entries]

/-- Every request acts on the entries as its answer tells. -/
theorem answers_handle (haligned : service.catalog.Aligned) (request : Request) :
    Answers request service.entries (service.handle request).1
      (service.handle request).2.entries := by
  cases htarget : request.target? with
  | none =>
      rw [Answers, htarget]
      exact entries_congr (catalog_handle_of_no_target htarget)
  | some endpoint =>
      rw [handle_of_target htarget, Answers, htarget]
      obtain ⟨verb, path, body⟩ := request
      cases endpoint with
      | intents =>
          cases verb with
          | get => exact ⟨listIntents_eq service, rfl⟩
          | post => exact creates_addIntent service body
          | _ => rfl
      | intent id =>
          cases verb with
          | get => exact ⟨shows_showIntent service id, rfl⟩
          | put => exact replaces_updateIntent haligned id body
          | delete => exact deletes_removeIntent service id
          | _ => rfl
      | detection =>
          cases verb with
          | post => exact entries_congr (service.catalog_detect body)
          | _ => rfl
      | health | methods | status => cases verb <;> rfl

theorem aligned_addIntent (haligned : service.catalog.Aligned) (body : String) :
    (service.addIntent body).2.catalog.Aligned := by
  rcases service.addIntent_cases body with ⟨response, -, heq⟩ | ⟨intent, hdeclared, -, heq⟩
  · rwa [heq]
  · rw [heq]
    exact haligned.write hdeclared

theorem aligned_updateIntent (haligned : service.catalog.Aligned) (id body : String) :
    (service.updateIntent id body).2.catalog.Aligned := by
  rcases updateIntent_cases haligned id body with
    ⟨response, -, heq⟩ | ⟨intent, ⟨rfl, hdeclared⟩, -, heq⟩
  · rwa [heq]
  · rw [heq]
    exact haligned.write hdeclared

theorem aligned_removeIntent (haligned : service.catalog.Aligned) (id : String) :
    (service.removeIntent id).2.catalog.Aligned := haligned.remove id

theorem aligned_handle (haligned : service.catalog.Aligned) (request : Request) :
    (service.handle request).2.catalog.Aligned := by
  cases htarget : request.target? with
  | none => rwa [catalog_handle_of_no_target htarget]
  | some endpoint =>
      rw [handle_of_target htarget]
      obtain ⟨verb, path, body⟩ := request
      cases endpoint with
      | intents =>
          cases verb with
          | post => exact aligned_addIntent haligned body
          | _ => exact haligned
      | intent id =>
          cases verb with
          | put => exact aligned_updateIntent haligned id body
          | delete => exact aligned_removeIntent haligned id
          | _ => exact haligned
      | detection =>
          cases verb with
          | post =>
              have hcatalog := service.catalog_detect body
              exact hcatalog ▸ haligned
          | _ => exact haligned
      | health | methods | status => cases verb <;> exact haligned

/-! ## All requests -/

/-- A service that starts with one greeting. -/
def welcoming : Service := ⟨.create Catalog.greeting none .standard, defaultMaxTextLength⟩

/-- An order is added, the greeting is renamed and then refused a change, the order goes and is
missed. -/
def visits : List Request :=
  [⟨.post, "/api/intents", "\x7b\"id\": \" PEDIDO \", \"patterns\": [\"quiero pan\"]\x7d"⟩,
    ⟨.put, "/api/intents/SALUDO", "\x7b\"name\": \"Bienvenida\"\x7d"⟩,
    ⟨.put, "/api/intents/SALUDO", "\x7b\"patterns\": []\x7d"⟩,
    ⟨.delete, "/api/intents/PEDIDO", ""⟩, ⟨.get, "/api/intents/PEDIDO", ""⟩]

end Service

end Phrasebook
