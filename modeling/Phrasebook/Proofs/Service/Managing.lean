import Mathlib
import Phrasebook.Proofs.Service.Mutation
import Phrasebook.Proofs.Service.Path

/-!
# Which intents can be managed

The service takes any text that is not blank as the id of an intent, and shows it in the list.  The
path of an intent has room for one part only, so of the intents in the list, those with a slash in
their id are out of reach: they are neither shown on their own nor changed nor removed.
-/

namespace Phrasebook.Service

variable {service : Service} {id written path : String}

/-- The id is shown in the list of intents. -/
def Lists (service : Service) (id : String) : Prop :=
  ∃ items total, (service.handle ⟨.get, "/api/intents", ""⟩).1 =
      json 200 (.record [("intents", .list items), ("total", total)]) ∧
    ∃ item ∈ items, shownId? item = some (.text id)

/-- Requests for a path deal with the intent of an id: its entry is shown, replaced and removed. -/
structure Manages (service : Service) (id path : String) : Prop where
  leads : ∀ verb body, Request.target? ⟨verb, path, body⟩ = some (.intent id)
  shows : ∀ body, ∃ entry, OrderedMap.get? id service.entries = some entry ∧
    service.handle ⟨.get, path, body⟩ = (json 200 entry, service)
  replaces : ∀ body, let (response, next) := service.handle ⟨.put, path, body⟩
    response.status ≠ 404 ∧ Replaces id service.entries response next.entries
  deletes : ∀ body, let (response, next) := service.handle ⟨.delete, path, body⟩
    response.status = 200 ∧ next.entries = OrderedMap.erase id service.entries

/-! ## The list -/

theorem lists_iff (haligned : service.catalog.Aligned) :
    service.Lists id ↔ id ∈ service.catalog.ids := by
  have hresponse : (service.handle ⟨.get, "/api/intents", ""⟩).1 =
      json 200 (listing service.entries) := listIntents_eq service
  have hkeyed := isKeyed_entries haligned
  rw [Lists, hresponse, ← keys_entries]
  constructor
  · rintro ⟨items, total, hlisting, item, hitem, hid⟩
    cases hlisting
    obtain ⟨entry, hentry, rfl⟩ := List.mem_map.mp hitem
    rw [hkeyed.shows entry hentry] at hid
    cases hid
    exact List.mem_map_of_mem hentry
  · intro hid
    obtain ⟨entry, hentry, rfl⟩ := List.mem_map.mp hid
    exact ⟨_, _, rfl, entry.2, List.mem_map_of_mem hentry, hkeyed.shows entry hentry⟩

theorem isId_of_mem_ids (haligned : service.catalog.Aligned) (hid : id ∈ service.catalog.ids) :
    Intent.IsId id := by
  obtain ⟨entry, hentry, rfl⟩ := List.mem_map.mp hid
  exact haligned.isId entry hentry

/-! ## Changes of a listed intent -/

/-- That an intent is missing is no fault of its declaration. -/
theorem status_changeResponse_ne_missing {status : Nat} {answered : Intent → Value} {fault : Fault}
    (hapart : fault.IsApart) : (changeResponse status answered (.error fault)).status ≠ 404 := by
  by_cases hrule : fault.IsRule
  · rw [status_changeResponse_of_isRule hrule hapart]
    decide
  · rw [status_changeResponse_of_not_isRule hrule]
    decide

theorem status_updateIntent_ne_missing (haligned : service.catalog.Aligned)
    (hid : id ∈ service.catalog.ids) (body : String) :
    (service.updateIntent id body).1.status ≠ 404 := by
  obtain ⟨existing, hfind⟩ := Catalog.exists_find?_of_mem hid
  rw [updateIntent]
  split
  · rename_i response hread
    have hrefusal := isRefusal_of_checked hread
    intro hstatus
    rw [Response.IsRefusal, hstatus] at hrefusal
    exact absurd hrefusal (by decide)
  · rename_i changes hread
    have hnamed := (areNamed_of_checked hread).2
    dsimp only
    rw [haligned.update_of_named hfind (hnamed.erase _), revised_eq]
    cases hrevised : Intent.ofEntries (.text id) (revision existing changes) with
    | error fault =>
        exact status_changeResponse_ne_missing (Intent.failsOnly_ofEntries _ _ fault hrevised)
    | ok updated => exact (by decide : 200 ≠ 404)

/-! ## Paths -/

theorem target?_of_isEncoded (hid : id ≠ "") (hwritten : IsEncoded id.toList written.toList)
    (verb : Verb) (body : String) :
    Request.target? ⟨verb, "/api/intents/" ++ written, body⟩ =
      if '/' ∈ id.toList then none else some (.intent id) := by
  rw [Request.target?, decodedPath_of_isEncoded hwritten, endpoint?_intentsPath hid]

theorem manages_of_leads (haligned : service.catalog.Aligned) (hid : id ∈ service.catalog.ids)
    (hleads : ∀ verb body, Request.target? ⟨verb, path, body⟩ = some (.intent id)) :
    service.Manages id path where
  leads := hleads
  shows body := by
    obtain ⟨intent, hfind⟩ := Catalog.exists_find?_of_mem hid
    have hentry : OrderedMap.get? id service.entries = some (shown intent.summary) := by
      rw [get?_entries, hfind, Option.map_some]
    have hhandle : service.handle ⟨.get, path, body⟩ = (service.showIntent id, service) :=
      handle_of_target (hleads .get body)
    refine ⟨_, hentry, ?_⟩
    rw [hhandle, (shows_showIntent service id).1 _ hentry]
  replaces body := by
    have hhandle : service.handle ⟨.put, path, body⟩ = service.updateIntent id body :=
      handle_of_target (hleads .put body)
    rw [hhandle]
    exact ⟨status_updateIntent_ne_missing haligned hid body,
      replaces_updateIntent haligned id body⟩
  deletes body := by
    have hhandle : service.handle ⟨.delete, path, body⟩ = service.removeIntent id :=
      handle_of_target (hleads .delete body)
    obtain ⟨removed, hremoved⟩ := Catalog.remove_of_mem hid
    have hstatus : (service.removeIntent id).1.status = 200 := by
      rw [removeIntent, hremoved]
      rfl
    rw [hhandle]
    exact ⟨hstatus, ((deletes_removeIntent service id).1 hstatus).2⟩

/-- Of the intents that are listed, just those without a slash in their id can be managed by the
path of the intents with their id behind it, in whichever way the id is written there.  No path at
all leads to the others: requests for theirs are answered with a redirection or as not found, and
change nothing. -/
theorem manages_iff_of_lists (hreachable : service.catalog.Reachable) (hlists : service.Lists id)
    (hwritten : IsEncoded id.toList written.toList) :
    (service.Manages id ("/api/intents/" ++ written) ↔ '/' ∉ id.toList) ∧
      ('/' ∈ id.toList →
        (∀ request : Request, request.target? ≠ some (.intent id)) ∧
          ∀ verb body, let (response, next) :=
              service.handle ⟨verb, "/api/intents/" ++ written, body⟩
            next = service ∧ response.status ∈ [307, 404]) := by
  have haligned := hreachable.aligned
  have hid := (lists_iff haligned).mp hlists
  have htarget := target?_of_isEncoded (isId_of_mem_ids haligned hid).ne_empty hwritten
  refine ⟨⟨?leads, ?manages⟩, fun hslash => ⟨?nowhere, ?answers⟩⟩
  case leads =>
    intro hmanages
    exact not_mem_of_endpoint? (hmanages.leads .get "")
  case manages =>
    intro hslash
    apply manages_of_leads haligned hid
    intro verb body
    rw [htarget verb body, if_neg hslash]
  case nowhere =>
    intro request hleads
    exact not_mem_of_endpoint? hleads hslash
  case answers =>
    intro verb body
    apply handle_of_no_target
    rw [htarget verb body, if_pos hslash]

/-- A service with two intents, one with a blank and an accent in its id, and one with a slash. -/
def shelving : Service :=
  let first := Intent.ofTemplates "qué tal" ["hola"]
  let second := Intent.ofTemplates "altas/bajas" ["quiero darme de baja"]
  let catalog := Catalog.empty.write first.id first (Catalog.prepare first.patterns)
  ⟨.create (catalog.write second.id second (Catalog.prepare second.patterns)) none .standard,
    defaultMaxTextLength⟩

theorem reachable_shelving : shelving.catalog.Reachable :=
  ⟨[⟨.ofTemplates "qué tal" ["hola"],
        Intent.isDeclared_ofTemplates ⟨by decide, by decide⟩ (by decide) (by decide)⟩,
      ⟨.ofTemplates "altas/bajas" ["quiero darme de baja"],
        Intent.isDeclared_ofTemplates ⟨by decide, by decide⟩ (by decide) (by decide)⟩],
    shelving.catalog, [], rfl, rfl⟩

theorem lists_shelving (hid : id ∈ ["qué tal", "altas/bajas"]) : shelving.Lists id :=
  (lists_iff reachable_shelving.aligned).mpr hid

/-- The bytes of the accent may be written in digits of either case. -/
theorem isEncoded_shelving : IsEncoded "qué tal".toList "qu%c3%A9%20tal".toList := by
  have hback : IsEncoded "tal".toList "tal".toList := isEncoded_self (by decide)
  have hblank : IsEncoded " tal".toList "%20tal".toList :=
    @Spells.escaped '2' '0' 2 0 _ _ rfl rfl hback
  have haccent : IsEncoded "é tal".toList "%c3%A9%20tal".toList :=
    @Spells.escaped 'c' '3' 12 3 _ _ rfl rfl (@Spells.escaped 'A' '9' 10 9 _ _ rfl rfl hblank)
  exact haccent.behind "qu".toList (by decide)

theorem manages_iff_of_lists_shelving :
    shelving.Manages "qué tal" "/api/intents/qu%c3%A9%20tal" ∧
      ¬ shelving.Manages "altas/bajas" ("/api/intents/" ++
        String.ofList ("altas/bajas".toList.flatMap percentEncoded)) := by
  constructor
  · exact (manages_iff_of_lists reachable_shelving (lists_shelving (by decide))
      isEncoded_shelving).1.mpr (by decide)
  · have hwritten : IsEncoded "altas/bajas".toList
        (String.ofList ("altas/bajas".toList.flatMap percentEncoded)).toList := by
      rw [String.toList_ofList]
      exact isEncoded_percentEncoded _
    rw [(manages_iff_of_lists reachable_shelving (lists_shelving (by decide)) hwritten).1, not_not]
    decide

/-- An intent that is listed is not found. -/
theorem shelving_misses_listed_intent :
    ¬ ∀ (service : Service) (id written : String), service.catalog.Reachable →
      service.Lists id → IsEncoded id.toList written.toList →
      (service.handle ⟨.delete, "/api/intents/" ++ written, ""⟩).1.status ≠ 404 := by
  intro hfound
  have hwritten : IsEncoded "altas/bajas".toList "altas%2Fbajas".toList := by
    have hback : IsEncoded "bajas".toList "bajas".toList := isEncoded_self (by decide)
    have hslash : IsEncoded "/bajas".toList "%2Fbajas".toList :=
      @Spells.escaped '2' 'F' 2 15 _ _ rfl rfl hback
    exact hslash.behind "altas".toList (by decide)
  exact hfound shelving "altas/bajas" "altas%2Fbajas" reachable_shelving
    (lists_shelving (by decide)) hwritten (by decide)

end Phrasebook.Service
