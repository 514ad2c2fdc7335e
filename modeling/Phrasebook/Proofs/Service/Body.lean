import Mathlib
import Phrasebook.Proofs.Fault
import Phrasebook.Proofs.OrderedMap
import Phrasebook.Service.Basic

/-!
# What a body can be

However a body is written, the names in it are texts.  A body that is not what a request needs is
answered with the fault of the client or of the service, never with success.
-/

namespace Phrasebook

/-- The keys of a mapping are texts. -/
def AreNamed (entries : List (Key × Value)) : Prop :=
  ∀ entry ∈ entries, ∃ name, entry.1 = .text name

namespace AreNamed

variable {entries : List (Key × Value)}

theorem insert (hnamed : AreNamed entries) (name : String) (value : Value) :
    AreNamed (OrderedMap.insert (.text name) value entries) := by
  intro entry hentry
  exact (OrderedMap.forall_mem_insert (P := fun key => ∃ name, key = .text name)
    (Q := fun _ => True) ⟨name, rfl⟩ trivial (fun entry hentry => ⟨hnamed entry hentry, trivial⟩)
    entry hentry).1

theorem erase (hnamed : AreNamed entries) (key : Key) : AreNamed (OrderedMap.erase key entries) :=
  fun entry hentry => hnamed entry (List.mem_of_mem_filter hentry)

theorem withShortNames (hnamed : AreNamed entries) : AreNamed (Catalog.withShortNames entries) := by
  rw [Catalog.withShortNames]
  split
  · exact (hnamed.erase _).insert _ _
  · exact hnamed

/-- Texts can be put in order. -/
theorem sortable (hnamed : AreNamed entries) : Key.sortable (OrderedMap.keys entries) = true := by
  simp only [Key.sortable, Bool.or_eq_true, List.all_eq_true]
  refine .inl (.inr fun key hkey => ?_)
  obtain ⟨entry, hentry, rfl⟩ := List.mem_map.mp hkey
  obtain ⟨name, hname⟩ := hnamed entry hentry
  rw [hname]

end AreNamed

namespace JsonText

/-- Reading entries adds names to those already read. -/
theorem areNamed_of_readEntries {fuel room : Nat} {written entries : List (Key × Value)}
    {place after : Place} (hread : readEntries fuel room written place = .ok (entries, after))
    (hwritten : AreNamed written) : AreNamed entries := by
  induction fuel generalizing written place with
  | zero => cases hread
  | succ fuel ih =>
      rw [readEntries] at hread
      split at hread
      · split at hread
        · obtain ⟨⟨name, afterName⟩, -, hrest⟩ := bind_eq_ok_iff.mp hread
          dsimp only at hrest
          split at hrest
          · obtain ⟨⟨value, afterValue⟩, -, hnext⟩ := bind_eq_ok_iff.mp hrest
            dsimp only at hnext
            split at hnext
            · cases hnext
              exact hwritten.insert _ _
            · exact ih hnext (hwritten.insert _ _)
            · cases hnext
          · cases hrest
        · cases hread
      · cases hread

theorem readWord?_ne_mapping {place after : Place} {entries : List (Key × Value)} :
    readWord? place ≠ some (.mapping entries, after) := by
  intro hword
  obtain ⟨word, hfind, heq⟩ := Option.map_eq_some_iff.mp hword
  have hmem := List.mem_of_find?_eq_some hfind
  have hsingle : ∀ word ∈ words, ∀ entries, word.2 ≠ .mapping entries := by
    simp [words, Value.real]
  exact hsingle word hmem entries (Prod.mk.inj heq).1

theorem readNumber_ne_mapping {place after : Place} {entries : List (Key × Value)} :
    readNumber place ≠ .ok (.mapping entries, after) := by
  have hsingle : ∀ written real, numberOf written real ≠ .ok (.mapping entries) := by
    intro written real
    unfold numberOf
    split
    · nofun
    · split <;> nofun
  intro hread
  unfold readNumber at hread
  dsimp only at hread
  split at hread
  · cases hread
  · cases hnumber : numberOf _ _ with
    | error refusal =>
        rw [hnumber] at hread
        cases hread
    | ok value =>
        rw [hnumber] at hread
        cases hread
        exact hsingle _ _ hnumber

theorem areNamed_of_readValue {fuel room : Nat} {entries : List (Key × Value)} {place after : Place}
    (hread : readValue fuel room place = .ok (.mapping entries, after)) : AreNamed entries := by
  cases fuel with
  | zero => cases hread
  | succ fuel =>
      rw [readValue] at hread
      split at hread
      · cases hread
      dsimp only at hread
      split at hread
      · obtain ⟨_, -, htext⟩ := bind_eq_ok_iff.mp hread
        cases htext
      split at hread
      · split at hread
        · cases hread
        split at hread
        · cases hread
          exact nofun
        · obtain ⟨⟨read, _⟩, hentries, hresult⟩ := bind_eq_ok_iff.mp hread
          cases hresult
          exact areNamed_of_readEntries hentries nofun
      split at hread
      · split at hread
        · cases hread
        split at hread
        · cases hread
        · obtain ⟨_, -, hlist⟩ := bind_eq_ok_iff.mp hread
          cases hlist
      split at hread
      · rename_i found hfound
        cases hread
        exact absurd hfound readWord?_ne_mapping
      · exact absurd hread readNumber_ne_mapping

theorem areNamed_of_read {text : List Char} {entries : List (Key × Value)}
    (hread : read text = .ok (.mapping entries)) : AreNamed entries := by
  obtain ⟨⟨value, after⟩, hvalue, hrest⟩ := bind_eq_ok_iff.mp hread
  dsimp only at hrest
  split at hrest
  · cases hrest
    exact areNamed_of_readValue hvalue
  · cases hrest

end JsonText

namespace Service

/-- A fault, of the client or of the service. -/
def Response.IsFault (response : Response) : Prop := 400 ≤ response.status

theorem Response.IsFault.status_ne {response : Response} (hfault : response.IsFault) {status : Nat}
    (hstatus : status < 400) : response.status ≠ status :=
  Nat.ne_of_gt (Nat.lt_of_lt_of_le hstatus hfault)

theorem isFault_json {status : Nat} (hstatus : 400 ≤ status) (value : Value) :
    (json status value).IsFault := hstatus

theorem isFault_internalError (fault : Fault) : (internalError fault).IsFault := by
  simp [Response.IsFault, internalError]

/-- What a body that cannot be used is answered with, before anything is looked up by it. -/
def Response.IsRefusal (response : Response) : Prop := response.status ∈ [400, 422, 500]

theorem Response.IsRefusal.isFault {response : Response} (hrefusal : response.IsRefusal) :
    response.IsFault := by
  simp only [IsRefusal, List.mem_cons, List.not_mem_nil, or_false] at hrefusal
  rw [IsFault]
  omega

theorem isRefusal_unreadable : unreadable.IsRefusal := List.mem_of_elem_eq_true rfl

theorem isRefusal_rejected (violations : List Violation) : (rejected violations).IsRefusal := by
  unfold rejected
  split <;> simp [Response.IsRefusal, json, internalError]

theorem isRefusal_of_readBody {body : String} {response : Response}
    (hread : readBody body = .error response) : response.IsRefusal := by
  unfold readBody at hread
  split at hread
  · cases hread
    exact isRefusal_rejected _
  · split at hread
    · unfold readText at hread
      split at hread
      · cases hread
      · cases hread
        exact isRefusal_rejected _
      · cases hread
        exact isRefusal_unreadable
    · cases hread
      exact isRefusal_unreadable

/-- A body that cannot be read, or is not of the right shape, is refused. -/
theorem isRefusal_of_checked {α : Type} {body : String} {shape : Value → Checked α}
    {response : Response}
    (hread : (do checked (shape (← readBody body))) = Except.error response) :
    response.IsRefusal := by
  cases hbody : readBody body with
  | error fault =>
      rw [hbody] at hread
      cases hread
      exact isRefusal_of_readBody hbody
  | ok value =>
      rw [hbody] at hread
      have hshape : checked (shape value) = .error response := hread
      cases hchecked : shape value with
      | error violations =>
          rw [hchecked] at hshape
          cases hshape
          exact isRefusal_rejected violations
      | ok result =>
          rw [hchecked] at hshape
          cases hshape

theorem areNamed_of_readBody {body : String} {entries : List (Key × Value)}
    (hread : readBody body = .ok (.mapping entries)) : AreNamed entries := by
  unfold readBody at hread
  split at hread
  · cases hread
  · split at hread
    · unfold readText at hread
      split at hread
      · rename_i hvalue
        cases hread
        exact JsonText.areNamed_of_read hvalue
      · cases hread
      · cases hread
    · cases hread

/-- The entries of a body are those of a mapping, and all of their names are texts. -/
theorem areNamed_of_checked {body : String} {entries : List (Key × Value)}
    (hread : (do checked (readEntries (← readBody body))) = Except.ok entries) :
    readBody body = .ok (.mapping entries) ∧ AreNamed entries := by
  obtain ⟨value, hvalue, hentries⟩ := bind_eq_ok_iff.mp hread
  have hmapping : value = .mapping entries := by
    cases value with
    | mapping _ =>
        cases hentries
        rfl
    | _ => cases hentries
  rw [hmapping] at hvalue
  exact ⟨hvalue, areNamed_of_readBody hvalue⟩

end Service

end Phrasebook
