import Mathlib
import Phrasebook.OrderedMap

/-!
# Laws of ordered maps

What a map holds under a key after each operation, and which keys it has in which order.  Writing
keeps the keys, or puts a new one at the end, and never repeats one.
-/

namespace Phrasebook.OrderedMap

variable {κ α β : Type} [BEq κ] [LawfulBEq κ]

theorem hasKey_eq_true_iff {key : κ} {entries : OrderedMap κ α} :
    hasKey key entries = true ↔ key ∈ keys entries := by
  simp [hasKey, keys]

theorem hasKey_eq_false_iff {key : κ} {entries : OrderedMap κ α} :
    hasKey key entries = false ↔ key ∉ keys entries := by
  rw [← hasKey_eq_true_iff, Bool.not_eq_true]

theorem mem_of_get?_eq_some {key : κ} {value : α} {entries : OrderedMap κ α}
    (hget : get? key entries = some value) : (key, value) ∈ entries := by
  induction entries with
  | nil => simp [get?] at hget
  | cons entry entries ih =>
      obtain ⟨other, old⟩ := entry
      rw [get?] at hget
      split at hget
      · rename_i hkey
        cases hget
        rw [eq_of_beq hkey]
        exact List.mem_cons_self
      · exact List.mem_cons_of_mem _ (ih hget)

omit [LawfulBEq κ] in
/-- Under any equality of keys, what is found under a key is the value of an entry. -/
theorem exists_mem_of_get?_eq_some {key : κ} {value : α} {entries : OrderedMap κ α}
    (hget : get? key entries = some value) : ∃ entry ∈ entries, entry.2 = value := by
  induction entries with
  | nil => simp [get?] at hget
  | cons entry entries ih =>
      obtain ⟨other, old⟩ := entry
      rw [get?] at hget
      split at hget
      · cases hget
        exact ⟨_, List.mem_cons_self, rfl⟩
      · obtain ⟨entry, hentry, heq⟩ := ih hget
        exact ⟨entry, List.mem_cons_of_mem _ hentry, heq⟩

theorem get?_eq_some_of_mem {key : κ} {value : α} {entries : OrderedMap κ α}
    (hnodup : (keys entries).Nodup) (hmem : (key, value) ∈ entries) :
    get? key entries = some value := by
  induction entries with
  | nil => simp at hmem
  | cons entry entries ih =>
      obtain ⟨other, old⟩ := entry
      rw [keys, List.map_cons, List.nodup_cons] at hnodup
      rcases List.mem_cons.mp hmem with heq | hmem
      · cases heq
        simp [get?]
      · have hkey : other ≠ key := by
          rintro rfl
          exact hnodup.1 (List.mem_map.mpr ⟨(other, value), hmem, rfl⟩)
        simpa [get?, hkey] using ih hnodup.2 hmem

theorem get?_eq_none_iff {key : κ} {entries : OrderedMap κ α} :
    get? key entries = none ↔ key ∉ keys entries := by
  induction entries with
  | nil => simp [get?, keys]
  | cons entry entries ih =>
      obtain ⟨other, old⟩ := entry
      rw [keys] at ih
      by_cases hkey : other = key
      · simp [get?, keys, hkey]
      · simp [get?, keys, hkey, Ne.symm hkey, ih]

/-- Writing what is there already changes nothing. -/
theorem insert_eq_self {key : κ} {value : α} {entries : OrderedMap κ α}
    (hget : get? key entries = some value) : insert key value entries = entries := by
  induction entries with
  | nil => simp [get?] at hget
  | cons entry entries ih =>
      obtain ⟨other, old⟩ := entry
      by_cases hkey : other = key
      · simp_all [get?, insert]
      · simp_all [get?, insert]

/-- A key that is the same as itself and as no other. -/
def IsExact (key : κ) : Prop :=
  ∀ other, ((other == key) = true ↔ other = key) ∧ ((key == other) = true ↔ other = key)

omit [LawfulBEq κ] in
theorem IsExact.get?_insert {key : κ} (hexact : IsExact key) (other : κ) (value : α)
    (entries : OrderedMap κ α) :
    get? key (insert other value entries) =
      if other == key then some value else get? key entries := by
  induction entries with
  | nil => rfl
  | cons entry entries ih =>
      obtain ⟨name, old⟩ := entry
      rw [insert]
      by_cases hname : name = key
      · subst hname
        have hself : (name == name) = true := (hexact name).1.mpr rfl
        by_cases hother : other = name
        · subst hother
          simp [get?, hself]
        · have hforth := mt (hexact other).1.mp hother
          have hback := mt (hexact other).2.mp hother
          simp [get?, hself, hforth, hback]
      · have hmissed := mt (hexact name).1.mp hname
        split
        · rename_i hsame
          have hother : (other == key) = false := by
            by_contra hkey
            rw [(hexact other).1.mp (Bool.not_eq_false _ ▸ hkey)] at hsame
            exact hmissed hsame
          simp [get?, hmissed, hother]
        · simp [get?, hmissed, ih]

theorem isExact (key : κ) : IsExact key := fun _ =>
  ⟨beq_iff_eq, beq_iff_eq.trans eq_comm⟩

theorem get?_insert (key other : κ) (value : α) (entries : OrderedMap κ α) :
    get? key (insert other value entries) =
      if other == key then some value else get? key entries :=
  (isExact key).get?_insert other value entries

/-- What is written first under a key is lost. -/
theorem insert_insert (key : κ) (first second : α) (entries : OrderedMap κ α) :
    insert key second (insert key first entries) = insert key second entries := by
  induction entries with
  | nil => simp [insert]
  | cons entry entries ih =>
      obtain ⟨other, old⟩ := entry
      by_cases hkey : other = key
      · simp [insert, hkey]
      · simp [insert, hkey, ih]

omit [LawfulBEq κ] in
theorem keys_insert_of_hasKey {key : κ} {entries : OrderedMap κ α}
    (hkey : hasKey key entries = true) (value : α) :
    keys (insert key value entries) = keys entries := by
  induction entries with
  | nil => simp [hasKey] at hkey
  | cons entry entries ih =>
      obtain ⟨other, old⟩ := entry
      cases hother : other == key with
      | true => simp [insert, keys, hother]
      | false =>
          have htail : hasKey key entries = true := by simpa [hasKey, hother] using hkey
          rw [keys] at ih
          simpa [insert, keys, hother] using ih htail

omit [LawfulBEq κ] in
theorem insert_of_not_hasKey {key : κ} {entries : OrderedMap κ α}
    (hkey : hasKey key entries = false) (value : α) :
    insert key value entries = entries ++ [(key, value)] := by
  induction entries with
  | nil => rfl
  | cons entry entries ih =>
      obtain ⟨other, old⟩ := entry
      have hboth : (other == key) = false ∧ hasKey key entries = false := by
        simpa only [hasKey, List.any_cons, Bool.or_eq_false_iff] using hkey
      simp [insert, hboth.1, ih hboth.2]

theorem insert_of_not_mem {key : κ} {entries : OrderedMap κ α} (hkey : key ∉ keys entries)
    (value : α) : insert key value entries = entries ++ [(key, value)] :=
  insert_of_not_hasKey (hasKey_eq_false_iff.mpr hkey) value

theorem mem_of_mem_insert {key : κ} {value : α} {entry : κ × α} {entries : OrderedMap κ α}
    (hmem : entry ∈ insert key value entries) : entry = (key, value) ∨ entry ∈ entries := by
  induction entries with
  | nil => exact .inl (List.mem_singleton.mp hmem)
  | cons other entries ih =>
      rw [insert] at hmem
      split at hmem
      · rename_i hkey
        rw [eq_of_beq hkey] at hmem
        exact (List.mem_cons.mp hmem).imp_right (List.mem_cons_of_mem _)
      · rcases List.mem_cons.mp hmem with rfl | hmem
        · exact .inr List.mem_cons_self
        · exact (ih hmem).imp_right (List.mem_cons_of_mem _)

omit [BEq κ] [LawfulBEq κ] in
theorem keys_append (entries others : OrderedMap κ α) :
    keys (entries ++ others) = keys entries ++ keys others := List.map_append

omit [LawfulBEq κ] in
theorem keys_insert (key : κ) (value : α) (entries : OrderedMap κ α) :
    keys (insert key value entries) =
      if hasKey key entries then keys entries else keys entries ++ [key] := by
  split
  · rename_i hkey
    exact keys_insert_of_hasKey hkey value
  · rename_i hkey
    rw [insert_of_not_hasKey (Bool.not_eq_true _ ▸ hkey), keys_append]
    rfl

theorem nodup_keys_insert {entries : OrderedMap κ α} (hnodup : (keys entries).Nodup) (key : κ)
    (value : α) : (keys (insert key value entries)).Nodup := by
  rw [keys_insert]
  split
  · exact hnodup
  · rename_i hkey
    exact List.nodup_append.mpr ⟨hnodup, List.nodup_singleton key, by
      rintro a ha b hb rfl
      exact hkey (hasKey_eq_true_iff.mpr (List.mem_singleton.mp hb ▸ ha))⟩

omit [LawfulBEq κ] in
theorem keys_erase (key : κ) (entries : OrderedMap κ α) :
    keys (erase key entries) = (keys entries).filter fun other => !(other == key) := by
  rw [keys, erase, keys, List.filter_map]
  rfl

/-! ## Writing entries one after another -/

theorem nodup_keys_merge {entries : OrderedMap κ α} (hnodup : (keys entries).Nodup)
    (changes : OrderedMap κ α) : (keys (merge entries changes)).Nodup := by
  induction changes generalizing entries with
  | nil => exact hnodup
  | cons change changes ih => exact ih (nodup_keys_insert hnodup change.1 change.2)

/-- The last change to a key counts; a key without one keeps its value. -/
theorem get?_merge (key : κ) (entries changes : OrderedMap κ α) :
    get? key (merge entries changes) =
      (changes.reverse.lookup key).or (get? key entries) := by
  induction changes generalizing entries with
  | nil => rfl
  | cons change changes ih =>
      rw [merge, List.foldl_cons, ← merge, ih, get?_insert, List.reverse_cons,
        List.lookup_append]
      by_cases hkey : change.1 = key
      · subst hkey
        simp [List.lookup]
      · have hsingle : List.lookup key [change] = none := by
          rw [List.lookup, beq_eq_false_iff_ne.mpr (Ne.symm hkey)]
          rfl
        simp [hsingle, hkey]

theorem nodup_keys_ofList (entries : List (κ × α)) : (keys (ofList entries)).Nodup := by
  have hnil : (keys ([] : OrderedMap κ α)).Nodup := List.nodup_nil
  exact nodup_keys_merge hnil entries

theorem get?_ofList (key : κ) (entries : List (κ × α)) :
    get? key (ofList entries) = entries.reverse.lookup key := by
  rw [ofList, get?_merge, get?, Option.or_none]

/-! ## Changing the values -/

/-- The map with every value changed in its place. -/
def mapValues (f : α → β) (entries : OrderedMap κ α) : OrderedMap κ β :=
  entries.map fun entry => (entry.1, f entry.2)

omit [BEq κ] [LawfulBEq κ] in
@[simp]
theorem keys_mapValues (f : α → β) (entries : OrderedMap κ α) :
    keys (mapValues f entries) = keys entries := by
  rw [keys, mapValues, List.map_map]
  rfl

omit [LawfulBEq κ] in
theorem get?_mapValues (f : α → β) (key : κ) (entries : OrderedMap κ α) :
    get? key (mapValues f entries) = (get? key entries).map f := by
  induction entries with
  | nil => rfl
  | cons entry entries ih =>
      rw [mapValues] at ih
      simp only [mapValues, List.map_cons, get?, ih]
      split <;> rfl

omit [LawfulBEq κ] in
theorem insert_mapValues (f : α → β) (key : κ) (value : α) (entries : OrderedMap κ α) :
    insert key (f value) (mapValues f entries) = mapValues f (insert key value entries) := by
  induction entries with
  | nil => rfl
  | cons entry entries ih =>
      rw [mapValues, mapValues] at ih
      simp only [mapValues, List.map_cons, insert, ih]
      split <;> rfl

omit [LawfulBEq κ] in
theorem erase_mapValues (f : α → β) (key : κ) (entries : OrderedMap κ α) :
    erase key (mapValues f entries) = mapValues f (erase key entries) := by
  rw [erase, mapValues, List.filter_map, mapValues, erase]
  rfl

/-! ## Entries under different keys

Nothing here asks that equality of keys be lawful: the undefined number is a key that differs from
itself, and equal numbers of two kinds are one key. -/

section

omit [LawfulBEq κ]

/-- No key stands for the same entry as a key before it. -/
def IsDistinct (entries : OrderedMap κ α) : Prop :=
  (keys entries).Pairwise fun key other => (key == other) = false

instance (entries : OrderedMap κ α) : Decidable (IsDistinct entries) :=
  inferInstanceAs (Decidable (List.Pairwise _ _))

theorem hasKey_eq_false_iff_forall {key : κ} {entries : OrderedMap κ α} :
    hasKey key entries = false ↔ ∀ other ∈ keys entries, (other == key) = false := by
  simp [hasKey, keys]

theorem IsDistinct.insert {entries : OrderedMap κ α} (hdistinct : IsDistinct entries) (key : κ)
    (value : α) : IsDistinct (insert key value entries) := by
  rw [IsDistinct, keys_insert]
  split
  · exact hdistinct
  · rename_i hkey
    rw [List.pairwise_append]
    refine ⟨hdistinct, List.pairwise_singleton _ _, fun other hother last hlast => ?_⟩
    rw [List.mem_singleton.mp hlast]
    exact hasKey_eq_false_iff_forall.mp (Bool.not_eq_true _ ▸ hkey) other hother

theorem IsDistinct.merge {entries : OrderedMap κ α} (hdistinct : IsDistinct entries)
    (changes : OrderedMap κ α) : IsDistinct (merge entries changes) := by
  induction changes generalizing entries with
  | nil => exact hdistinct
  | cons change changes ih => exact ih (hdistinct.insert change.1 change.2)

theorem IsDistinct.erase {entries : OrderedMap κ α} (hdistinct : IsDistinct entries) (key : κ) :
    IsDistinct (erase key entries) := by
  rw [IsDistinct, keys_erase]
  exact hdistinct.filter _

theorem isDistinct_ofList (entries : List (κ × α)) : IsDistinct (ofList entries) := by
  have hnil : IsDistinct ([] : OrderedMap κ α) := List.Pairwise.nil
  exact hnil.merge entries

/-- Entries whose keys are new are put at the end, in their order. -/
theorem merge_eq_append {entries changes : OrderedMap κ α}
    (hdistinct : IsDistinct (entries ++ changes)) : merge entries changes = entries ++ changes := by
  induction changes generalizing entries with
  | nil => exact (List.append_nil entries).symm
  | cons change changes ih =>
      have hnew : hasKey change.1 entries = false := by
        rw [IsDistinct, keys_append, List.pairwise_append] at hdistinct
        exact hasKey_eq_false_iff_forall.mpr fun other hother =>
          hdistinct.2.2 other hother change.1 List.mem_cons_self
      rw [List.append_cons] at hdistinct ⊢
      rw [merge, List.foldl_cons, insert_of_not_hasKey hnew, ← merge]
      exact ih hdistinct

theorem ofList_eq_self {entries : List (κ × α)} (hdistinct : IsDistinct entries) :
    ofList entries = entries := merge_eq_append hdistinct

variable {P : κ → Prop} {Q : α → Prop}

theorem forall_mem_insert {key : κ} {value : α} {entries : OrderedMap κ α} (hkey : P key)
    (hvalue : Q value) (hentries : ∀ entry ∈ entries, P entry.1 ∧ Q entry.2) :
    ∀ entry ∈ insert key value entries, P entry.1 ∧ Q entry.2 := by
  induction entries with
  | nil => exact List.forall_mem_singleton.mpr ⟨hkey, hvalue⟩
  | cons entry entries ih =>
      rw [List.forall_mem_cons] at hentries
      rw [insert]
      split
      · exact List.forall_mem_cons.mpr ⟨⟨hentries.1.1, hvalue⟩, hentries.2⟩
      · exact List.forall_mem_cons.mpr ⟨hentries.1, ih hentries.2⟩

theorem forall_mem_merge {entries changes : OrderedMap κ α}
    (hchanges : ∀ entry ∈ changes, P entry.1 ∧ Q entry.2)
    (hentries : ∀ entry ∈ entries, P entry.1 ∧ Q entry.2) :
    ∀ entry ∈ merge entries changes, P entry.1 ∧ Q entry.2 := by
  induction changes generalizing entries with
  | nil => exact hentries
  | cons change changes ih =>
      rw [List.forall_mem_cons] at hchanges
      exact ih hchanges.2 (forall_mem_insert hchanges.1.1 hchanges.1.2 hentries)

/-- Keys and values of a written map are keys and values that were written. -/
theorem forall_mem_ofList {entries : List (κ × α)}
    (hentries : ∀ entry ∈ entries, P entry.1 ∧ Q entry.2) :
    ∀ entry ∈ ofList entries, P entry.1 ∧ Q entry.2 := forall_mem_merge hentries nofun

@[simp]
theorem get?_append (key : κ) (entries others : OrderedMap κ α) :
    get? key (entries ++ others) = (get? key entries).or (get? key others) := by
  induction entries with
  | nil => rfl
  | cons entry entries ih =>
      obtain ⟨other, old⟩ := entry
      rw [List.cons_append, get?, get?]
      split
      · rfl
      · exact ih

theorem erase_eq_self {key : κ} {entries : OrderedMap κ α} (hmissing : get? key entries = none) :
    erase key entries = entries := by
  rw [erase, List.filter_eq_self]
  induction entries with
  | nil => nofun
  | cons entry entries ih =>
      obtain ⟨other, old⟩ := entry
      rw [get?] at hmissing
      split at hmissing
      · cases hmissing
      · rename_i hkey
        exact List.forall_mem_cons.mpr ⟨by simpa using hkey, ih hmissing⟩

theorem get?_erase_self (key : κ) (entries : OrderedMap κ α) :
    get? key (erase key entries) = none := by
  induction entries with
  | nil => rfl
  | cons entry entries ih =>
      rw [erase] at ih
      cases hname : entry.1 == key <;> simp [erase, get?, hname, ih]

theorem get?_eq_none_of_hasKey_eq_false {key : κ} {entries : OrderedMap κ α}
    (hkey : hasKey key entries = false) : get? key entries = none := by
  induction entries with
  | nil => rfl
  | cons entry entries ih =>
      have hboth : (entry.1 == key) = false ∧ hasKey key entries = false := by
        simpa only [hasKey, List.any_cons, Bool.or_eq_false_iff] using hkey
      simp [get?, hboth.1, ih hboth.2]

/-- Without the entries of another key a key has the entry it had. -/
theorem IsExact.get?_erase_of_ne {key other : κ} (hexact : IsExact key) (hother : key ≠ other)
    (entries : OrderedMap κ α) : get? key (erase other entries) = get? key entries := by
  have hapart : (key == other) = false := by
    rw [← Bool.not_eq_true, (hexact other).2]
    exact Ne.symm hother
  induction entries with
  | nil => rfl
  | cons entry entries ih =>
      obtain ⟨name, old⟩ := entry
      rw [erase] at ih
      by_cases hname : name = key
      · subst hname
        simp [erase, get?, hapart, (hexact name).1.mpr rfl]
      · have hmissed := mt (hexact name).1.mp hname
        cases hsame : name == other <;> simp [erase, get?, hsame, hmissed, ih]

/-- Under a key the changes count before what they are written over. -/
theorem IsExact.get?_merge {key : κ} (hexact : IsExact key) (entries : OrderedMap κ α)
    {changes : OrderedMap κ α} (hdistinct : IsDistinct changes) :
    get? key (OrderedMap.merge entries changes) = (get? key changes).or (get? key entries) := by
  induction changes generalizing entries with
  | nil => rfl
  | cons change changes ih =>
      obtain ⟨other, value⟩ := change
      have hrest : IsDistinct changes := (List.pairwise_cons.mp hdistinct).2
      have hnew := (List.pairwise_cons.mp hdistinct).1
      rw [OrderedMap.merge, List.foldl_cons, ← OrderedMap.merge, ih _ hrest, hexact.get?_insert,
        get?]
      cases hother : other == key with
      | false => simp
      | true =>
          rw [(hexact other).1.mp hother] at hnew
          have hmissing : get? key changes = none :=
            get?_eq_none_of_hasKey_eq_false (hasKey_eq_false_iff_forall.mpr fun name hname => by
              rw [← Bool.not_eq_true, (hexact name).1, ← (hexact name).2, Bool.not_eq_true]
              exact hnew name hname)
          simp [hmissing]

/-! ### Orders of the same entries -/

section

variable [PartialEquivBEq κ]

theorem IsDistinct.perm {entries others : OrderedMap κ α} (hdistinct : IsDistinct entries)
    (hperm : entries.Perm others) : IsDistinct others := by
  have hsymm : ∀ {key other : κ}, (key == other) = false → (other == key) = false := by
    intro key other hapart
    rw [← Bool.not_eq_true] at hapart ⊢
    exact mt BEq.symm hapart
  exact (List.Perm.map _ hperm).pairwise hdistinct hsymm

/-- Under every key two orders of the same entries hold the same value. -/
theorem get?_perm {entries others : OrderedMap κ α} (hperm : entries.Perm others)
    (hdistinct : IsDistinct entries) (key : κ) : get? key entries = get? key others := by
  induction hperm with
  | nil => rfl
  | cons entry hperm ih =>
      rw [get?, get?, ih (List.pairwise_cons.mp hdistinct).2]
  | swap first second rest =>
      have hapart : (second.1 == first.1) = false :=
        (List.pairwise_cons.mp hdistinct).1 first.1 List.mem_cons_self
      simp only [get?]
      cases hsecond : second.1 == key with
      | false => rfl
      | true =>
          cases hfirst : first.1 == key with
          | false => rfl
          | true => exact absurd (BEq.trans hsecond (BEq.symm hfirst)) (ne_true_of_eq_false hapart)
  | trans hperm _ ihfirst ihsecond =>
      exact (ihfirst hdistinct).trans (ihsecond (hdistinct.perm hperm))

end

/-! ### Entries that give a value -/

/-- What the entries give under their keys; those that give nothing are left out. -/
def collect (f : κ → α → Option β) (entries : OrderedMap κ α) : OrderedMap κ β :=
  entries.filterMap fun entry => (f entry.1 entry.2).map (entry.1, ·)

omit [BEq κ] in
theorem mem_collect_iff {f : κ → α → Option β} {entries : OrderedMap κ α} {key : κ} {value : β} :
    (key, value) ∈ collect f entries ↔ ∃ old, (key, old) ∈ entries ∧ f key old = some value := by
  simp only [collect, List.mem_filterMap, Option.map_eq_some_iff, Prod.mk.injEq, Prod.exists]
  constructor
  · rintro ⟨_, old, hmem, _, hgives, rfl, rfl⟩
    exact ⟨old, hmem, hgives⟩
  · rintro ⟨old, hmem, hgives⟩
    exact ⟨key, old, hmem, value, hgives, rfl, rfl⟩

omit [BEq κ] in
theorem keys_collect_sublist (f : κ → α → Option β) (entries : OrderedMap κ α) :
    (keys (collect f entries)).Sublist (keys entries) := by
  induction entries with
  | nil => exact List.Sublist.slnil
  | cons entry entries ih =>
      rw [collect, List.filterMap_cons, ← collect]
      cases f entry.1 entry.2 with
      | none => exact ih.cons entry.1
      | some value => exact ih.cons_cons entry.1

theorem IsDistinct.collect {entries : OrderedMap κ α} (hdistinct : IsDistinct entries)
    (f : κ → α → Option β) : IsDistinct (collect f entries) :=
  List.Pairwise.sublist (keys_collect_sublist f entries) hdistinct

end

end Phrasebook.OrderedMap
