import Mathlib
import Phrasebook.Proofs.OrderedMap
import Phrasebook.Proofs.Slot.Coercion

/-!
# When parameters come about

Captured texts amount to parameters unless one of them escapes from its slot.  Slots are delivered
one after another, so a single escape costs a message all its parameters.
-/

namespace Phrasebook.Parameters

theorem exists_declared_iff (raw : Raw) (schema : Schema) :
    (∃ parameters, declared raw schema = .ok parameters) ↔
      ∀ entry ∈ schema, ∃ value, entry.2.deliver (raw.captured entry.1) = .ok value := by
  induction schema with
  | nil => simp [declared]
  | cons entry schema ih =>
      obtain ⟨name, slot⟩ := entry
      rw [declared, exists_bind_iff, List.forall_mem_cons, ← ih]
      constructor
      · rintro ⟨value, hvalue, hrest⟩
        obtain ⟨others, hothers, -⟩ := exists_bind_iff.mp hrest
        exact ⟨⟨value, hvalue⟩, others, hothers⟩
      · rintro ⟨⟨value, hvalue⟩, others, hothers⟩
        refine ⟨value, hvalue, exists_bind_iff.mpr ⟨others, hothers, ?_⟩⟩
        cases value <;> exact ⟨_, rfl⟩

theorem exists_undeclared (captures : Captures) (schema : Schema) :
    ∃ parameters, undeclared schema (.ofCaptures captures) = .ok parameters := by
  induction captures with
  | nil => exact ⟨[], rfl⟩
  | cons capture captures ih =>
      rw [Raw.ofCaptures, List.map_cons, undeclared, ← Raw.ofCaptures]
      split
      · exact ih
      · obtain ⟨others, hothers⟩ := ih
        refine exists_bind_iff.mpr ⟨capture.2, rfl, exists_bind_iff.mpr ⟨others, hothers, ?_⟩⟩
        split <;> exact ⟨_, rfl⟩

/-- Captured texts amount to parameters if every slot delivers what was captured for it. -/
theorem exists_ofCaptures_iff_deliver (captures : Captures) (schema : Schema) :
    (∃ parameters, ofCaptures captures schema = .ok parameters) ↔ ∀ entry ∈ schema,
      ∃ value, entry.2.deliver ((Raw.ofCaptures captures).captured entry.1) = .ok value := by
  rw [ofCaptures, ofRaw, exists_bind_iff, ← exists_declared_iff]
  refine exists_congr fun known => and_iff_left (exists_bind_iff.mpr ?_)
  obtain ⟨others, hothers⟩ := exists_undeclared captures schema
  exact ⟨others, hothers, _, rfl⟩

/-- The text captured first under a name counts. -/
theorem captured_ofCaptures_eq (captures : Captures) (name : Key) :
    (Raw.ofCaptures captures).captured name =
      ((captures.find? fun entry => Key.text entry.1 == name).map (Value.text ·.2)).getD .null := by
  induction captures with
  | nil => rfl
  | cons capture captures ih =>
      rw [Raw.captured, Raw.ofCaptures] at ih
      rw [Raw.captured, Raw.ofCaptures, List.map_cons, OrderedMap.get?, List.find?_cons]
      cases Key.text capture.1 == name with
      | true => rfl
      | false => exact ih

/-- Nothing was captured for a slot, or one of the captured texts. -/
theorem captured_ofCaptures (captures : Captures) (name : Key) :
    (Raw.ofCaptures captures).captured name = .null ∨
      ∃ entry ∈ captures, (Raw.ofCaptures captures).captured name = .text entry.2 := by
  rw [captured_ofCaptures_eq]
  cases hfind : captures.find? fun entry => Key.text entry.1 == name with
  | none => exact .inl rfl
  | some entry => exact .inr ⟨entry, List.mem_of_find?_eq_some hfind, rfl⟩

/-- Under slots without dates whose limits can be shown, any captured texts amount to
parameters. -/
theorem exists_ofCaptures_of_isPlain {schema : Schema}
    (hplain : ∀ entry ∈ schema, entry.2.kind.IsPlain) (captures : Captures) :
    ∃ parameters, ofCaptures captures schema = .ok parameters := by
  rw [exists_ofCaptures_iff_deliver]
  intro entry hentry
  rcases captured_ofCaptures captures entry.1 with hnull | ⟨capture, -, htext⟩
  · rw [hnull]
    exact entry.2.exists_deliver_null
  · rw [htext, Slot.exists_deliver_text_iff (hplain entry hentry).wellTyped fun _ _ hdate =>
      absurd hdate ((hplain entry hentry).timeless _ _)]
    exact fun hescapes => (hplain entry hentry).not_escapes _ hescapes.2

/-- A date from a bound on, and a number that is not negative. -/
def birthday : Schema :=
  [(.text "fecha", ⟨false, .null, .null, .date (.text "0001-01-01") .null⟩),
    (.text "edad", ⟨true, .null, .int 0, .number (.int 0) .null⟩)]

theorem isWellTyped_birthday : ∀ entry ∈ birthday, entry.2.kind.IsWellTyped := by
  simp only [birthday, List.forall_mem_cons, List.not_mem_nil, false_implies, implies_true,
    and_true]
  exact ⟨⟨.inr ⟨_, rfl, by decide⟩, .inl rfl⟩, .inr ⟨_, rfl⟩, .inl rfl⟩

/-- The first hour of the first day, an hour ahead of universal time, is out of range. -/
theorem escapes_first_hour :
    (⟨false, .null, .null, .date (.text "0001-01-01") .null⟩ : Slot).Escapes
      "0001-01-01T00:00:00+01:00" := by
  have hmoment : Instant.momentOf? "0001-01-01T00:00:00+01:00" =
      some ⟨⟨1, 1, 1⟩, ⟨0, 0, 0, 0⟩, 3600000000⟩ := by decide
  exact ⟨by decide, _, hmoment, .inl fun hrange => absurd hrange.1 (by decide)⟩

theorem isReadable_first_hour : Instant.IsReadable "0001-01-01T00:00:00+01:00" :=
  fun hnone => absurd hnone (by decide)

end Phrasebook.Parameters
