import Mathlib
import Phrasebook.Proofs.Intent.Reread
import Phrasebook.Proofs.OrderedMap
import Phrasebook.Proofs.Parameters
import Phrasebook.Proofs.Slot.Admitted

/-!
# Where parameters come from

A parameter is what a slot makes of its captured text, the fallback of a required slot that makes
nothing of it, or a captured text that no slot is declared for.  Each of them is a value under the
name of its slot, and the order of the captured texts decides only the order of those without a
slot.
-/

namespace Phrasebook

/-! ## Names of entries -/

theorem Key.beq_iff {left right : Key} : (left == right) = true ↔
    left = right ∧ left.number? = none ∨
      ∃ low high, left.number? = some low ∧ right.number? = some high ∧ low.same high = true := by
  show Key.same left right = true ↔ _
  cases left <;> cases right <;> simp [Key.same, Key.number?]

/-- Numbers of one value are one name, so names that are the same need not be equal.  The undefined
number is not even the same as itself. -/
instance : PartialEquivBEq Key where
  symm := by
    intro left right hsame
    obtain ⟨rfl, hnone⟩ | ⟨low, high, hlow, hhigh, hsame⟩ := Key.beq_iff.mp hsame
    · exact Key.beq_iff.mpr (.inl ⟨rfl, hnone⟩)
    · exact Key.beq_iff.mpr (.inr ⟨high, low, hhigh, hlow, Number.same_symm hsame⟩)
  trans := by
    intro left middle right hleft hright
    obtain ⟨rfl, -⟩ | ⟨low, mid, hlow, hmid, hleft⟩ := Key.beq_iff.mp hleft
    · exact hright
    · obtain ⟨rfl, -⟩ | ⟨other, high, hother, hhigh, hright⟩ := Key.beq_iff.mp hright
      · exact Key.beq_iff.mpr (.inr ⟨low, mid, hlow, hmid, hleft⟩)
      · cases hmid.symm.trans hother
        exact Key.beq_iff.mpr (.inr ⟨low, high, hlow, hhigh, Number.same_trans hleft hright⟩)

/-! ## What a slot delivers -/

namespace Slot

/-- A required slot delivers its fallback for want of a value. -/
structure FallsBack (slot : Slot) (captured : Value) : Prop where
  missing : slot.coerce captured = .ok none
  required : slot.required = true
  present : slot.fallback.isNull = false

theorem deliver_eq_some_iff {slot : Slot} {captured value : Value} :
    slot.deliver captured = .ok (some value) ↔ slot.coerce captured = .ok (some value) ∨
      slot.FallsBack captured ∧ slot.fallback = value := by
  rw [deliver, bind_eq_ok_iff]
  constructor
  · rintro ⟨coerced, hcoerced, hdelivered⟩
    cases coerced with
    | some found =>
        cases hdelivered
        exact .inl hcoerced
    | none =>
        have hfallback := Except.ok.inj hdelivered
        rw [Option.ite_none_right_eq_some, Bool.and_eq_true, Bool.not_eq_true',
          Option.some.injEq] at hfallback
        exact .inr ⟨⟨hcoerced, hfallback.1.1, hfallback.1.2⟩, hfallback.2⟩
  · rintro (hvalue | ⟨⟨hmissing, hrequired, hpresent⟩, rfl⟩)
    · exact ⟨some value, hvalue, rfl⟩
    · refine ⟨none, hmissing, ?_⟩
      simp [hrequired, hpresent, pure, Except.pure]

theorem exists_text_of_coerce {slot : Slot} {captured value : Value}
    (hvalue : slot.coerce captured = .ok (some value)) : ∃ text, captured = .text text := by
  rw [coerce] at hvalue
  split at hvalue
  · exact absurd hvalue nofun
  · obtain ⟨text, htext, -⟩ := bind_eq_ok_iff.mp hvalue
    exact ⟨text, Value.toText_eq_ok_iff.mp htext⟩

end Slot

namespace Parameters

open OrderedMap

/-! ## The declared and the others -/

/-- What a slot contributes under its name. -/
def delivered? (raw : Raw) (name : Key) (slot : Slot) : Option Value :=
  (slot.deliver (raw.captured name)).toOption.join

/-- What a captured text contributes if no slot is declared for it. -/
def passed? (schema : Schema) (name : Key) (captured : Value) : Option Value :=
  match captured with
  | .text text =>
      if hasKey name schema || isBlankText text then none else some (.text (trimmed text))
  | _ => none

theorem delivered?_eq_some_iff {raw : Raw} {name : Key} {slot : Slot} {value : Value} :
    delivered? raw name slot = some value ↔
      slot.deliver (raw.captured name) = .ok (some value) := by
  rw [delivered?]
  cases slot.deliver (raw.captured name) with
  | error fault => exact iff_of_false nofun nofun
  | ok delivered => cases delivered <;> simp [Except.toOption]

theorem passed?_eq_some_iff {schema : Schema} {name : Key} {captured value : Value} :
    passed? schema name captured = some value ↔ hasKey name schema = false ∧
      ∃ text, captured = .text text ∧ isBlankText text = false ∧ .text (trimmed text) = value := by
  cases captured with
  | text text => simp [passed?, and_assoc]
  | _ => simp [passed?]

theorem collect_of_declared {raw : Raw} {schema : Schema} {known : Parameters}
    (hknown : declared raw schema = .ok known) : known = collect (delivered? raw) schema := by
  induction schema generalizing known with
  | nil => exact (Except.ok.inj hknown).symm
  | cons entry schema ih =>
      obtain ⟨name, slot⟩ := entry
      rw [declared, bind_eq_ok_iff] at hknown
      obtain ⟨delivered, hdelivered, hrest⟩ := hknown
      obtain ⟨others, hothers, hresult⟩ := bind_eq_ok_iff.mp hrest
      rw [collect, List.filterMap_cons, ← collect, ← ih hothers, delivered?, hdelivered]
      cases delivered <;> exact (Except.ok.inj hresult).symm

theorem undeclared_cons_eq_ok_iff {schema : Schema} {raw : Raw} {name : Key} {captured : Value}
    {others : Parameters} (hkey : hasKey name schema = false) :
    undeclared schema ((name, captured) :: raw) = .ok others ↔
      ∃ text, captured = .text text ∧ ∃ rest, undeclared schema raw = .ok rest ∧
        (if isBlankText text then rest else (name, .text (trimmed text)) :: rest) = others := by
  rw [undeclared, if_neg (ne_true_of_eq_false hkey), bind_eq_ok_iff]
  refine exists_congr fun text => and_congr Value.toText_eq_ok_iff ?_
  rw [bind_eq_ok_iff]
  refine exists_congr fun rest => and_congr_right fun _ => ?_
  split <;> exact ⟨Except.ok.inj, congrArg Except.ok⟩

/-- A captured value without a slot has to be a text; the blank ones are left out. -/
theorem undeclared_eq_ok_iff {schema : Schema} {raw : Raw} {others : Parameters} :
    undeclared schema raw = .ok others ↔
      (∀ entry ∈ raw, hasKey entry.1 schema = false → entry.2.IsText) ∧
        collect (passed? schema) raw = others := by
  induction raw generalizing others with
  | nil => simp [undeclared, collect]
  | cons entry raw ih =>
      obtain ⟨name, captured⟩ := entry
      rw [List.forall_mem_cons, collect, List.filterMap_cons, ← collect]
      cases hkey : hasKey name schema with
      | true =>
          have hpassed : passed? schema name captured = none := by
            cases captured <;> simp [passed?, hkey]
          rw [undeclared, if_pos hkey, ih, hpassed]
          simp
      | false =>
          rw [undeclared_cons_eq_ok_iff hkey]
          constructor
          · rintro ⟨text, rfl, rest, hrest, rfl⟩
            obtain ⟨htexts, rfl⟩ := ih.mp hrest
            refine ⟨⟨fun _ => ⟨text, rfl⟩, htexts⟩, ?_⟩
            cases hblank : isBlankText text <;> simp [passed?, hkey, hblank]
          · rintro ⟨⟨htext, htexts⟩, rfl⟩
            obtain ⟨text, rfl⟩ := htext rfl
            refine ⟨text, rfl, _, ih.mpr ⟨htexts, rfl⟩, ?_⟩
            cases hblank : isBlankText text <;> simp [passed?, hkey, hblank]

theorem ofRaw_eq_ok_iff {raw : Raw} {schema : Schema} {parameters : Parameters} :
    ofRaw raw schema = .ok parameters ↔ ∃ known others, declared raw schema = .ok known ∧
      undeclared schema raw = .ok others ∧ known ++ others = parameters := by
  rw [ofRaw, bind_eq_ok_iff]
  refine exists_congr fun known => ?_
  rw [exists_and_left]
  exact and_congr_right fun _ => bind_pure_eq_ok_iff

/-! ## The order of the captured texts -/

/-- The slots look at what was captured under each name. -/
theorem declared_congr {raw other : Raw} (hsame : ∀ name, raw.captured name = other.captured name)
    (schema : Schema) : declared raw schema = declared other schema := by
  induction schema with
  | nil => rfl
  | cons entry schema ih => rw [declared, declared, hsame, ih]

section

variable {raw other : Raw} (hperm : raw.Perm other)

include hperm

theorem declared_perm (hdistinct : IsDistinct raw) (schema : Schema) :
    declared raw schema = declared other schema := by
  refine declared_congr (fun name => ?_) schema
  rw [Raw.captured, Raw.captured, get?_perm hperm hdistinct]

theorem undeclared_perm {schema : Schema} {others : Parameters}
    (hothers : undeclared schema raw = .ok others) :
    ∃ reordered, undeclared schema other = .ok reordered ∧ others.Perm reordered := by
  obtain ⟨htexts, rfl⟩ := undeclared_eq_ok_iff.mp hothers
  refine ⟨_, undeclared_eq_ok_iff.mpr ⟨fun entry hentry => ?_, rfl⟩, hperm.filterMap _⟩
  exact htexts entry (hperm.mem_iff.mpr hentry)

end

/-! ## All parameters -/

/-- The ways a parameter comes about. -/
inductive IsDue (raw : Raw) (schema : Schema) (name : Key) : Value → Prop
  /-- A slot makes the value of what was captured. -/
  | coerced {slot : Slot} {value : Value} (hslot : (name, slot) ∈ schema)
      (hvalue : slot.coerce (raw.captured name) = .ok (some value)) : IsDue raw schema name value
  /-- A required slot that makes nothing of it has a fallback. -/
  | fallback {slot : Slot} (hslot : (name, slot) ∈ schema)
      (hfalls : slot.FallsBack (raw.captured name)) : IsDue raw schema name slot.fallback
  /-- A text that is not blank was captured without a slot. -/
  | passed {text : String} (hname : hasKey name schema = false) (htext : (name, .text text) ∈ raw)
      (hpresent : isBlankText text = false) : IsDue raw schema name (.text (trimmed text))

variable {raw : Raw} {schema : Schema} {name : Key} {value : Value}

theorem isDue_iff : IsDue raw schema name value ↔
    (∃ slot, (name, slot) ∈ schema ∧ delivered? raw name slot = some value) ∨
      ∃ captured, (name, captured) ∈ raw ∧ passed? schema name captured = some value := by
  simp only [delivered?_eq_some_iff, Slot.deliver_eq_some_iff, passed?_eq_some_iff]
  constructor
  · intro hdue
    cases hdue with
    | coerced hslot hvalue => exact .inl ⟨_, hslot, .inl hvalue⟩
    | fallback hslot hfalls => exact .inl ⟨_, hslot, .inr ⟨hfalls, rfl⟩⟩
    | passed hname htext hpresent => exact .inr ⟨_, htext, hname, _, rfl, hpresent, rfl⟩
  · rintro (⟨slot, hslot, hvalue | ⟨hfalls, rfl⟩⟩ | ⟨_, htext, hname, text, rfl, hpresent, rfl⟩)
    · exact .coerced hslot hvalue
    · exact .fallback hslot hfalls
    · exact .passed hname htext hpresent

theorem hasKey_of_undeclared {others : Parameters} (hothers : undeclared schema raw = .ok others) :
    ∀ name ∈ keys others, hasKey name schema = false := by
  rw [← (undeclared_eq_ok_iff.mp hothers).2]
  intro name hname
  obtain ⟨entry, hentry, rfl⟩ := List.mem_map.mp hname
  obtain ⟨captured, -, hpassed⟩ := mem_collect_iff.mp hentry
  exact (passed?_eq_some_iff.mp hpassed).1

theorem isDistinct_append {known others : Parameters} (hraw : IsDistinct raw)
    (hschema : IsDistinct schema) (hknown : declared raw schema = .ok known)
    (hothers : undeclared schema raw = .ok others) : IsDistinct (known ++ others) := by
  have hdeclared := collect_of_declared hknown
  have hpassed := (undeclared_eq_ok_iff.mp hothers).2
  rw [IsDistinct, keys_append, List.pairwise_append]
  refine ⟨hdeclared ▸ hschema.collect _, hpassed ▸ hraw.collect _, ?_⟩
  -- What is passed on has no slot, so its name is not that of any slot before it.
  intro first hfirst second hsecond
  apply hasKey_eq_false_iff_forall.mp (hasKey_of_undeclared hothers second hsecond)
  rw [hdeclared] at hfirst
  exact (keys_collect_sublist _ _).subset hfirst

/-- What a purchase asks for: a short name, an amount, an urgency and a day from 2024 on. -/
def purchase : Schema :=
  [(.text "cliente", ⟨true, .null, .null, .string (.int 2) (.int 5) (some .capitalize)⟩),
    (.text "importe", ⟨true, .null, .int 10, .number (.int 0) (.int 500)⟩),
    (.text "urgente", ⟨true, .null, .bool true, .boolean⟩),
    (.text "entrega", ⟨true, .null, .text "pronto", .date (.text "2024-01-01") .null⟩)]

/-- A purchase with a day that is too early, and with a remark. -/
def purchased : Raw :=
  [(.text "nota", .text " sin prisa "), (.text "urgente", .text "no"),
    (.text "importe", .text "0"), (.text "cliente", .text "mariana"),
    (.text "entrega", .text "2023-12-31")]

theorem isConsistent_purchase : ∀ entry ∈ purchase, entry.2.kind.IsConsistent := by
  simp only [purchase, List.forall_mem_cons, List.not_mem_nil, false_implies, implies_true,
    and_true]
  refine ⟨?_, fun _ => ?_, trivial, trivial⟩
  · show Slot.checkLengths (.int 2) (.int 5) = .ok ()
    decide +kernel
  · show Slot.forbid .minAboveMax (.int 500) (Value.int 0).greaterThan = .ok ()
    decide +kernel

theorem hasWholeLengths_purchase : ∀ entry ∈ purchase, entry.2.kind.HasWholeLengths := by
  simp only [purchase, List.forall_mem_cons, List.not_mem_nil, false_implies, implies_true,
    and_true]
  exact ⟨⟨.inr ⟨2, rfl⟩, .inr ⟨5, rfl⟩⟩, trivial, trivial, trivial⟩

end Parameters

end Phrasebook
