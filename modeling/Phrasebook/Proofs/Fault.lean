import Mathlib
import Phrasebook.Value.Convert

/-!
# Computations that may fail

A computation in steps succeeds exactly when each of its steps does.
-/

namespace Phrasebook

theorem bind_eq_ok_iff {ε α β : Type} {first : Except ε α} {next : α → Except ε β} {result : β} :
    (first >>= next) = .ok result ↔ ∃ value, first = .ok value ∧ next value = .ok result := by
  cases first with
  | error fault =>
      constructor
      · intro hresult
        cases hresult
      · rintro ⟨value, hvalue, -⟩
        cases hvalue
  | ok value =>
      constructor
      · exact fun hresult => ⟨value, rfl, hresult⟩
      · rintro ⟨_, hvalue, hresult⟩
        cases hvalue
        exact hresult

theorem bind_pure_eq_ok_iff {ε α β : Type} {first : Except ε α} {result : α → β} {found : β} :
    (do return result (← first) : Except ε β) = .ok found ↔
      ∃ value, first = .ok value ∧ result value = found := by
  rw [bind_eq_ok_iff]
  exact exists_congr fun value => and_congr_right fun _ => ⟨Except.ok.inj, congrArg Except.ok⟩

/-- A computation in two steps returns if the first does, and the second does after it. -/
theorem exists_bind_iff {ε α β : Type} {first : Except ε α} {next : α → Except ε β} :
    (∃ result, (first >>= next) = .ok result) ↔
      ∃ value, first = .ok value ∧ ∃ result, next value = .ok result := by
  simp only [bind_eq_ok_iff]
  constructor
  · rintro ⟨result, value, hvalue, hresult⟩
    exact ⟨value, hvalue, result, hresult⟩
  · rintro ⟨value, hvalue, result, hresult⟩
    exact ⟨result, value, hvalue, hresult⟩

theorem eq_ok_of_toOption {ε α : Type} {result : Except ε α} {value : α}
    (hresult : result.toOption = some value) : result = .ok value := by
  cases result with
  | error => cases hresult
  | ok found =>
      cases hresult
      rfl

theorem exists_of_any_toOption {ε α : Type} {result : Except ε α} {p : α → Bool}
    (hany : result.toOption.any p = true) : ∃ value, result = .ok value ∧ p value = true := by
  cases result with
  | error fault => cases hany
  | ok value => exact ⟨value, rfl, hany⟩

/-- A step on every item returns what it returns on each of them. -/
theorem mapM_eq_ok_iff {ε α β : Type} {step : α → Except ε β} {items : List α}
    {results : List β} :
    items.mapM step = .ok results ↔
      List.Forall₂ (fun item result => step item = .ok result) items results := by
  induction items generalizing results with
  | nil =>
      rw [List.mapM_nil, List.forall₂_nil_left_iff]
      constructor
      · rintro ⟨⟩
        rfl
      · rintro rfl
        rfl
  | cons item items ih =>
      simp only [List.mapM_cons, bind_eq_ok_iff, List.forall₂_cons_left_iff, ih]
      constructor
      · rintro ⟨first, hfirst, rest, hrest, hresults⟩
        cases hresults
        exact ⟨first, rest, hfirst, hrest, rfl⟩
      · rintro ⟨first, rest, hfirst, hrest, rfl⟩
        exact ⟨first, hfirst, rest, hrest, rfl⟩

/-- What steps on the items return has what each of them gives its result. -/
theorem forall_mem_of_mapM_eq_ok {ε α β : Type} {step : α → Except ε β} {P : β → Prop}
    {items : List α} {results : List β} (hresults : items.mapM step = .ok results)
    (hstep : ∀ item result, step item = .ok result → P result) : ∀ result ∈ results, P result := by
  rw [mapM_eq_ok_iff] at hresults
  induction hresults with
  | nil => nofun
  | cons hresult hresults ih => exact List.forall_mem_cons.mpr ⟨hstep _ _ hresult, ih⟩

theorem mapM_map_eq_ok {ε α β : Type} {step : β → Except ε α} {shown : α → β} {items : List α}
    (hitems : ∀ item ∈ items, step (shown item) = .ok item) :
    (items.map shown).mapM step = .ok items := by
  rw [mapM_eq_ok_iff, List.forall₂_map_left_iff, List.forall₂_same]
  exact hitems

/-- Whatever fault a computation ends with is of the given kind. -/
def FailsOnly {α : Type} (kind : Fault → Prop) (result : Except Fault α) : Prop :=
  ∀ fault, result = .error fault → kind fault

namespace FailsOnly

variable {α β : Type} {kind : Fault → Prop}

theorem ok (value : α) : FailsOnly kind (.ok value) := nofun

theorem of_exists {result : Except Fault α} (hok : ∃ value, result = .ok value) :
    FailsOnly kind result := by
  obtain ⟨value, rfl⟩ := hok
  exact ok value

@[simp]
theorem ok_iff (value : α) : FailsOnly kind (.ok value) ↔ True := iff_true_intro (ok value)

@[simp]
theorem error_iff {fault : Fault} :
    FailsOnly kind (.error fault : Except Fault α) ↔ kind fault := by
  constructor
  · exact fun hfails => hfails fault rfl
  · intro hfault found hfound
    cases hfound
    exact hfault

@[simp]
theorem invalid_iff {cause : Invalid} :
    FailsOnly kind (invalid cause : Except Fault α) ↔ kind (.invalid cause) := error_iff

/-- A step that is reached fails with the faults of its own kind. -/
theorem bind {first : Except Fault α} {next : α → Except Fault β}
    (hfirst : FailsOnly kind first)
    (hnext : ∀ value, first = .ok value → FailsOnly kind (next value)) :
    FailsOnly kind (first >>= next) := by
  cases first with
  | error fault => exact error_iff.mpr (hfirst fault rfl)
  | ok value => exact hnext value rfl

theorem bind_iff {first : Except Fault α} {next : α → Except Fault β} :
    FailsOnly kind (first >>= next) ↔
      FailsOnly kind first ∧ ∀ value, first = .ok value → FailsOnly kind (next value) := by
  constructor
  · intro hboth
    cases first with
    | error fault => exact ⟨error_iff.mpr (hboth fault rfl), nofun⟩
    | ok value =>
        refine ⟨ok value, ?_⟩
        rintro _ ⟨⟩
        exact hboth
  · exact fun hboth => bind hboth.1 hboth.2

/-- A second step that is taken without fail changes nothing. -/
theorem bind_pure_iff {first : Except Fault α} {result : α → β} :
    FailsOnly kind (do return result (← first)) ↔ FailsOnly kind first :=
  bind_iff.trans (and_iff_left fun _ _ => ok _)

theorem mapM {step : α → Except Fault β} (hstep : ∀ item, FailsOnly kind (step item))
    (items : List α) : FailsOnly kind (items.mapM step) := by
  induction items with
  | nil => exact .ok []
  | cons item items ih =>
      rw [List.mapM_cons]
      exact .bind (hstep item) fun _ _ => .bind ih fun _ _ => .ok _

theorem foldlM {step : α → β → Except Fault α}
    (hstep : ∀ known item, FailsOnly kind (step known item)) (known : α) (items : List β) :
    FailsOnly kind (items.foldlM step known) := by
  induction items generalizing known with
  | nil => exact .ok known
  | cons item items ih =>
      rw [List.foldlM_cons]
      exact .bind (hstep known item) fun next _ => ih next

end FailsOnly

/-! ## Crashes -/

/-- A fault that says which rule a text, a number or a declaration breaks. -/
@[simp]
def Fault.IsRule : Fault → Prop
  | .invalid _ => True
  | _ => False

/-- A computation ends with a fault that is none of a rule: it met a value that it has no meaning
for. -/
def Crashes {α : Type} (result : Except Fault α) : Prop :=
  ∃ fault, result = .error fault ∧ ¬ fault.IsRule

/-- Of some items in order, the first that does not pass breaks. -/
inductive FirstBreaks {α : Type} (passes breaks : α → Prop) : List α → Prop
  | here {item : α} {rest : List α} : breaks item → FirstBreaks passes breaks (item :: rest)
  | later {item : α} {rest : List α} : passes item → FirstBreaks passes breaks rest →
      FirstBreaks passes breaks (item :: rest)

section Crashes

variable {α β : Type}

theorem firstBreaks_nil_iff {passes breaks : α → Prop} :
    FirstBreaks passes breaks [] ↔ False := iff_false_intro nofun

theorem firstBreaks_cons_iff {passes breaks : α → Prop} {item : α} {rest : List α} :
    FirstBreaks passes breaks (item :: rest) ↔
      breaks item ∨ passes item ∧ FirstBreaks passes breaks rest := by
  constructor
  · intro hfirst
    cases hfirst with
    | here hbreaks => exact .inl hbreaks
    | later hpasses hrest => exact .inr ⟨hpasses, hrest⟩
  · rintro (hbreaks | ⟨hpasses, hrest⟩)
    · exact .here hbreaks
    · exact .later hpasses hrest

theorem FirstBreaks.exists_breaks {passes breaks : α → Prop} {items : List α}
    (hfirst : FirstBreaks passes breaks items) : ∃ item ∈ items, breaks item := by
  induction hfirst with
  | here hbreaks => exact ⟨_, List.mem_cons_self, hbreaks⟩
  | later _ _ ih =>
      obtain ⟨item, hitem, hbreaks⟩ := ih
      exact ⟨item, List.mem_cons_of_mem _ hitem, hbreaks⟩

/-- Where every item either passes or breaks, one that breaks suffices. -/
theorem firstBreaks_iff_exists {passes breaks : α → Prop} {items : List α}
    (heither : ∀ item, passes item ↔ ¬ breaks item) :
    FirstBreaks passes breaks items ↔ ∃ item ∈ items, breaks item := by
  refine ⟨FirstBreaks.exists_breaks, ?_⟩
  rintro ⟨item, hitem, hbreaks⟩
  induction items with
  | nil => cases hitem
  | cons first rest ih =>
      by_cases hfirst : breaks first
      · exact .here hfirst
      · rcases List.mem_cons.mp hitem with rfl | hitem
        · exact absurd hbreaks hfirst
        · exact .later ((heither first).mpr hfirst) (ih hitem)

@[simp]
theorem not_crashes_ok (value : α) : ¬ Crashes (.ok value) := by
  rintro ⟨fault, ⟨⟩, -⟩

@[simp]
theorem not_crashes_pure (value : α) : ¬ Crashes (pure value) := not_crashes_ok value

@[simp]
theorem crashes_error_iff {fault : Fault} :
    Crashes (.error fault : Except Fault α) ↔ ¬ fault.IsRule := by
  constructor
  · rintro ⟨_, ⟨⟩, hfault⟩
    exact hfault
  · exact fun hfault => ⟨fault, rfl, hfault⟩

@[simp]
theorem not_crashes_invalid (cause : Invalid) : ¬ Crashes (invalid cause : Except Fault α) :=
  fun hcrashes => crashes_error_iff.mp hcrashes trivial

/-- A computation in two steps crashes in the first, or in the second after the first. -/
theorem crashes_bind_iff {first : Except Fault α} {next : α → Except Fault β} :
    Crashes (first >>= next) ↔
      Crashes first ∨ ∃ value, first = .ok value ∧ Crashes (next value) := by
  cases first with
  | error fault =>
      constructor
      · rintro ⟨_, ⟨⟩, hfault⟩
        exact .inl (crashes_error_iff.mpr hfault)
      · rintro (hcrashes | ⟨_, ⟨⟩, -⟩)
        exact ⟨fault, rfl, crashes_error_iff.mp hcrashes⟩
  | ok value =>
      constructor
      · exact fun hcrashes => .inr ⟨value, rfl, hcrashes⟩
      · rintro (hcrashes | ⟨_, ⟨⟩, hcrashes⟩)
        · exact absurd hcrashes (not_crashes_ok value)
        · exact hcrashes

/-- The same with what either step does said in other words. -/
theorem crashes_bind_iff_of {first : Except Fault α} {next : α → Except Fault β}
    {passes breaks breaksNext : Prop} (hbreaks : Crashes first ↔ breaks)
    (hpasses : (∃ value, first = .ok value) ↔ passes)
    (hnext : ∀ value, first = .ok value → (Crashes (next value) ↔ breaksNext)) :
    Crashes (first >>= next) ↔ breaks ∨ passes ∧ breaksNext := by
  rw [crashes_bind_iff, hbreaks, ← hpasses]
  refine or_congr_right ?_
  constructor
  · rintro ⟨value, hvalue, hcrashes⟩
    exact ⟨⟨value, hvalue⟩, (hnext value hvalue).mp hcrashes⟩
  · rintro ⟨⟨value, hvalue⟩, hcrashes⟩
    exact ⟨value, hvalue, (hnext value hvalue).mpr hcrashes⟩

/-- A second step that is taken without fail changes nothing. -/
theorem crashes_bind_pure_iff {first : Except Fault α} (result : α → β) :
    Crashes (do return result (← first)) ↔ Crashes first := by
  rw [crashes_bind_iff]
  refine or_iff_left ?_
  rintro ⟨value, -, hcrashes⟩
  exact not_crashes_pure _ hcrashes

theorem exists_bind_pure_iff {first : Except Fault α} (result : α → β) :
    (∃ value, (do return result (← first)) = Except.ok value) ↔ ∃ value, first = .ok value := by
  rw [exists_bind_iff]
  exact exists_congr fun value => and_iff_left ⟨_, rfl⟩

theorem exists_mapM_iff {step : α → Except Fault β} {items : List α} :
    (∃ results, items.mapM step = .ok results) ↔
      ∀ item ∈ items, ∃ result, step item = .ok result := by
  induction items with
  | nil => exact iff_of_true ⟨[], rfl⟩ nofun
  | cons item items ih =>
      rw [List.mapM_cons, exists_bind_iff, List.forall_mem_cons, ← ih]
      simp only [exists_bind_pure_iff]
      constructor
      · rintro ⟨result, hresult, hrest⟩
        exact ⟨⟨result, hresult⟩, hrest⟩
      · rintro ⟨⟨result, hresult⟩, hrest⟩
        exact ⟨result, hresult, hrest⟩

/-- A step on every item crashes on the first item that it does not return on. -/
theorem crashes_mapM_iff {step : α → Except Fault β} {items : List α} :
    Crashes (items.mapM step) ↔
      FirstBreaks (fun item => ∃ result, step item = .ok result) (fun item => Crashes (step item))
        items := by
  induction items with
  | nil => exact iff_of_false (not_crashes_pure []) nofun
  | cons item items ih =>
      rw [List.mapM_cons, firstBreaks_cons_iff]
      refine crashes_bind_iff_of Iff.rfl Iff.rfl fun result _ => ?_
      rw [crashes_bind_pure_iff, ih]

end Crashes

/-! ## Computations that look alike -/

section Views

variable {ε α β γ δ : Type}

theorem map_eq_ok_iff {result : Except ε α} {f : α → β} {found : β} :
    result.map f = .ok found ↔ ∃ value, result = .ok value ∧ f value = found := by
  cases result <;> simp [Except.map]

theorem map_eq_error_iff {result : Except ε α} {f : α → β} {fault : ε} :
    result.map f = .error fault ↔ result = .error fault := by
  cases result <;> simp [Except.map]

/-- Two computations in steps look alike when their first steps do, and the second steps do after
results that look alike. -/
theorem map_bind_eq_of_views {first second : Except ε α} {next other : α → Except ε β}
    {f : α → γ} {g : β → δ} (hfirst : first.map f = second.map f)
    (hnext : ∀ value result, f value = f result →
      (next value).map g = (other result).map g) :
    (first >>= next).map g = (second >>= other).map g := by
  cases first with
  | error fault =>
      cases second with
      | error _ =>
          cases hfirst
          rfl
      | ok _ => cases hfirst
  | ok value =>
      cases second with
      | error _ => cases hfirst
      | ok result =>
          rw [Except.map, Except.map, Except.ok.injEq] at hfirst
          exact hnext value result hfirst

/-- Both computations return, or both end with the same fault. -/
def SameEnd (first second : Except Fault α) : Prop :=
  first.map (fun _ => ()) = second.map fun _ => ()

theorem SameEnd.refl (result : Except Fault α) : SameEnd result result := rfl

theorem sameEnd_ok (value other : α) : SameEnd (.ok value) (.ok other) := rfl

theorem SameEnd.bind {first second : Except Fault α} {next other : α → Except Fault β}
    (hfirst : SameEnd first second) (hnext : ∀ value result, SameEnd (next value) (other result)) :
    SameEnd (first >>= next) (second >>= other) :=
  map_bind_eq_of_views hfirst fun value result _ => hnext value result

/-- After the same first step, two computations end alike when they go on alike. -/
theorem SameEnd.after (first : Except Fault α) {next other : α → Except Fault β}
    (hnext : ∀ value, SameEnd (next value) (other value)) :
    SameEnd (first >>= next) (first >>= other) := by
  refine map_bind_eq_of_views (f := id) rfl ?_
  rintro value _ rfl
  exact hnext value

end Views

/-! ## Values -/

namespace Value

variable {kind : Fault → Prop}

theorem failsOnly_toText (hlacking : kind .lacking) (value : Value) :
    FailsOnly kind value.toText := by
  cases value <;> simp [toText, hlacking]

mutual

theorem failsOnly_precedes (hunsuitable : kind .unsuitable) (orSame : Bool) (left right : Value) :
    FailsOnly kind (left.precedes orSame right) := by
  unfold precedes
  split
  · exact .ok _
  · exact failsOnly_listPrecedes hunsuitable orSame _ _
  · split <;> simp [hunsuitable]

theorem failsOnly_listPrecedes (hunsuitable : kind .unsuitable) (orSame : Bool)
    (lefts rights : List Value) : FailsOnly kind (listPrecedes orSame lefts rights) := by
  unfold listPrecedes
  split
  · exact .ok _
  · exact .ok _
  · exact .ok _
  · split
    · exact failsOnly_listPrecedes hunsuitable orSame _ _
    · exact failsOnly_precedes hunsuitable orSame _ _

end

end Value

end Phrasebook
