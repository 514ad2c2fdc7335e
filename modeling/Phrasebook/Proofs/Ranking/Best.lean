import Mathlib
import Phrasebook.Proofs.Detection.Reading
import Phrasebook.Proofs.Ranking.Loose
import Phrasebook.Proofs.Ranking.Order

/-!
# The best candidate

The best candidate is surer than those before it in catalog order, and no less sure than those
behind it.  So intents behind it take its place only by being surer, and intents other than its own
may go without its losing the place.
-/

namespace Phrasebook

/-! ## The first of a stable order -/

section Leads

variable {α : Type} {le : α → α → Bool} {best : α} {items first second : List α}

/-- An item comes before all others in an order, and strictly before those that stand in front of
it. -/
def Leads (le : α → α → Bool) (best : α) (items : List α) : Prop :=
  ∃ front back, items = front ++ best :: back ∧ (∀ a ∈ front, le a best = false) ∧
    ∀ a ∈ back, le best a = true

theorem Leads.mem (hleads : Leads le best items) : best ∈ items := by
  obtain ⟨front, back, rfl, -, -⟩ := hleads
  exact List.mem_append_right front List.mem_cons_self

/-- Items at the end that the leader comes before change nothing. -/
theorem Leads.append (hleads : Leads le best first) (hsecond : ∀ a ∈ second, le best a = true) :
    Leads le best (first ++ second) := by
  obtain ⟨front, back, rfl, hfront, hback⟩ := hleads
  refine ⟨front, back ++ second, ?_, hfront, List.forall_mem_append.mpr ⟨hback, hsecond⟩⟩
  rw [List.append_assoc, List.cons_append]

/-- A leader at the end leads if it comes strictly before all items in front. -/
theorem Leads.append_left (hleads : Leads le best second)
    (hfirst : ∀ a ∈ first, le a best = false) : Leads le best (first ++ second) := by
  obtain ⟨front, back, rfl, hfront, hback⟩ := hleads
  refine ⟨first ++ front, back, ?_, List.forall_mem_append.mpr ⟨hfirst, hfront⟩, hback⟩
  rw [List.append_assoc]

theorem Leads.filter (hleads : Leads le best items) {q : α → Bool} (hbest : q best = true) :
    Leads le best (items.filter q) := by
  obtain ⟨front, back, rfl, hfront, hback⟩ := hleads
  refine ⟨front.filter q, back.filter q, ?_, fun a ha => hfront a (List.mem_of_mem_filter ha),
    fun a ha => hback a (List.mem_of_mem_filter ha)⟩
  rw [List.filter_append, List.filter_cons_of_pos hbest]

theorem head?_mergeSort_eq_none_iff : (items.mergeSort le).head? = none ↔ items = [] := by
  rw [List.head?_eq_none_iff, ← List.length_eq_zero_iff, List.length_mergeSort,
    List.length_eq_zero_iff]

variable (htrans : ∀ a b c, le a b = true → le b c = true → le a c = true)
variable (htotal : ∀ a b, (le a b || le b a) = true)

include htotal

theorem Leads.precedes (hleads : Leads le best items) {a : α} (ha : a ∈ items) :
    le best a = true := by
  obtain ⟨front, back, rfl, hfront, hback⟩ := hleads
  have hself : le best best = true := by simpa using htotal best best
  rcases List.mem_append.mp ha with ha | ha
  · simpa [hfront a ha] using htotal best a
  · rcases List.mem_cons.mp ha with rfl | ha
    · exact hself
    · exact hback a ha

include htrans

/-- The first item in the order is the leader. -/
theorem head?_mergeSort_eq_some_iff :
    (items.mergeSort le).head? = some best ↔ Leads le best items := by
  have hfind : best ∈ items → (∀ a ∈ items, le best a = true) →
      (items.mergeSort le).head? = items.find? fun a => le a best := by
    intro hmem hbest
    apply head?_mergeSort_eq_find? htrans htotal
    · intro a _ b hb ha _
      exact htrans a best b ha (hbest b hb)
    · intro a _ b _ hb hab
      exact htrans a b best hab hb
    · exact ⟨best, hmem, hbest best hmem⟩
  constructor
  · intro hhead
    have hmem : best ∈ items := List.mem_mergeSort.mp (List.mem_of_mem_head? hhead)
    have hbest : ∀ a ∈ items, le best a = true := by
      obtain ⟨rest, hsorted⟩ := List.head?_eq_some_iff.mp hhead
      have hpairwise := List.pairwise_mergeSort htrans htotal items
      rw [hsorted, List.pairwise_cons] at hpairwise
      intro a ha
      have hmem : a ∈ items.mergeSort le := List.mem_mergeSort.mpr ha
      rw [hsorted] at hmem
      rcases List.mem_cons.mp hmem with rfl | ha
      · simpa using htotal a a
      · exact hpairwise.1 a ha
    rw [hfind hmem hbest, List.find?_eq_some_iff_append] at hhead
    obtain ⟨-, front, back, rfl, hfront⟩ := hhead
    refine ⟨front, back, rfl, fun a ha => by simpa using hfront a ha, fun a ha => ?_⟩
    exact hbest a (List.mem_append_right front (List.mem_cons_of_mem best ha))
  · intro hleads
    rw [hfind hleads.mem fun a ha => hleads.precedes htotal ha, List.find?_eq_some_iff_append]
    obtain ⟨front, back, rfl, hfront, -⟩ := hleads
    exact ⟨by simpa using htotal best best, front, back, rfl, fun a ha => by simp [hfront a ha]⟩

/-- More items at the end change nothing if the first item comes before all of them. -/
theorem head?_mergeSort_append_of_forall
    (hsecond : ∀ a ∈ second, ∃ best ∈ (first.mergeSort le).head?, le best a = true) :
    ((first ++ second).mergeSort le).head? = (first.mergeSort le).head? := by
  cases hfirst : (first.mergeSort le).head? with
  | none =>
      have hempty : second = [] := by
        apply List.eq_nil_iff_forall_not_mem.mpr
        intro a ha
        obtain ⟨best, hbest, -⟩ := hsecond a ha
        rw [hfirst] at hbest
        cases hbest
      rw [hempty, List.append_nil, hfirst]
  | some best =>
      have hleads := (head?_mergeSort_eq_some_iff htrans htotal).mp hfirst
      refine (head?_mergeSort_eq_some_iff htrans htotal).mpr (hleads.append fun a ha => ?_)
      obtain ⟨_, hbest, hprecedes⟩ := hsecond a ha
      rw [hfirst] at hbest
      cases hbest
      exact hprecedes

/-- The end has the first item if one of its items does not come behind the first one in front. -/
theorem head?_mergeSort_append_of_exists
    (hsecond : ∃ a ∈ second, ∀ best ∈ (first.mergeSort le).head?, le best a = false) :
    ((first ++ second).mergeSort le).head? = (second.mergeSort le).head? := by
  obtain ⟨a, ha, hahead⟩ := hsecond
  cases hlead : (second.mergeSort le).head? with
  | none =>
      rw [head?_mergeSort_eq_none_iff.mp hlead] at ha
      cases ha
  | some lead =>
      have hleads := (head?_mergeSort_eq_some_iff htrans htotal).mp hlead
      refine (head?_mergeSort_eq_some_iff htrans htotal).mpr (hleads.append_left fun b hb => ?_)
      by_contra hprecedes
      rw [Bool.not_eq_false] at hprecedes
      obtain ⟨best, hbest⟩ := Option.ne_none_iff_exists'.mp
        (mt head?_mergeSort_eq_none_iff.mp (List.ne_nil_of_mem hb))
      have hfirst := (head?_mergeSort_eq_some_iff htrans htotal).mp hbest
      have hbehind : le best a = true := htrans best b a (hfirst.precedes htotal hb)
        (htrans b lead a hprecedes (hleads.precedes htotal ha))
      exact absurd hbehind (by simp [hahead best hbest])

/-- The first item stays the first when others go. -/
theorem head?_mergeSort_filter {q : α → Bool}
    (hbest : ∀ best ∈ (items.mergeSort le).head?, q best = true) :
    ((items.filter q).mergeSort le).head? = (items.mergeSort le).head? := by
  cases hhead : (items.mergeSort le).head? with
  | none =>
      rw [head?_mergeSort_eq_none_iff.mp hhead, List.filter_nil, List.mergeSort_nil,
        List.head?_nil]
  | some best =>
      have hleads := (head?_mergeSort_eq_some_iff htrans htotal).mp hhead
      exact (head?_mergeSort_eq_some_iff htrans htotal).mpr (hleads.filter (hbest best hhead))

end Leads

namespace Ranking

variable {text : String} {catalog other : Catalog} {intent : Intent}

/-- What an intent has for a text, in the order of its templates. -/
def candidatesOf (text : String) (intent : Intent) : List Candidate :=
  (intent.usable.filter (coincides text)).map fun pattern =>
    ⟨intent.id, pattern.source, score text pattern⟩

theorem mem_candidatesOf_iff {candidate : Candidate} :
    candidate ∈ candidatesOf text intent ↔
      ∃ pattern ∈ intent.usable, coincides text pattern = true ∧
        candidate = ⟨intent.id, pattern.source, score text pattern⟩ := by
  simp only [candidatesOf, List.mem_map, List.mem_filter, and_assoc, eq_comm (a := candidate)]

theorem intentId_of_mem_candidatesOf {candidate : Candidate}
    (hcandidate : candidate ∈ candidatesOf text intent) : candidate.intentId = intent.id := by
  obtain ⟨pattern, -, -, rfl⟩ := mem_candidatesOf_iff.mp hcandidate
  rfl

theorem isShare_score (text : String) (pattern : Pattern) : (score text pattern).IsShare :=
  isShare_coverage _ _

theorem coinciding_eq_flatMap (haligned : catalog.Aligned) (text : String) :
    coinciding text catalog = catalog.intents.flatMap (candidatesOf text) := by
  rw [coinciding, haligned.usablePairs_eq, List.filter_flatMap, List.map_flatMap]
  refine List.flatMap_congr fun intent _ => ?_
  rw [List.filter_map, List.map_map]
  rfl

/-- The best candidate is the leader of what the intents have, in catalog order. -/
theorem candidates_eq (haligned : catalog.Aligned) (text : String) :
    candidates text catalog =
      (catalog.intents.flatMap (candidatesOf text)).mergeSort atLeastAsSure := by
  rw [candidates_eq_mergeSort haligned, mergeSort_ahead, coinciding_eq_flatMap haligned]

/-- An intent has a pattern for a text that is surer than the best candidate of a catalog, if there
is one. -/
def Outranks (intent : Intent) (text : String) (catalog : Catalog) : Prop :=
  ∃ pattern ∈ intent.usable, coincides text pattern = true ∧
    ∀ best ∈ (candidates text catalog).head?,
      (Number.real best.confidence).lt (.real (score text pattern)) = true

theorem isBlankText_eq_false_of_mem {candidate : Candidate}
    (hmem : candidate ∈ candidates text catalog) : isBlankText text = false := by
  by_contra hblank
  rw [candidates, if_pos (Bool.not_eq_false _ ▸ hblank)] at hmem
  cases hmem

theorem isShare_of_mem_head? {best : Candidate} (hbest : best ∈ (candidates text catalog).head?) :
    best.confidence.IsShare := by
  have hmem := List.mem_of_mem_head? hbest
  rw [candidates] at hmem
  split at hmem
  · cases hmem
  · exact isShare_of_mem_coinciding (List.mem_mergeSort.mp hmem)

/-- No newcomer takes the place of a candidate that is as sure. -/
theorem head?_candidates_of_not_outranks (haligned : catalog.Aligned) (hother : other.Aligned)
    (hintents : other.intents = catalog.intents ++ [intent])
    (hbehind : ¬ Outranks intent text catalog) :
    (candidates text other).head? = (candidates text catalog).head? := by
  rw [candidates_eq hother, candidates_eq haligned, hintents, List.flatMap_append,
    List.flatMap_singleton]
  apply head?_mergeSort_append_of_forall atLeastAsSure_trans atLeastAsSure_total
  intro candidate hcandidate
  obtain ⟨pattern, husable, hcoincides, rfl⟩ := mem_candidatesOf_iff.mp hcandidate
  rw [← candidates_eq haligned]
  by_contra hnone
  push Not at hnone
  refine hbehind ⟨pattern, husable, hcoincides, fun best hbest => ?_⟩
  rw [(isShare_of_mem_head? hbest).lt_iff (isShare_score text pattern)]
  have hsurer := hnone best hbest
  simpa [atLeastAsSure] using hsurer

/-- A newcomer that is surer than the best candidate is the best from then on. -/
theorem exists_head?_candidates_of_outranks (haligned : catalog.Aligned) (hother : other.Aligned)
    (hintents : other.intents = catalog.intents ++ [intent])
    (hahead : Outranks intent text catalog) :
    ∃ best ∈ candidatesOf text intent, (candidates text other).head? = some best := by
  obtain ⟨pattern, husable, hcoincides, hsurer⟩ := hahead
  have hmem : ⟨intent.id, pattern.source, score text pattern⟩ ∈ candidatesOf text intent :=
    mem_candidatesOf_iff.mpr ⟨pattern, husable, hcoincides, rfl⟩
  have hhead : (candidates text other).head? =
      ((candidatesOf text intent).mergeSort atLeastAsSure).head? := by
    rw [candidates_eq hother, hintents, List.flatMap_append, List.flatMap_singleton]
    apply head?_mergeSort_append_of_exists atLeastAsSure_trans atLeastAsSure_total
    refine ⟨_, hmem, fun best hbest => ?_⟩
    rw [← candidates_eq haligned] at hbest
    have hlt := hsurer best hbest
    rw [(isShare_of_mem_head? hbest).lt_iff (isShare_score text pattern)] at hlt
    simpa [atLeastAsSure] using hlt
  have hsome : ((candidatesOf text intent).mergeSort atLeastAsSure).head? ≠ none :=
    mt head?_mergeSort_eq_none_iff.mp (List.ne_nil_of_mem hmem)
  obtain ⟨best, hbest⟩ := Option.ne_none_iff_exists'.mp hsome
  exact ⟨best, List.mem_mergeSort.mp (List.mem_of_mem_head? hbest), hhead.trans hbest⟩

/-- The best candidate stays the best when intents other than its own go. -/
theorem head?_candidates_of_filter (haligned : catalog.Aligned) (hother : other.Aligned)
    {id : String} (hintents : other.intents = catalog.intents.filter fun intent => intent.id ≠ id)
    (hbest : ∀ best ∈ (candidates text catalog).head?, best.intentId ≠ id) :
    (candidates text other).head? = (candidates text catalog).head? := by
  have hfilter : ∀ intents : List Intent,
      (intents.filter fun intent => intent.id ≠ id).flatMap (candidatesOf text) =
        (intents.flatMap (candidatesOf text)).filter fun candidate => candidate.intentId ≠ id := by
    intro intents
    induction intents with
    | nil => rfl
    | cons intent intents ih =>
        rw [List.flatMap_cons, List.filter_append, ← ih]
        by_cases hid : intent.id = id
        · have hnone : (candidatesOf text intent).filter (·.intentId ≠ id) = [] := by
            apply List.filter_eq_nil_iff.mpr
            intro candidate hcandidate
            simp [intentId_of_mem_candidatesOf hcandidate, hid]
          rw [hnone, List.nil_append, List.filter_cons_of_neg (by simpa using hid)]
        · have hall : (candidatesOf text intent).filter (·.intentId ≠ id) =
              candidatesOf text intent := by
            apply List.filter_eq_self.mpr
            intro candidate hcandidate
            simpa [intentId_of_mem_candidatesOf hcandidate] using hid
          rw [hall, List.filter_cons_of_pos (by simpa using hid), List.flatMap_cons]
  rw [candidates_eq hother, candidates_eq haligned, hintents, hfilter]
  apply head?_mergeSort_filter atLeastAsSure_trans atLeastAsSure_total
  intro best hhead
  rw [← candidates_eq haligned] at hhead
  simpa using hbest best hhead

end Ranking

end Phrasebook
