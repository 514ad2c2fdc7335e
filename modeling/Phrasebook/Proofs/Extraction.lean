import Mathlib
import Phrasebook.Extraction
import Phrasebook.Proofs.OrderedMap
import Phrasebook.Proofs.Template.Matching
import Phrasebook.Proofs.Template.Placement

/-!
# Extraction undoes instantiation

An instance of a template is a text with a value in the place of each slot, the literals spelled in
any case and with any blanks.  From an instance of a well-spaced template the values are read back
as they were written.
-/

namespace Phrasebook

open Template Text

/-! ## Recording shares -/

theorem Captures.insert_eq (name value : String) (captures : Captures) :
    captures.insert name value = OrderedMap.insert name value captures := by
  induction captures with
  | nil => rfl
  | cons entry rest ih =>
      obtain ⟨other, old⟩ := entry
      by_cases hname : other = name <;> simp [Captures.insert, OrderedMap.insert, hname, ih]

/-- Shares that are not blank are all recorded, without their outer blanks. -/
theorem Captures.ofShares_eq {names shares values : List String}
    (htrim : shares.map trimmed = values) (hvalues : ∀ value ∈ values, value ≠ "") :
    Captures.ofShares names shares = OrderedMap.ofList (names.zip values) := by
  have hwrites : ∀ (captures : Captures), (names.zip shares).foldl
      (fun captures entry => captures.record entry.1 entry.2) captures =
        OrderedMap.merge captures (names.zip values) := by
    subst htrim
    induction names generalizing shares with
    | nil =>
        intro captures
        rw [List.zip_nil_left, List.foldl_nil, OrderedMap.merge, List.zip_nil_left, List.foldl_nil]
    | cons name names ih =>
        intro captures
        cases shares with
        | nil =>
            rw [List.map_nil, List.zip_nil_right, List.foldl_nil, OrderedMap.merge,
              List.foldl_nil]
        | cons share shares =>
            rw [List.map_cons, List.forall_mem_cons] at hvalues
            have hrecord : captures.record name share =
                OrderedMap.insert name (trimmed share) captures := by
              rw [Captures.record, ← Captures.insert_eq]
              simp [hvalues.1]
            rw [List.zip_cons_cons, List.foldl_cons, hrecord, ih hvalues.2, List.map_cons,
              List.zip_cons_cons, OrderedMap.merge, OrderedMap.merge, List.foldl_cons]
  exact hwrites []

/-! ## Instances of a template -/

/-- A text with the values in the places of the slots, within outer blanks. -/
def IsInstance (segments : List Segment) (values : List String) (text : String) : Prop :=
  ∃ before shares choices after, AllBlank before ∧ AllBlank after ∧
    Cut segments shares choices ∧ slotShares segments shares = values.map String.toList ∧
    text.toList = before ++ shares.flatten ++ after

/-- A value that can be told from the literals: it has no outer blanks, and none of its words spells
a literal word. -/
structure Distinct (segments : List Segment) (value : String) : Prop where
  nonempty : value ≠ ""
  trimmed : trimmed value = value
  unmatched : ∀ token ∈ words value.toList, ∀ word ∈ literalWords segments,
    ¬ SameWord word token

theorem Distinct.trim {segments : List Segment} {value : String}
    (hdistinct : Distinct segments value) : Text.trim value.toList = value.toList := by
  have htrimmed := congrArg String.toList hdistinct.trimmed
  rwa [Phrasebook.trimmed, String.toList_ofList] at htrimmed

namespace Template

variable {segments : List Segment} {template : List Char} {shares : List (List Char)}
  {choices : List Choice}

theorem Cut.of_append {first second : List Segment} (hcut : Cut (first ++ second) shares choices) :
    ∃ front back chosen others, shares = front ++ back ∧ Cut first front chosen ∧
      Cut second back others ∧
      slotShares (first ++ second) shares = slotShares first front ++ slotShares second back := by
  induction first generalizing shares choices with
  | nil => exact ⟨[], shares, [], choices, rfl, .nil, hcut, rfl⟩
  | cons segment first ih =>
      rw [List.cons_append] at hcut ⊢
      cases hcut with
      | literal hspells hrest =>
          obtain ⟨front, back, chosen, others, rfl, hfront, hback, hslots⟩ := ih hrest
          exact ⟨_ :: front, back, _, others, rfl, .literal hspells hfront, hback, hslots⟩
      | slot hshare hrest =>
          obtain ⟨front, back, chosen, others, rfl, hfront, hback, hslots⟩ := ih hrest
          exact ⟨_ :: front, back, _, others, rfl, .slot hshare hfront, hback,
            congrArg (_ :: ·) hslots⟩

/-- The text of a cut starts with no blank where the template and the slots' shares do not. -/
theorem Cut.head?_flatten (hwritten : Written segments template)
    (htemplate : ∀ c ∈ template.head?, isBlank c = false)
    (hslots : ∀ share ∈ slotShares segments shares, ∀ c ∈ share.head?, isBlank c = false)
    (hcut : Cut segments shares choices) :
    ∀ c ∈ shares.flatten.head?, isBlank c = false := by
  intro c hc
  cases hcut with
  | nil => simp at hc
  | literal hspells _ =>
      have htext := hwritten.literal_ne_nil _ List.mem_cons_self
      rw [List.flatten_cons,
        List.head?_append_of_ne_nil _ (mt hspells.eq_nil_iff.mp htext)] at hc
      have hfirst := hspells.head?_isBlank
      rw [← hwritten.head?_eq, Option.mem_def.mp hc, Option.map_some, eq_comm,
        Option.map_eq_some_iff] at hfirst
      obtain ⟨d, hd, hsame⟩ := hfirst
      rw [← hsame, htemplate d hd]
  | slot hshare _ =>
      rw [List.flatten_cons, List.head?_append_of_ne_nil _ hshare] at hc
      exact hslots _ List.mem_cons_self c hc

/-- The same at its end. -/
theorem Cut.getLast?_flatten (hwritten : Written segments template)
    (htemplate : ∀ c ∈ template.getLast?, isBlank c = false)
    (hslots : ∀ share ∈ slotShares segments shares, ∀ c ∈ share.getLast?, isBlank c = false)
    (hcut : Cut segments shares choices) :
    ∀ c ∈ shares.flatten.getLast?, isBlank c = false := by
  intro c hc
  rcases List.eq_nil_or_concat segments with rfl | ⟨first, last, rfl⟩
  · cases hcut
    simp at hc
  rw [List.concat_eq_append] at hwritten hslots hcut
  obtain ⟨front, back, chosen, others, rfl, -, hback, heq⟩ := hcut.of_append
  rw [heq] at hslots
  rw [List.flatten_append] at hc
  cases hback with
  | literal hspells hnil =>
      cases hnil
      have htext := hwritten.literal_ne_nil _ (List.mem_append_right first List.mem_cons_self)
      rw [List.flatten_cons, List.flatten_nil, List.append_nil,
        List.getLast?_append_of_ne_nil _ (mt hspells.eq_nil_iff.mp htext)] at hc
      have hfinal := hspells.getLast?_isBlank
      rw [← hwritten.getLast?_eq, Option.mem_def.mp hc, Option.map_some, eq_comm,
        Option.map_eq_some_iff] at hfinal
      obtain ⟨d, hd, hsame⟩ := hfinal
      rw [← hsame, htemplate d hd]
  | slot hshare hnil =>
      cases hnil
      rw [List.flatten_cons, List.flatten_nil, List.append_nil,
        List.getLast?_append_of_ne_nil _ hshare] at hc
      exact hslots _ (List.mem_append_right _ List.mem_cons_self) c hc

theorem Cut.flatten_ne_nil (hwritten : Written segments template) (htemplate : template ≠ [])
    (hcut : Cut segments shares choices) : shares.flatten ≠ [] := by
  cases hcut with
  | nil =>
      cases hwritten
      exact absurd rfl htemplate
  | literal hspells _ =>
      have htext := mt hspells.eq_nil_iff.mp (hwritten.literal_ne_nil _ List.mem_cons_self)
      simp [htext]
  | slot hshare _ => simp [hshare]

end Template

/-- Trimming an instance leaves the text of the cut. -/
theorem trim_instance {segments : List Segment} {template : List Char} {values : List String}
    {before after : List Char} {shares : List (List Char)} {choices : List Choice}
    (hwritten : Written segments template) (htemplate : trim template = template)
    (hvalues : ∀ value ∈ values, Distinct segments value) (hbefore : AllBlank before)
    (hafter : AllBlank after) (hcut : Cut segments shares choices)
    (hslots : slotShares segments shares = values.map String.toList) :
    trim (before ++ shares.flatten ++ after) = shares.flatten := by
  obtain ⟨hhead, hlast⟩ := trim_eq_self_iff.mp htemplate
  have hshares : ∀ share ∈ slotShares segments shares, trim share = share := by
    rw [hslots]
    intro share hshare
    obtain ⟨value, hvalue, rfl⟩ := List.mem_map.mp hshare
    exact (hvalues value hvalue).trim
  refine trim_append hbefore hafter (trim_eq_self_iff.mpr ⟨?_, ?_⟩)
  · exact hcut.head?_flatten hwritten hhead fun share hshare =>
      (trim_eq_self_iff.mp (hshares share hshare)).1
  · exact hcut.getLast?_flatten hwritten hlast fun share hshare =>
      (trim_eq_self_iff.mp (hshares share hshare)).2

/-- A text that is not blank is read along the one pattern if it accepts the text. -/
theorem extractSlots_singleton {text : String} {pattern : Pattern} {groups : List String}
    (htext : trim text.toList ≠ []) (hcaptures : pattern.captures? text = some groups) :
    extractSlots text [pattern] = Captures.ofShares pattern.slotNames groups := by
  have hblank : isBlankText text = false := isBlankText_eq_false_iff.mpr htext
  simp [extractSlots, matchFirst?, hblank, hcaptures]

/-- Extraction undoes instantiation: from an instance of a well-spaced template whose values can be
told from its literals, every name has the last value written for it, and no other name has one. -/
theorem extractSlots_of_instance {template text : String} {pattern : Pattern}
    {segments : List Segment} {values : List String}
    (hpattern : Pattern.ofTemplate template = .ok pattern)
    (hsegments : Template.split (trimmed template) = .ok segments)
    (hspaced : WellSpaced segments) (hvalues : ∀ value ∈ values, Distinct segments value)
    (hinstance : IsInstance segments values text) :
    (OrderedMap.keys (extractSlots text [pattern])).Nodup ∧
      ∀ name, OrderedMap.get? name (extractSlots text [pattern]) =
        ((slotNames segments).zip values).reverse.lookup name := by
  obtain ⟨htemplate, found, hfound, rfl⟩ := Pattern.ofTemplate_eq_ok_iff.mp hpattern
  rw [Pattern.split_trimmed_eq_ok_iff, hfound, Except.ok.injEq] at hsegments
  subst hsegments
  have hwritten := written_of_segments hfound
  have htrim : trim (trim template.toList) = trim template.toList := trim_trim _
  obtain ⟨before, shares, choices, after, hbefore, hafter, hcut, hslots, htext⟩ := hinstance
  have hcore : trim text.toList = shares.flatten := by
    rw [htext]
    exact trim_instance hwritten htrim hvalues hbefore hafter hcut hslots
  -- whichever cut the search finds, it gives the slots the values, up to outer blanks
  obtain ⟨groups, hgroups⟩ := Option.isSome_iff_exists.mp
    (Pattern.search_segments_isSome_iff.mpr ⟨shares, choices, hcut, hcore.symm⟩)
  obtain ⟨shares', choices', hpreferred, rfl⟩ := Pattern.search_segments_eq_some_iff.mp hgroups
  have hsame := hcut.trim_slotShares_unique hwritten htrim hspaced hpreferred.1.1 ?_
    (hcore.symm.trans hpreferred.1.2.symm)
  · have hread : ((slotShares found shares').map String.ofList).map trimmed = values := by
      have hshares : (values.map String.toList).map trim = values.map String.toList := by
        rw [List.map_map, List.map_inj_left]
        exact fun value hvalue => (hvalues value hvalue).trim
      have hstrings : ((slotShares found shares').map trim).map String.ofList = values := by
        rw [← hsame, hslots, hshares, List.map_map]
        simp
      rw [← hstrings, List.map_map, List.map_map]
      exact List.map_congr_left fun share _ => by simp [trimmed]
    have hcaptures : (Pattern.ofSegments template found).captures? text =
        some ((slotShares found shares').map String.ofList) := by
      rw [Pattern.captures?, hcore]
      exact congrArg _ (hcore ▸ hgroups)
    have hne : trim text.toList ≠ [] := by
      rw [hcore]
      exact hcut.flatten_ne_nil hwritten htemplate
    rw [extractSlots_singleton hne hcaptures, Captures.ofShares_eq hread fun value hvalue =>
      (hvalues value hvalue).nonempty]
    exact ⟨OrderedMap.nodup_keys_ofList _, fun name => OrderedMap.get?_ofList name _⟩
  · rw [hslots]
    intro share hshare
    obtain ⟨value, hvalue, rfl⟩ := List.mem_map.mp hshare
    exact (hvalues value hvalue).unmatched

/-- A name that stands twice has the value of its last place, as it is written in the text. -/
theorem extractSlots_of_instance_repeated_name :
    ∃ pattern segments values,
      Pattern.ofTemplate " de \x7ba\x7d \ta \x7ba\x7d" = .ok pattern ∧
      Template.split (trimmed " de \x7ba\x7d \ta \x7ba\x7d") = .ok segments ∧
      WellSpaced segments ∧ (∀ value ∈ values, Distinct segments value) ∧
      IsInstance segments values "\nDE Uno   A dos  DEDE " ∧
      (OrderedMap.keys (extractSlots "\nDE Uno   A dos  DEDE " [pattern])).Nodup ∧
      ∀ name, OrderedMap.get? name (extractSlots "\nDE Uno   A dos  DEDE " [pattern]) =
        ((slotNames segments).zip values).reverse.lookup name := by
  obtain ⟨segments, heq⟩ : ∃ segments : List Segment, segments =
      [.literal ['d', 'e', ' '], .slot "a", .literal [' ', '\t', 'a', ' '], .slot "a"] := ⟨_, rfl⟩
  have hpattern : Pattern.ofTemplate " de \x7ba\x7d \ta \x7ba\x7d" =
      .ok (.ofSegments " de \x7ba\x7d \ta \x7ba\x7d" segments) := by
    subst heq
    decide
  have hsegments : Template.split (trimmed " de \x7ba\x7d \ta \x7ba\x7d") = .ok segments := by
    subst heq
    decide
  have hspaced : WellSpaced segments := by
    have hblank : isBlank ' ' = true := by decide
    constructor <;> simp [heq, List.infix_cons_iff, hblank]
    · rintro a text b - rfl -
      exact ⟨'a', by simp, by decide⟩
    · rintro text name (⟨rfl, -⟩ | ⟨rfl, -⟩) <;> simp [hblank]
  have hvalues : ∀ value ∈ ["Uno", "dos  DEDE"], Distinct segments value := by
    intro value hvalue
    subst heq
    fin_cases hvalue <;> exact ⟨by decide, by decide, by decide⟩
  have hinstance : IsInstance segments ["Uno", "dos  DEDE"] "\nDE Uno   A dos  DEDE " := by
    have hsearch : search (segments.flatMap Segment.pieces) "DE Uno   A dos  DEDE".toList =
        some ["Uno".toList, "dos  DEDE".toList] := by
      subst heq
      decide
    obtain ⟨shares, choices, ⟨⟨hcut, htext⟩, -⟩, hshares⟩ :=
      Pattern.search_segments_eq_some_iff.mp hsearch
    have hbreak : AllBlank ['\n'] := by simp [AllBlank, isBlank]
    have hspace : AllBlank [' '] := by simp [AllBlank, isBlank]
    refine ⟨['\n'], shares, choices, [' '], hbreak, hspace, hcut, hshares.symm, ?_⟩
    rw [htext]
    decide
  exact ⟨_, _, _, hpattern, hsegments, hspaced, hvalues, hinstance,
    extractSlots_of_instance hpattern hsegments hspaced hvalues hinstance⟩

end Phrasebook
