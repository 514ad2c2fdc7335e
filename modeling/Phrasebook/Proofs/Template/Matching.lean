import Mathlib
import Phrasebook.Template.Pattern
import Phrasebook.Proofs.Template.Grammar
import Phrasebook.Proofs.Template.Search

/-!
# Matching is cutting

A pattern accepts a text exactly when the trimmed text can be cut along the segments of its
template, and the captures are the slots' shares of the preferred cut.
-/

namespace Phrasebook

open Template

namespace Pattern

/-- A usable template has text in it, and its segments are those of the trimmed template. -/
theorem ofTemplate_eq_ok_iff {template : String} {pattern : Pattern} :
    ofTemplate template = .ok pattern ↔
      Text.trim template.toList ≠ [] ∧
        ∃ segments, Template.segments (Text.trim template.toList) = .ok segments ∧
          pattern = ofSegments template segments := by
  unfold ofTemplate
  cases htrim : Text.trim template.toList with
  | nil => simp
  | cons c rest =>
      cases hsegments : Template.segments (c :: rest) with
      | error flaw => simp [hsegments]
      | ok segments => simp [hsegments, eq_comm]

theorem source_of_ofTemplate {template : String} {pattern : Pattern}
    (hpattern : ofTemplate template = .ok pattern) : pattern.source = template := by
  obtain ⟨-, segments, -, rfl⟩ := ofTemplate_eq_ok_iff.mp hpattern
  rfl

theorem split_trimmed_eq_ok_iff {template : String} {segments : List Segment} :
    Template.split (trimmed template) = .ok segments ↔
      Template.segments (Text.trim template.toList) = .ok segments := by
  rw [split_eq_ok_iff_segments, trimmed, String.toList_ofList]

variable {segments : List Segment} {text : List Char}

theorem search_segments_isSome_iff :
    (search (segments.flatMap Segment.pieces) text).isSome = true ↔
      ∃ shares choices, Cuts segments text shares choices := by
  rw [search_isSome_iff, exists_comm]
  exact exists_congr fun choices => exists_cuts_iff_along.symm

theorem foremost_iff_preferred {choices : List Choice} :
    Foremost (segments.flatMap Segment.pieces) text choices ↔
      ∃ shares, Preferred segments text shares choices := by
  simp only [Foremost, Preferred, exists_and_right, exists_cuts_iff_along]
  refine and_congr_right fun _ => ⟨fun h _ others hothers => ?_, fun h others hothers => ?_⟩
  · exact h others (exists_cuts_iff_along.mp ⟨_, hothers⟩)
  · obtain ⟨shares, hcuts⟩ := exists_cuts_iff_along.mpr hothers
    exact h shares others hcuts

theorem search_segments_eq_some_iff {groups : List (List Char)} :
    search (segments.flatMap Segment.pieces) text = some groups ↔
      ∃ shares choices, Preferred segments text shares choices ∧
        groups = slotShares segments shares := by
  rw [search_eq_some_iff]
  constructor
  · rintro ⟨choices, hforemost, rfl⟩
    obtain ⟨shares, hpreferred⟩ := foremost_iff_preferred.mp hforemost
    exact ⟨shares, choices, hpreferred, hpreferred.1.1.filterMap_slotShare?_eq⟩
  · rintro ⟨shares, choices, hpreferred, rfl⟩
    exact ⟨choices, foremost_iff_preferred.mpr ⟨shares, hpreferred⟩,
      hpreferred.1.1.filterMap_slotShare?_eq⟩

/-- Anchored matching is sound, complete and takes the preferred cut: for a usable template, a text
is accepted exactly when the trimmed text can be cut along the template's segments, and the captures
are the slots' shares of the cut that comes first when every run of blanks had better be long and
every share short. -/
theorem captures_of_preferred_cut {template : String} {pattern : Pattern}
    (hpattern : ofTemplate template = .ok pattern) (text : String) :
    ∃ segments, Template.split (trimmed template) = .ok segments ∧
      (pattern.accepts text = true ↔
        ∃ shares choices, Cuts segments (Text.trim text.toList) shares choices) ∧
      ∀ groups, pattern.captures? text = some groups ↔
        ∃ shares choices, Preferred segments (Text.trim text.toList) shares choices ∧
          groups = (slotShares segments shares).map String.ofList := by
  obtain ⟨_, segments, hsegments, rfl⟩ := ofTemplate_eq_ok_iff.mp hpattern
  refine ⟨segments, split_trimmed_eq_ok_iff.mpr hsegments, ?_, fun groups => ?_⟩
  · rw [accepts, captures?, Option.isSome_map]
    exact search_segments_isSome_iff
  · rw [captures?, Option.map_eq_some_iff]
    constructor
    · rintro ⟨found, hfound, rfl⟩
      obtain ⟨shares, choices, hpreferred, rfl⟩ := search_segments_eq_some_iff.mp hfound
      exact ⟨shares, choices, hpreferred, rfl⟩
    · rintro ⟨shares, choices, hpreferred, rfl⟩
      exact ⟨_, search_segments_eq_some_iff.mpr ⟨shares, choices, hpreferred, rfl⟩, rfl⟩

/-- The first share ends before the earlier of the two words that spell the literal. -/
theorem captures_of_preferred_cut_repeated_word :
    ∃ pattern, ofTemplate "\x7ba\x7d de \x7bb\x7d" = .ok pattern ∧
      ∃ segments shares choices,
        Template.split (trimmed "\x7ba\x7d de \x7bb\x7d") = .ok segments ∧
        Preferred segments (Text.trim " uno  DE de tres ".toList) shares choices ∧
        ["uno", "de tres"] = (slotShares segments shares).map String.ofList := by
  have hpattern : ofTemplate "\x7ba\x7d de \x7bb\x7d" =
      .ok (ofSegments "\x7ba\x7d de \x7bb\x7d"
        [.slot "a", .literal [' ', 'd', 'e', ' '], .slot "b"]) := by decide
  obtain ⟨segments, hsegments, _, hgroups⟩ :=
    captures_of_preferred_cut hpattern " uno  DE de tres "
  obtain ⟨shares, choices, hpreferred, hshares⟩ :=
    (hgroups ["uno", "de tres"]).mp (by decide)
  exact ⟨_, hpattern, segments, shares, choices, hsegments, hpreferred, hshares⟩

end Pattern

end Phrasebook
