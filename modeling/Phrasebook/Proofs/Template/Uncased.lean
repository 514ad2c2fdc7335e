import Mathlib
import Phrasebook.Proofs.Extraction
import Phrasebook.Proofs.Text.Small

/-!
# Matching looks past plain case

A text and its uncased form are cut along a template at the same places, since every step of the
search decides by the classes of characters and never by their case.  So the first pattern that
accepts the one accepts the other, and captures the uncased form of the same shares.
-/

namespace Phrasebook

namespace Template

open Text (uncase)

variable {α : Type}

theorem afterBlanks_uncase {next other : List Char → Option α} {f : α → α}
    (hnext : ∀ text, other (uncase text) = (next text).map f) (text : List Char) :
    afterBlanks other (uncase text) = (afterBlanks next text).map f := by
  induction text with
  | nil => rfl
  | cons c rest ih =>
      rw [Text.uncase_cons, afterBlanks, afterBlanks, Text.isBlank_toLower, ih, hnext]
      split
      · cases afterBlanks next rest <;> rfl
      · rfl

theorem shortestStart_uncase {next other : List Char → Option α} {f : α → α}
    (hnext : ∀ text, other (uncase text) = (next text).map f) (text : List Char) :
    shortestStart other (uncase text) =
      (shortestStart next text).map fun found => (uncase found.1, f found.2) := by
  induction text with
  | nil => rfl
  | cons c rest ih =>
      rw [Text.uncase_cons, shortestStart, shortestStart, hnext, ih]
      cases next rest with
      | some answer => rfl
      | none => cases shortestStart next rest <;> rfl

/-- The search takes the same decisions on both texts. -/
theorem search_uncase (pieces : List Piece) (text : List Char) :
    search pieces (uncase text) = (search pieces text).map (·.map uncase) := by
  induction pieces generalizing text with
  | nil => cases text <;> rfl
  | cons piece pieces ih =>
      cases piece with
      | char c =>
          cases text with
          | nil => rfl
          | cons d text =>
              rw [Text.uncase_cons, search, search, Text.sameUpToCase_toLower, ih]
              split <;> rfl
      | blanks =>
          rw [search, search]
          exact afterBlanks_uncase ih text
      | slot =>
          rw [search, search, shortestStart_uncase ih]
          cases shortestStart (search pieces) text <;> rfl

end Template

theorem Pattern.captures?_uncased (pattern : Pattern) (text : String) :
    pattern.captures? (uncased text) = (pattern.captures? text).map (·.map uncased) := by
  rw [captures?, captures?, toList_uncased, Text.trim_uncase, Template.search_uncase]
  simp [Option.map_map, Function.comp_def, uncased]

theorem Pattern.captures?_trimmed (pattern : Pattern) (text : String) :
    pattern.captures? (trimmed text) = pattern.captures? text := by
  rw [captures?, captures?, trimmed, String.toList_ofList, Text.trim_trim]

/-! ## Captures -/

namespace Captures

/-- Captured texts with their plain capitals as small letters. -/
def uncased (captures : Captures) : Captures :=
  OrderedMap.mapValues Phrasebook.uncased captures

theorem insert_uncased (name value : String) (captures : Captures) :
    captures.uncased.insert name (Phrasebook.uncased value) =
      (captures.insert name value).uncased := by
  rw [insert_eq, insert_eq]
  exact OrderedMap.insert_mapValues Phrasebook.uncased name value captures

theorem erase_uncased (name : String) (captures : Captures) :
    captures.uncased.erase name = (captures.erase name).uncased :=
  OrderedMap.erase_mapValues Phrasebook.uncased name captures

theorem record_uncased (captures : Captures) (name share : String) :
    captures.uncased.record name (Phrasebook.uncased share) =
      (captures.record name share).uncased := by
  rw [record, record, trimmed_uncased, isEmpty_uncased, erase_uncased, insert_uncased]
  split <;> rfl

theorem ofShares_uncased (names shares : List String) :
    ofShares names (shares.map Phrasebook.uncased) = (ofShares names shares).uncased := by
  have hrecords : ∀ (entries : List (String × String)) (captures : Captures),
      entries.foldl (fun captures entry => captures.record entry.1 (Phrasebook.uncased entry.2))
          captures.uncased =
        (entries.foldl (fun captures entry => captures.record entry.1 entry.2)
          captures).uncased := by
    -- on the entries, with any captures recorded before them
    intro entries
    induction entries with
    | nil => exact fun captures => rfl
    | cons entry entries ih =>
        intro captures
        rw [List.foldl_cons, List.foldl_cons, record_uncased, ih]
  rw [ofShares, ofShares, List.zip_map_right, List.foldl_map]
  exact hrecords _ []

end Captures

/-- The patterns are tried with the same result on the uncased text. -/
theorem matchFirst?_uncased (text : String) (patterns : List Pattern) :
    matchFirst? (uncased text) patterns =
      (matchFirst? text patterns).map fun found => (found.1, found.2.uncased) := by
  rw [matchFirst?, matchFirst?, isBlankText_uncased]
  split
  · rfl
  · induction patterns with
    | nil => rfl
    | cons pattern patterns ih =>
        rw [List.findSome?_cons, List.findSome?_cons, Pattern.captures?_uncased]
        cases pattern.captures? text with
        | none => exact ih
        | some shares =>
            simp only [Option.map_some, Captures.ofShares_uncased]

theorem matchFirst?_trimmed (text : String) (patterns : List Pattern) :
    matchFirst? (trimmed text) patterns = matchFirst? text patterns := by
  simp only [matchFirst?, isBlankText_trimmed, Pattern.captures?_trimmed]

/-- Captures of the same slots, with values that differ in nothing but the case of plain letters. -/
def Captures.IsRecased (captures others : Captures) : Prop :=
  List.Forall₂ (fun entry other => entry.1 = other.1 ∧
    Text.IsRecased entry.2.toList other.2.toList) captures others

theorem Captures.isRecased_iff {captures others : Captures} :
    captures.IsRecased others ↔ captures.uncased = others.uncased := by
  rw [IsRecased, uncased, uncased, OrderedMap.mapValues, OrderedMap.mapValues,
    ← List.forall₂_eq_eq_eq, List.forall₂_map_left_iff, List.forall₂_map_right_iff]
  simp only [isRecased_iff_uncased, Prod.mk.injEq]

end Phrasebook
