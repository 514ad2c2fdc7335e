import Mathlib
import Phrasebook.Proofs.Template.Literals
import Phrasebook.Proofs.Template.Rendering

/-!
# Blanks around a template

A pattern is made from the trimmed template, while its slots and its literal words are also read from
the template as it is written.  Blanks at the ends of a template lengthen its outer literals or add
blank ones, so they change neither its slots nor its words, and all readings agree.
-/

namespace Phrasebook

namespace Template

open Text (AllBlank fold isBlank)

/-! ## Literal text at the ends -/

/-- The segments with more literal text behind them. -/
def appendLiteral (text : List Char) : List Segment → List Segment
  | [] => text.foldr consLiteral []
  | [.literal other] => [.literal (other ++ text)]
  | segment :: rest => segment :: appendLiteral text rest

theorem appendLiteral_slot_cons (text : List Char) (name : String) (rest : List Segment) :
    appendLiteral text (.slot name :: rest) = .slot name :: appendLiteral text rest := by
  rw [appendLiteral]
  nofun

theorem appendLiteral_cons_nil (c : Char) (text : List Char) :
    appendLiteral (c :: text) [] = [.literal (c :: text)] :=
  foldr_consLiteral (List.cons_ne_nil c text) nofun

/-- Text for both ends of the segments can be put to them in any order. -/
theorem appendLiteral_consLiteral (text : List Char) (c : Char) (segments : List Segment) :
    appendLiteral text (consLiteral c segments) = consLiteral c (appendLiteral text segments) := by
  cases segments with
  | nil =>
      cases text with
      | nil => rfl
      | cons d text =>
          rw [appendLiteral_cons_nil]
          rfl
  | cons segment rest =>
      cases segment with
      | literal other => cases rest <;> rfl
      | slot name =>
          rw [appendLiteral_slot_cons]
          exact congrArg (.literal [c] :: ·) (appendLiteral_slot_cons text name rest)

/-- A reader goes on with the blanks behind a template as with literal text, and reports the same
flaw if there is one. -/
theorem scan_append_blanks {after : List Char} (hafter : AllBlank after) (place : Place)
    (position : Nat) (text : List Char) :
    scan place position (text ++ after) =
      (scan place position text).map (appendLiteral after) := by
  induction text generalizing place position with
  | nil =>
      have hplain : ∀ c ∈ after, IsPlain c := fun c hc => isPlain_of_isBlank (hafter c hc)
      rw [List.nil_append, ← List.append_nil after]
      cases place with
      | outside =>
          rw [scan_outside_append hplain]
          simp [scan, Except.map, appendLiteral]
      | inside start seen =>
          rw [scan_inside_append hplain]
          rfl
  | cons c text ih =>
      rw [List.cons_append]
      cases place with
      | outside =>
          rw [scan, scan]
          split
          · rfl
          split
          · exact ih _ _
          · rw [ih]
            cases scan .outside (position + 1) text with
            | error flaw => rfl
            | ok found => exact congrArg Except.ok (appendLiteral_consLiteral after c found).symm
      | inside start seen =>
          rw [scan, scan]
          split
          · dsimp only
            split
            · rfl
            split
            · rw [ih]
              cases scan .outside (position + 1) text with
              | error flaw => rfl
              | ok found => exact congrArg Except.ok (appendLiteral_slot_cons after _ found).symm
            · rfl
          · exact ih _ _

theorem scan_outside_eq_ok_iff (position : Nat) {text : List Char} {found : List Segment} :
    scan .outside position text = .ok found ↔ segments text = .ok found := by
  rw [segments_eq_ok_iff]
  exact ⟨(written_of_scan text).1 position found, fun hwritten => hwritten.scan_eq position⟩

/-- Blanks around a template are added to the segments at its ends. -/
theorem segments_surrounded_eq_ok_iff {before after text : List Char} {other : List Segment}
    (hbefore : AllBlank before) (hafter : AllBlank after) :
    segments (before ++ text ++ after) = .ok other ↔
      ∃ found, segments text = .ok found ∧
        other = before.foldr consLiteral (appendLiteral after found) := by
  have hplain : ∀ c ∈ before, IsPlain c := fun c hc => isPlain_of_isBlank (hbefore c hc)
  rw [segments, List.append_assoc, scan_outside_append hplain, scan_append_blanks hafter]
  simp only [← scan_outside_eq_ok_iff (0 + before.length)]
  cases scan .outside (0 + before.length) text with
  | error flaw => simp [Except.map]
  | ok found => simp [Except.map, eq_comm]

/-! ## What blank text leaves as it is -/

/-- Segments with the same slots and the same literal words, which touch in both or in neither. -/
structure Alike (found other : List Segment) : Prop where
  slotNames : slotNames other = slotNames found
  foldedLiterals : foldedLiterals other = foldedLiterals found
  touching : hasTouchingSlots other = hasTouchingSlots found

theorem Alike.refl (found : List Segment) : Alike found found := ⟨rfl, rfl, rfl⟩

theorem Alike.trans {found other last : List Segment} (hfirst : Alike found other)
    (hsecond : Alike other last) : Alike found last where
  slotNames := hsecond.slotNames.trans hfirst.slotNames
  foldedLiterals := hsecond.foldedLiterals.trans hfirst.foldedLiterals
  touching := hsecond.touching.trans hfirst.touching

theorem alike_consLiteral {c : Char} (hc : isBlank c = true) (segments : List Segment) :
    Alike segments (consLiteral c segments) := by
  have hblank : (Segment.literal [c]).foldedLiteral? = none :=
    (foldedLiteral?_congr (Text.words_blank_cons hc [])).trans rfl
  cases segments with
  | nil => exact ⟨rfl, List.filterMap_cons_none hblank, rfl⟩
  | cons segment rest =>
      cases segment with
      | slot name => exact ⟨rfl, List.filterMap_cons_none hblank, rfl⟩
      | literal text =>
          refine ⟨rfl, ?_, rfl⟩
          rw [consLiteral, foldedLiterals_cons, foldedLiterals_cons,
            foldedLiteral?_congr (Text.words_blank_cons hc text)]

theorem alike_foldr_consLiteral {before : List Char} (hbefore : AllBlank before)
    (segments : List Segment) : Alike segments (before.foldr consLiteral segments) := by
  induction before with
  | nil => exact .refl segments
  | cons c before ih =>
      rw [AllBlank, List.forall_mem_cons] at hbefore
      exact (ih hbefore.2).trans (alike_consLiteral hbefore.1 _)

/-- Segments stay alike behind a literal. -/
theorem Alike.literal_cons {found other : List Segment} (halike : Alike found other)
    (text : List Char) : Alike (.literal text :: found) (.literal text :: other) where
  slotNames := halike.slotNames
  foldedLiterals := by
    rw [foldedLiterals_cons, foldedLiterals_cons, halike.foldedLiterals]
  touching := halike.touching

theorem alike_appendLiteral {after : List Char} (hafter : AllBlank after)
    (segments : List Segment) : Alike segments (appendLiteral after segments) := by
  induction segments with
  | nil => exact alike_foldr_consLiteral hafter []
  | cons segment rest ih =>
      cases segment with
      | literal text =>
          cases rest with
          | nil =>
              refine ⟨rfl, ?_, rfl⟩
              rw [appendLiteral, foldedLiterals_cons, foldedLiterals_cons,
                foldedLiteral?_congr (Text.words_append_allBlank text hafter)]
          | cons next rest => exact ih.literal_cons text
      | slot name =>
          rw [appendLiteral_slot_cons]
          refine ⟨congrArg (name :: ·) ih.slotNames, ih.foldedLiterals, ?_⟩
          -- whether this slot touches the next segment is seen from the first one of the rest
          cases rest with
          | nil =>
              cases after with
              | nil => rfl
              | cons c after =>
                  rw [appendLiteral_cons_nil]
                  rfl
          | cons next rest =>
              cases next with
              | slot other =>
                  rw [appendLiteral_slot_cons]
                  rfl
              | literal text => cases rest <;> exact ih.touching

/-- A template and the same one without its outer blanks are read alike, or neither can be read. -/
theorem exists_alike_iff (text : List Char) :
    (∀ other, segments text = .ok other →
      ∃ found, segments (Text.trim text) = .ok found ∧ Alike found other) ∧
    ∀ found, segments (Text.trim text) = .ok found →
      ∃ other, segments text = .ok other ∧ Alike found other := by
  obtain ⟨before, after, hbefore, hafter, htext⟩ := Text.exists_eq_append_trim text
  have halike : ∀ found,
      Alike found (before.foldr consLiteral (appendLiteral after found)) := fun found =>
    (alike_appendLiteral hafter found).trans (alike_foldr_consLiteral hbefore _)
  generalize Text.trim text = kernel at htext
  subst htext
  simp only [segments_surrounded_eq_ok_iff hbefore hafter]
  constructor
  · rintro other ⟨found, hfound, rfl⟩
    exact ⟨found, hfound, halike found⟩
  · intro found hfound
    exact ⟨_, ⟨found, hfound, rfl⟩, halike found⟩

/-! ## Slots that touch -/

theorem hasTouchingSlots_iff {segments : List Segment} :
    hasTouchingSlots segments = true ↔
      ∃ first second, [.slot first, .slot second] <:+: segments := by
  induction segments with
  | nil => simp [hasTouchingSlots]
  | cons segment rest ih =>
      simp only [List.infix_cons_iff, exists_or, ← ih]
      cases segment with
      | literal text => simp [hasTouchingSlots]
      | slot first =>
          cases rest with
          | nil => simp [hasTouchingSlots]
          | cons next rest => cases next <;> simp [hasTouchingSlots]

end Template

/-! ## Patterns -/

namespace Pattern

open Template

variable {template before after : String} {pattern padded : Pattern} {segments : List Segment}

/-- Blanks around a template show in the source of its pattern alone. -/
theorem ofTemplate_surrounded (hworded : isBlankText template = false)
    (hbefore : isBlankText before = true) (hafter : isBlankText after = true) :
    ofTemplate (before ++ template ++ after) =
      (ofTemplate template).map fun pattern =>
        { pattern with source := before ++ template ++ after } := by
  have htrim : Text.trim (before ++ template ++ after).toList = Text.trim template.toList := by
    rw [String.toList_append, String.toList_append]
    exact Text.trim_append_of_allBlank (isBlankText_iff.mp hbefore) _ (isBlankText_iff.mp hafter)
  rw [ofTemplate, ofTemplate, htrim]
  cases htext : Text.trim template.toList with
  | nil => exact absurd htext (isBlankText_eq_false_iff.mp hworded)
  | cons c text =>
      dsimp only
      cases Template.segments (c :: text) <;> rfl

/-- The names of the slots, the literal words and the ambiguity of a pattern are those of some
segments. -/
structure Describes (pattern : Pattern) (segments : List Segment) : Prop where
  slotNames : pattern.slotNames = Template.slotNames segments
  skeleton : Text.unwords pattern.literals = Template.skeleton segments
  words : Template.skeleton segments ≠ [] →
    Text.splitAtSpaces (Template.skeleton segments) = pattern.literalWords
  words_ne_nil : ∀ word ∈ pattern.literalWords, word ≠ []
  ambiguous : pattern.ambiguous = true ↔
    ∃ first second, [.slot first, .slot second] <:+: segments

/-- A pattern has the slots, literals and ambiguity of another one, and it accepts the same texts
with the same captures. -/
structure WorksAs (pattern other : Pattern) : Prop where
  slotNames : pattern.slotNames = other.slotNames
  literals : pattern.literals = other.literals
  ambiguous : pattern.ambiguous = other.ambiguous
  captures : ∀ text, pattern.captures? text = other.captures? text

/-- What is not blank can be made a pattern if it can be split. -/
theorem exists_ofTemplate_iff (hworded : isBlankText template = false) :
    (∃ pattern, ofTemplate template = .ok pattern) ↔
      ∃ segments, Template.split template = .ok segments := by
  simp only [ofTemplate_eq_ok_iff, split_eq_ok_iff_segments]
  constructor
  · rintro ⟨_, -, found, hfound, -⟩
    obtain ⟨segments, hsegments, -⟩ := (exists_alike_iff template.toList).2 found hfound
    exact ⟨segments, hsegments⟩
  · rintro ⟨segments, hsegments⟩
    obtain ⟨found, hfound, -⟩ := (exists_alike_iff template.toList).1 segments hsegments
    exact ⟨_, isBlankText_eq_false_iff.mp hworded, found, hfound, rfl⟩

theorem describes_of_split (hpattern : ofTemplate template = .ok pattern)
    (hsegments : Template.split template = .ok segments) : pattern.Describes segments := by
  obtain ⟨-, found, hfound, rfl⟩ := ofTemplate_eq_ok_iff.mp hpattern
  obtain ⟨kernel, hkernel, halike⟩ :=
    (exists_alike_iff template.toList).1 segments (split_eq_ok_iff_segments.mp hsegments)
  obtain rfl : kernel = found := Except.ok.inj (hkernel.symm.trans hfound)
  refine ⟨halike.slotNames.symm, ?_, fun hne => ?_,
    fun _ hword => (isWord_of_mem_literalWords hpattern hword).1, ?_⟩
  · rw [skeleton_eq, halike.foldedLiterals]
    rfl
  · rw [splitAtSpaces_skeleton hne, halike.foldedLiterals]
    rfl
  · rw [← hasTouchingSlots_iff, halike.touching]
    rfl

/-- A template that is not blank can be made a pattern if and only if it can be split as it is
written, and the pattern describes its segments.  With blanks around it, it gives a pattern that
works the same, or none as before. -/
theorem readings_agree (hworded : isBlankText template = false)
    (hbefore : isBlankText before = true) (hafter : isBlankText after = true) :
    ((∃ pattern, ofTemplate template = .ok pattern) ↔
      ∃ segments, Template.split template = .ok segments) ∧
    ((∃ padded, ofTemplate (before ++ template ++ after) = .ok padded) ↔
      ∃ segments, Template.split template = .ok segments) ∧
    ∀ pattern segments, ofTemplate template = .ok pattern →
      Template.split template = .ok segments → pattern.Describes segments ∧
        ∀ padded, ofTemplate (before ++ template ++ after) = .ok padded →
          padded.WorksAs pattern := by
  have hsurrounded := ofTemplate_surrounded hworded hbefore hafter
  refine ⟨exists_ofTemplate_iff hworded, ?_, fun pattern segments hpattern hsegments => ?_⟩
  · rw [← exists_ofTemplate_iff hworded, hsurrounded]
    cases ofTemplate template <;> simp [Except.map]
  · refine ⟨describes_of_split hpattern hsegments, fun padded hpadded => ?_⟩
    rw [hsurrounded, hpattern] at hpadded
    cases hpadded
    exact ⟨rfl, rfl, rfl, fun _ => rfl⟩

/-- A template with blanks at its ends and between its slots. -/
def spacious : String := " Precio  de \x7ba\x7d\x7bb\x7d \x7bc\x7d\n"

/-- The outer blanks of a template are part of its first literal and a last one of their own. -/
theorem readings_agree_spacious :
    isBlankText spacious = false ∧ isBlankText "\t" = true ∧ isBlankText "\u2003" = true ∧
      ∃ pattern padded segments, ofTemplate spacious = .ok pattern ∧
        ofTemplate ("\t" ++ spacious ++ "\u2003") = .ok padded ∧
          Template.split spacious = .ok segments ∧ segments.length = 6 ∧
            Template.skeleton segments = "precio de".toList ∧
              pattern.Describes segments ∧ padded.WorksAs pattern := by
  have hsplit : Template.split spacious = .ok [.literal " Precio  de ".toList, .slot "a",
      .slot "b", .literal [' '], .slot "c", .literal ['\n']] := by
    decide
  have hworded : isBlankText spacious = false := by decide
  have hbefore : isBlankText "\t" = true := by decide
  have hafter : isBlankText "\u2003" = true := by decide
  obtain ⟨hpatterns, hpaddeds, hreadings⟩ := readings_agree hworded hbefore hafter
  obtain ⟨pattern, hpattern⟩ := hpatterns.mpr ⟨_, hsplit⟩
  obtain ⟨padded, hpadded⟩ := hpaddeds.mpr ⟨_, hsplit⟩
  obtain ⟨hdescribes, hworks⟩ := hreadings pattern _ hpattern hsplit
  exact ⟨hworded, hbefore, hafter, pattern, padded, _, hpattern, hpadded, hsplit, rfl, by decide,
    hdescribes, hworks padded hpadded⟩

end Pattern

end Phrasebook
