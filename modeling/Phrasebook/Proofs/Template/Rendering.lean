import Mathlib
import Phrasebook.Proofs.Template.Grammar
import Phrasebook.Proofs.Text.Letters

/-!
# Templates are read as they are written

The texts that can be read are those of the grammar, and the segments that come out of them are
those that can be written.  Writing the segments of a template gives the template again, but for the
blanks around its names; reading written segments gives the segments again.
-/

namespace Phrasebook

/-! ## Names -/

namespace Text

theorem exists_range_of_inRanges {ranges : List Range} {code : Nat}
    (hcode : inRanges ranges code = true) :
    ∃ range ∈ ranges, range.first ≤ code ∧ code ≤ range.last := by
  induction ranges with
  | nil => cases hcode
  | cons range ranges ih =>
      rw [inRanges] at hcode
      split at hcode
      · cases hcode
      rename_i hfirst
      split at hcode
      · rename_i hlast
        exact ⟨range, List.mem_cons_self, Nat.le_of_not_lt hfirst, hlast⟩
      · obtain ⟨found, hfound, hbounds⟩ := ih hcode
        exact ⟨found, List.mem_cons_of_mem _ hfound, hbounds⟩

theorem alphanumericRanges_clear :
    ∀ range ∈ alphanumericRanges, Clear range.first range.last := by
  decide +kernel

theorem isBlank_eq_false_of_isWordChar {c : Char} (hword : isWordChar c = true) :
    isBlank c = false := by
  by_cases hcode : c.toNat < 128
  · have hplain : ∀ code < 128, isWordChar (Char.ofNat code) = true →
        isBlank (Char.ofNat code) = false := by
      decide
    exact forall_char_lt (P := fun c => isWordChar c = true → isBlank c = false) hplain c hcode
      hword
  · have hne : c ≠ '_' := by
      rintro rfl
      exact hcode (by decide)
    rw [isWordChar, beq_eq_false_iff_ne.mpr hne, Bool.false_or, isAlphanumeric, if_neg hcode]
      at hword
    obtain ⟨range, hrange, hfirst, hlast⟩ := exists_range_of_inRanges hword
    exact isBlank_eq_false_of_clear _ _ (alphanumericRanges_clear range hrange) hfirst hlast

theorem isWordChar_of_isIdentifier {name : List Char} (hname : isIdentifier name = true) :
    ∀ c ∈ name, isWordChar c = true := by
  cases name with
  | nil => cases hname
  | cons c rest =>
      simp only [isIdentifier, Bool.and_eq_true, List.all_eq_true] at hname
      exact List.forall_mem_cons.mpr ⟨hname.1.1, hname.2⟩

theorem isBlank_eq_false_of_isIdentifier {name : List Char} (hname : isIdentifier name = true) :
    ∀ c ∈ name, isBlank c = false :=
  fun c hc => isBlank_eq_false_of_isWordChar (isWordChar_of_isIdentifier hname c hc)

theorem trim_of_isIdentifier {name : List Char} (hname : isIdentifier name = true) :
    trim name = name :=
  have hblank := isBlank_eq_false_of_isIdentifier hname
  trim_eq_self_iff.mpr ⟨fun c hc => hblank c (List.mem_of_mem_head? hc),
    fun c hc => hblank c (List.mem_of_mem_getLast? hc)⟩

end Text

namespace Template

open Text (AllBlank isBlank isIdentifier)

/-- A character that is no brace. -/
def IsPlain (c : Char) : Prop := c ≠ openBrace ∧ c ≠ closeBrace

theorem isPlain_of_isBlank {c : Char} (hblank : isBlank c = true) : IsPlain c := by
  constructor <;> rintro rfl <;> exact absurd hblank (by decide)

theorem isPlain_of_isIdentifier {name : List Char} (hname : isIdentifier name = true) :
    ∀ c ∈ name, IsPlain c := by
  intro c hc
  have hword := Text.isWordChar_of_isIdentifier hname c hc
  constructor <;> rintro rfl <;> exact absurd hword (by decide)

/-- What may stand in braces around a name has none in it. -/
theorem isPlain_of_mem_braces {before name after : List Char} (hbefore : AllBlank before)
    (hafter : AllBlank after) (hname : isIdentifier name = true) :
    ∀ c ∈ before ++ name ++ after, IsPlain c := by
  intro c hc
  rw [List.mem_append, List.mem_append] at hc
  rcases hc with (hc | hc) | hc
  · exact isPlain_of_isBlank (hbefore c hc)
  · exact isPlain_of_isIdentifier hname c hc
  · exact isPlain_of_isBlank (hafter c hc)

/-! ## The grammar -/

/-- A text of characters other than braces, and names in braces with blanks around them. -/
inductive IsTemplate : List Char → Prop
  | nil : IsTemplate []
  | char {c : Char} {rest : List Char} : IsPlain c → IsTemplate rest → IsTemplate (c :: rest)
  | slot {before name after rest : List Char} :
      AllBlank before → AllBlank after → isIdentifier name = true → IsTemplate rest →
      IsTemplate (openBrace :: (before ++ name ++ after) ++ closeBrace :: rest)

theorem IsTemplate.append_plain {text rest : List Char} (hplain : ∀ c ∈ text, IsPlain c)
    (hrest : IsTemplate rest) : IsTemplate (text ++ rest) := by
  induction text with
  | nil => exact hrest
  | cons c text ih =>
      rw [List.forall_mem_cons] at hplain
      exact .char hplain.1 (ih hplain.2)

/-- The texts of the grammar are those that have segments. -/
theorem isTemplate_iff_exists_written {text : List Char} :
    IsTemplate text ↔ ∃ found, Written found text := by
  constructor
  · intro htemplate
    induction htemplate with
    | nil => exact ⟨[], .nil⟩
    | char hplain _ ih =>
        obtain ⟨found, hwritten⟩ := ih
        exact ⟨_, hwritten.consLiteral hplain.1 hplain.2⟩
    | slot hbefore hafter hname _ ih =>
        obtain ⟨found, hwritten⟩ := ih
        exact ⟨_, .slot hbefore hafter hname hwritten⟩
  · rintro ⟨found, hwritten⟩
    induction hwritten with
    | nil => exact .nil
    | literal _ hplain _ _ ih => exact .append_plain hplain ih
    | slot hbefore hafter hname _ ih => exact .slot hbefore hafter hname ih

/-! ## Reading what is written -/

theorem foldr_consLiteral {text : List Char} {segments : List Segment} (hne : text ≠ [])
    (hnext : ∀ other, segments.head? ≠ some (.literal other)) :
    text.foldr consLiteral segments = .literal text :: segments := by
  have hsingle : ∀ c, consLiteral c segments = .literal [c] :: segments := by
    intro c
    cases segments with
    | nil => rfl
    | cons segment segments =>
        cases segment with
        | literal other => exact absurd rfl (hnext other)
        | slot name => rfl
  induction text with
  | nil => exact absurd rfl hne
  | cons c text ih =>
      cases text with
      | nil => exact hsingle c
      | cons d text =>
          rw [List.foldr_cons, ih (List.cons_ne_nil d text)]
          rfl

theorem scan_outside_append {text : List Char} (hplain : ∀ c ∈ text, IsPlain c)
    (position : Nat) (rest : List Char) :
    scan .outside position (text ++ rest) =
      (scan .outside (position + text.length) rest).map (text.foldr consLiteral) := by
  induction text generalizing position with
  | nil =>
      rw [List.nil_append, List.length_nil, Nat.add_zero]
      cases scan .outside position rest <;> rfl
  | cons c text ih =>
      rw [List.forall_mem_cons] at hplain
      obtain ⟨⟨hopen, hclose⟩, hplain⟩ := hplain
      rw [List.cons_append, scan, if_neg hclose, if_neg hopen, ih hplain, List.length_cons,
        Nat.add_right_comm, ← Nat.add_assoc]
      cases scan .outside (position + text.length + 1) rest <;> rfl

theorem scan_inside_append {inside : List Char} (hplain : ∀ c ∈ inside, IsPlain c)
    (start : Nat) (seen : List Char) (position : Nat) (rest : List Char) :
    scan (.inside start seen) position (inside ++ rest) =
      scan (.inside start (inside.reverse ++ seen)) (position + inside.length) rest := by
  induction inside generalizing seen position with
  | nil => rfl
  | cons c inside ih =>
      rw [List.forall_mem_cons] at hplain
      rw [List.cons_append, scan, if_neg hplain.1.2, ih hplain.2, List.reverse_cons,
        List.append_assoc, List.length_cons, Nat.add_right_comm, ← Nat.add_assoc]
      rfl

/-- A reader takes a name in braces with the blanks around it for a slot. -/
theorem scan_slot {before name after : List Char} (hbefore : AllBlank before)
    (hafter : AllBlank after) (hname : isIdentifier name = true) (position : Nat)
    (rest : List Char) :
    ∃ next, scan .outside position
        (openBrace :: (before ++ name ++ after) ++ closeBrace :: rest) =
      (scan .outside next rest).map (.slot (String.ofList name) :: ·) := by
  have hplain := isPlain_of_mem_braces hbefore hafter hname
  have htrim : Text.trim (before ++ name ++ after) = name :=
    Text.trim_append hbefore hafter (Text.trim_of_isIdentifier hname)
  have hseen : (before ++ name ++ after).reverse.contains openBrace = false := by
    rw [List.contains_eq_mem, decide_eq_false_iff_not, List.mem_reverse]
    exact fun hmem => (hplain _ hmem).1 rfl
  refine ⟨position + 1 + (before ++ name ++ after).length + 1, ?_⟩
  have hne : openBrace ≠ closeBrace := by decide
  rw [List.cons_append, scan, if_neg hne, if_pos rfl, scan_inside_append hplain,
    List.append_nil, scan, if_pos rfl, List.reverse_reverse]
  simp only [hseen, htrim, hname, Bool.false_eq_true, if_false, if_true]

/-- The segments of a template are what a reader finds in it, wherever it starts to count. -/
theorem Written.scan_eq {found : List Segment} {text : List Char} (hwritten : Written found text)
    (position : Nat) : scan .outside position text = .ok found := by
  induction hwritten generalizing position with
  | nil => rfl
  | literal hne hplain hnext _ ih =>
      rw [scan_outside_append hplain, ih]
      exact congrArg Except.ok (foldr_consLiteral hne hnext)
  | slot hbefore hafter hname _ ih =>
      obtain ⟨next, heq⟩ := scan_slot hbefore hafter hname position _
      rw [heq, ih]
      rfl

theorem segments_eq_ok_iff {text : List Char} {found : List Segment} :
    segments text = .ok found ↔ Written found text :=
  ⟨written_of_segments, fun hwritten => hwritten.scan_eq 0⟩

/-! ## Writing what is read -/

/-- The text without the blanks behind its opening braces. -/
def tightenedStart : List Char → List Char
  | [] => []
  | c :: rest =>
      if c = openBrace then c :: (tightenedStart rest).dropWhile isBlank
      else c :: tightenedStart rest

/-- The text without the blanks in front of its closing braces. -/
def tightenedEnd : List Char → List Char
  | [] => []
  | c :: rest =>
      if isBlank c ∧ (tightenedEnd rest).head? = some closeBrace then tightenedEnd rest
      else c :: tightenedEnd rest

/-- The text without the blanks next to the inside of its braces. -/
def tightened (text : List Char) : List Char := tightenedEnd (tightenedStart text)

theorem tightenedStart_append {text : List Char} (hplain : ∀ c ∈ text, c ≠ openBrace)
    (rest : List Char) : tightenedStart (text ++ rest) = text ++ tightenedStart rest := by
  induction text with
  | nil => rfl
  | cons c text ih =>
      rw [List.forall_mem_cons] at hplain
      rw [List.cons_append, tightenedStart, if_neg hplain.1, ih hplain.2, List.cons_append]

/-- Blanks stay where they are unless they run up to a closing brace. -/
theorem tightenedEnd_append {text rest : List Char} (hplain : ∀ c ∈ text, c ≠ closeBrace)
    (hstays : (∀ c ∈ text, isBlank c = false) ∨ (tightenedEnd rest).head? ≠ some closeBrace) :
    tightenedEnd (text ++ rest) = text ++ tightenedEnd rest := by
  induction text with
  | nil => rfl
  | cons c text ih =>
      rw [List.forall_mem_cons] at hplain hstays
      have hrest := ih hplain.2 (hstays.imp_left And.right)
      have hkept : ¬ (isBlank c ∧ (text ++ tightenedEnd rest).head? = some closeBrace) := by
        rintro ⟨hblank, hhead⟩
        rcases hstays with hstays | hstays
        · exact absurd (hstays.1.symm.trans hblank) nofun
        · cases text with
          | nil => exact hstays hhead
          | cons d text => exact hplain.2 d List.mem_cons_self (Option.some.inj hhead)
      rw [List.cons_append, tightenedEnd, hrest, if_neg hkept, List.cons_append]

theorem tightenedEnd_closeBrace (rest : List Char) :
    tightenedEnd (closeBrace :: rest) = closeBrace :: tightenedEnd rest := by
  rw [tightenedEnd, if_neg]
  exact fun hblank => absurd hblank.1 (by decide)

theorem tightenedEnd_blanks {blanks : List Char} (hblank : AllBlank blanks) (rest : List Char) :
    tightenedEnd (blanks ++ closeBrace :: rest) = closeBrace :: tightenedEnd rest := by
  induction blanks with
  | nil => exact tightenedEnd_closeBrace rest
  | cons c blanks ih =>
      rw [AllBlank, List.forall_mem_cons] at hblank
      rw [List.cons_append, tightenedEnd, ih hblank.2, if_pos ⟨hblank.1, rfl⟩]

/-- Of a slot, the braces and the name are left. -/
theorem tightened_slot {before name after : List Char} (hbefore : AllBlank before)
    (hafter : AllBlank after) (hname : isIdentifier name = true) (rest : List Char) :
    tightened (openBrace :: (before ++ name ++ after) ++ closeBrace :: rest) =
      openBrace :: name ++ [closeBrace] ++ tightened rest := by
  have hplain := isPlain_of_mem_braces hbefore hafter hname
  have hblank := Text.isBlank_eq_false_of_isIdentifier hname
  have hclose : tightenedStart (closeBrace :: rest) = closeBrace :: tightenedStart rest :=
    if_neg (by decide)
  have hstart : tightenedStart (openBrace :: (before ++ name ++ after) ++ closeBrace :: rest) =
      openBrace :: (name ++ (after ++ closeBrace :: tightenedStart rest)) := by
    rw [List.cons_append, tightenedStart, if_pos rfl,
      tightenedStart_append fun c hc => (hplain c hc).1, hclose, List.append_assoc,
      List.append_assoc, List.dropWhile_append_of_pos hbefore]
    cases name with
    | nil => cases hname
    | cons c name => rw [List.cons_append, List.dropWhile_cons_of_neg (by simp [hblank c])]
  have hnotBlank : ∀ c ∈ openBrace :: name, isBlank c = false :=
    List.forall_mem_cons.mpr ⟨by decide, hblank⟩
  have hnotClose : ∀ c ∈ openBrace :: name, c ≠ closeBrace :=
    List.forall_mem_cons.mpr ⟨by decide, fun c hc => (isPlain_of_isIdentifier hname c hc).2⟩
  rw [tightened, hstart, ← List.cons_append, tightenedEnd_append hnotClose (.inl hnotBlank),
    tightenedEnd_blanks hafter, List.append_assoc]
  rfl

theorem render_cons (segment : Segment) (segments : List Segment) :
    render (segment :: segments) = segment.render ++ render segments := List.flatMap_cons

theorem Written.head?_render {found : List Segment} {text : List Char}
    (hwritten : Written found text) : (render found).head? ≠ some closeBrace := by
  cases hwritten with
  | nil => nofun
  | @literal text _ _ hne hplain _ _ =>
      cases text with
      | nil => exact absurd rfl hne
      | cons c text =>
          intro hhead
          exact (hplain c List.mem_cons_self).2 (Option.some.inj hhead)
  | slot => exact fun hhead => absurd (Option.some.inj hhead) (by decide)

/-- The segments of a template, written again, are the template without the blanks around its
names. -/
theorem Written.render_eq {found : List Segment} {text : List Char}
    (hwritten : Written found text) : render found = tightened text := by
  induction hwritten with
  | nil => rfl
  | literal _ hplain _ hrest ih =>
      rw [tightened] at ih
      rw [render_cons, Segment.render, tightened,
        tightenedStart_append fun c hc => (hplain c hc).1,
        tightenedEnd_append (fun c hc => (hplain c hc).2) (.inr (ih ▸ hrest.head?_render)), ih]
  | slot hbefore hafter hname _ ih =>
      rw [tightened_slot hbefore hafter hname, render_cons, Segment.render, String.toList_ofList,
        ih]

/-! ## Segments that can be written -/

/-- Literals that are not empty, have no braces and do not touch, and slots with names. -/
structure AreSegments (segments : List Segment) : Prop where
  literal : ∀ text, .literal text ∈ segments → text ≠ [] ∧ ∀ c ∈ text, IsPlain c
  apart : ∀ text other, ¬ [.literal text, .literal other] <:+: segments
  slot : ∀ name, .slot name ∈ segments → isIdentifier name.toList = true

theorem AreSegments.tail {segment : Segment} {segments : List Segment}
    (hsegments : AreSegments (segment :: segments)) : AreSegments segments where
  literal := fun text htext => hsegments.literal text (List.mem_cons_of_mem _ htext)
  apart := fun text other hadjacent =>
    hsegments.apart text other (List.infix_cons_iff.mpr (.inr hadjacent))
  slot := fun name hname => hsegments.slot name (List.mem_cons_of_mem _ hname)

theorem Written.isPlain_of_mem_literal {found : List Segment} {template : List Char}
    (hwritten : Written found template) :
    ∀ text, .literal text ∈ found → ∀ c ∈ text, IsPlain c := by
  intro text hmem
  induction hwritten with
  | nil => simp at hmem
  | literal _ hplain _ _ ih =>
      rcases List.mem_cons.mp hmem with heq | hmem
      · cases heq
        exact hplain
      · exact ih hmem
  | slot _ _ _ _ ih => exact ih (by simpa using hmem)

theorem Written.isIdentifier_of_mem_slot {found : List Segment} {template : List Char}
    (hwritten : Written found template) :
    ∀ name, .slot name ∈ found → isIdentifier name.toList = true := by
  intro name hmem
  induction hwritten with
  | nil => simp at hmem
  | literal _ _ _ _ ih => exact ih (by simpa using hmem)
  | slot _ _ hname _ ih =>
      rcases List.mem_cons.mp hmem with heq | hmem
      · cases heq
        rwa [String.toList_ofList]
      · exact ih hmem

theorem Written.areSegments {found : List Segment} {template : List Char}
    (hwritten : Written found template) : AreSegments found where
  literal := fun text hmem =>
    ⟨hwritten.literal_ne_nil text hmem, hwritten.isPlain_of_mem_literal text hmem⟩
  apart := hwritten.not_adjacent_literals
  slot := hwritten.isIdentifier_of_mem_slot

/-- Segments that can be written are those of what is written. -/
theorem AreSegments.written {segments : List Segment} (hsegments : AreSegments segments) :
    Written segments (render segments) := by
  induction segments with
  | nil => exact .nil
  | cons segment segments ih =>
      have hrest := ih hsegments.tail
      cases segment with
      | literal text =>
          obtain ⟨hne, hplain⟩ := hsegments.literal text List.mem_cons_self
          refine .literal hne hplain (fun other hother => ?_) hrest
          obtain ⟨tail, rfl⟩ := List.head?_eq_some_iff.mp hother
          exact hsegments.apart text other ⟨[], tail, rfl⟩
      | slot name =>
          have hslot : Written (.slot (String.ofList name.toList) :: segments)
              (openBrace :: ([] ++ name.toList ++ []) ++ closeBrace :: render segments) :=
            .slot nofun nofun (hsegments.slot name List.mem_cons_self) hrest
          rw [String.ofList_toList] at hslot
          simpa [render_cons, Segment.render] using hslot

/-! ## The whole reader -/

theorem split_eq_ok_iff {template : String} {found : List Segment} :
    split template = .ok found ↔ Written found template.toList :=
  split_eq_ok_iff_segments.trans segments_eq_ok_iff

theorem exists_split_iff {template : String} :
    (∃ found, split template = .ok found) ↔ IsTemplate template.toList := by
  simp only [split_eq_ok_iff, isTemplate_iff_exists_written]

/-- A text has segments if it is a template, and else it is reported as malformed, for what it is.
What comes out can be written, as the template without the blanks around its names; and whatever can
be written comes out of what is written. -/
theorem split_iff_isTemplate (template : String) :
    ((∃ found, split template = .ok found) ↔ IsTemplate template.toList) ∧
      (∀ found, split template = .ok found →
        AreSegments found ∧ render found = tightened template.toList) ∧
      (∀ found, AreSegments found → split (String.ofList (render found)) = .ok found) ∧
      ((∃ flaw, split template = .error ⟨template, flaw⟩) ↔ ¬ IsTemplate template.toList) := by
  refine ⟨exists_split_iff, fun found hfound => ?_, fun found hfound => ?_, ?_⟩
  · rw [split_eq_ok_iff] at hfound
    exact ⟨hfound.areSegments, hfound.render_eq⟩
  · rw [split_eq_ok_iff, String.toList_ofList]
    exact hfound.written
  · rw [← exists_split_iff, split]
    cases segments template.toList <;> simp [Except.mapError]

/-- A name with blanks around it, an opening brace in the braces of another name, and segments
without a blank between them. -/
theorem split_iff_isTemplate_padded :
    split "precio de \x7b nombre\t\x7d" =
        .ok [.literal "precio de ".toList, .slot "nombre"] ∧
      tightened "precio de \x7b nombre\t\x7d".toList = "precio de \x7bnombre\x7d".toList ∧
      ¬ IsTemplate "\x7ba\x7bb\x7d".toList ∧
      split "\x7ba\x7d\x7bb\x7d." = .ok [.slot "a", .slot "b", .literal ['.']] := by
  have hpadded : split "precio de \x7b nombre\t\x7d" =
      .ok [.literal "precio de ".toList, .slot "nombre"] := by decide
  have hnested : split "\x7ba\x7bb\x7d" = .error ⟨"\x7ba\x7bb\x7d", .nestedOpen 0⟩ := by
    decide
  refine ⟨hpadded, ?_, ?_, ?_⟩
  · exact (((split_iff_isTemplate _).2.1 _ hpadded).2).symm
  · exact (split_iff_isTemplate _).2.2.2.mp ⟨_, hnested⟩
  · refine (split_iff_isTemplate "").2.2.1 [.slot "a", .slot "b", .literal ['.']] ?_
    exact {
      literal := by simp [IsPlain, openBrace, closeBrace]
      apart := fun text other => by simp [List.infix_cons_iff]
      slot := fun name hname => by
        have hnames : name = "a" ∨ name = "b" := by simpa using hname
        rcases hnames with rfl | rfl <;> decide }

end Template

end Phrasebook
