import Mathlib
import Phrasebook.Ranking
import Phrasebook.Proofs.Template.Literals
import Phrasebook.Proofs.Template.Placement

/-!
# Patterns that accept a text coincide with it

The search for literals takes the leftmost occurrence each time, and misses no way of placing them
one after another.  A cut along a template is such a way in Latin text, whatever blanks and letter
cases it has; and where the literals have blanks around them, their words are words of the text.
-/

namespace Phrasebook

theorem exists_mem_of_forall₂ {α β : Type} {R : α → β → Prop} {left : List α} {right : List β}
    (hrelated : List.Forall₂ R left right) {a : α} (ha : a ∈ left) : ∃ b ∈ right, R a b := by
  induction hrelated with
  | nil => cases ha
  | cons hfirst _ ih =>
      rcases List.mem_cons.mp ha with rfl | ha
      · exact ⟨_, List.mem_cons_self, hfirst⟩
      · obtain ⟨b, hb, hrelates⟩ := ih ha
        exact ⟨b, List.mem_cons_of_mem _ hb, hrelates⟩

namespace Ranking

/-- The parts occur in a text one after another, each behind the end of the one before it. -/
inductive Placed : List (List Char) → List Char → Prop
  | nil (text : List Char) : Placed [] text
  | cons {part rest : List Char} {parts : List (List Char)} (before : List Char) :
      Placed parts rest → Placed (part :: parts) (before ++ part ++ rest)

theorem Placed.prepend {parts : List (List Char)} {text : List Char} (hplaced : Placed parts text)
    (front : List Char) : Placed parts (front ++ text) := by
  cases hplaced with
  | nil => exact .nil _
  | cons before hrest =>
      rw [← List.append_assoc, ← List.append_assoc]
      exact .cons (front ++ before) hrest

theorem Placed.append {parts : List (List Char)} {text : List Char} (hplaced : Placed parts text)
    (back : List Char) : Placed parts (text ++ back) := by
  induction hplaced with
  | nil => exact .nil _
  | cons before _ ih =>
      rw [List.append_assoc]
      exact .cons before ih

theorem exists_of_afterFirst? {part text rest : List Char}
    (hafter : afterFirst? part text = some rest) : ∃ before, text = before ++ part ++ rest := by
  induction text with
  | nil =>
      rw [afterFirst?] at hafter
      split at hafter
      · rename_i hempty
        cases hafter
        exact ⟨[], by rw [List.isEmpty_iff.mp hempty]; rfl⟩
      · cases hafter
  | cons c text ih =>
      rw [afterFirst?] at hafter
      split at hafter
      · rename_i hpart
        cases hafter
        exact ⟨[], (List.prefix_iff_eq_append.mp (List.isPrefixOf_iff_prefix.mp hpart)).symm⟩
      · obtain ⟨before, rfl⟩ := ih hafter
        exact ⟨c :: before, rfl⟩

/-- The leftmost occurrence ends no later than any other. -/
theorem afterFirst?_of_append (before part rest : List Char) :
    ∃ more, afterFirst? part (before ++ part ++ rest) = some (more ++ rest) := by
  induction before with
  | nil =>
      refine ⟨[], ?_⟩
      have hpart : part.isPrefixOf (part ++ rest) = true :=
        List.isPrefixOf_iff_prefix.mpr (List.prefix_append part rest)
      rw [List.nil_append, List.nil_append]
      cases htext : part ++ rest with
      | nil =>
          obtain ⟨rfl, rfl⟩ := List.append_eq_nil_iff.mp htext
          rfl
      | cons c text =>
          rw [htext] at hpart
          rw [afterFirst?, if_pos hpart, ← htext, List.drop_left]
  | cons c before ih =>
      obtain ⟨more, hmore⟩ := ih
      rw [List.cons_append, List.cons_append, afterFirst?]
      split
      · rename_i hpart
        obtain ⟨tail, htail⟩ := List.isPrefixOf_iff_prefix.mp hpart
        have hdrop : (c :: (before ++ part ++ rest)).drop part.length =
            (c :: (before ++ part)).drop part.length ++ rest := by
          rw [← List.cons_append, List.drop_append_of_le_length]
          simp
          omega
        exact ⟨_, congrArg some hdrop⟩
      · exact ⟨more, hmore⟩

/-- The search for the leftmost places finds places if there are any. -/
theorem occurInOrder_iff_placed {parts : List (List Char)} {text : List Char} :
    occurInOrder parts text = true ↔ Placed parts text := by
  constructor
  · intro hoccur
    induction parts generalizing text with
    | nil => exact .nil text
    | cons part parts ih =>
        rw [occurInOrder] at hoccur
        split at hoccur
        · rename_i rest hafter
          obtain ⟨before, rfl⟩ := exists_of_afterFirst? hafter
          exact .cons before (ih hoccur)
        · exact absurd hoccur nofun
  · intro hplaced
    induction parts generalizing text with
    | nil => rfl
    | cons part parts ih =>
        cases hplaced with
        | @cons _ rest _ before hrest =>
            obtain ⟨more, hmore⟩ := afterFirst?_of_append before part rest
            rw [occurInOrder, hmore]
            exact ih (hrest.prepend more)

/-- Places in a part of a text are places in the text, though the search may find others. -/
theorem occursIn_of_infix {folded wide : List Char} {pattern : Pattern} (hwithin : folded <:+: wide)
    (hoccurs : occursIn folded pattern = true) : occursIn wide pattern = true := by
  rw [occursIn, Bool.and_eq_true, occurInOrder_iff_placed] at hoccurs ⊢
  obtain ⟨before, after, rfl⟩ := hwithin
  exact ⟨hoccurs.1, (hoccurs.2.prepend before).append after⟩

end Ranking

namespace Template

open Text (AllBlank Apart IsLatin fold isBlank lowerChar tokens words)

variable {segments : List Segment} {shares : List (List Char)} {choices : List Choice}

/-! ## Shares and literals in folded form -/

theorem SameWord.map_lowerChar {word token : List Char} (hsame : SameWord word token)
    (hword : ∀ c ∈ word, IsLatin c) (htoken : ∀ c ∈ token, IsLatin c) :
    word.map lowerChar = token.map lowerChar := by
  induction hsame with
  | nil => rfl
  | cons hfirst _ ih =>
      rw [List.forall_mem_cons] at hword htoken
      rw [List.map_cons, List.map_cons, ih hword.2 htoken.2,
        Text.lowerChar_eq_of_sameUpToCase hword.1 htoken.1 hfirst]

theorem Spells.tokens_eq {literal share : List Char} (hspells : Spells literal share choices)
    (hliteral : ∀ c ∈ literal, IsLatin c) (hshare : ∀ c ∈ share, IsLatin c) :
    tokens literal = tokens share := by
  have hwords : ∀ {text : List Char}, (∀ c ∈ text, IsLatin c) →
      ∀ word ∈ words text, ∀ c ∈ word, IsLatin c := fun htext word hword c hc =>
    htext c ((Text.mem_words hword).2 c hc).2
  have hspelled := hwords hliteral
  have htaken := hwords hshare
  have hsame := hspells.sameWords
  rw [Text.tokens_eq_map hliteral, Text.tokens_eq_map hshare]
  generalize words literal = left at hspelled hsame
  generalize words share = right at htaken hsame
  induction hsame with
  | nil => rfl
  | cons hfirst _ ih =>
      rw [List.forall_mem_cons] at hspelled htaken
      rw [List.map_cons, List.map_cons, ih hspelled.2 htaken.2,
        hfirst.map_lowerChar hspelled.1 htaken.1]

theorem Spells.fold_eq {literal share : List Char} (hspells : Spells literal share choices)
    (hliteral : ∀ c ∈ literal, IsLatin c) (hshare : ∀ c ∈ share, IsLatin c) :
    fold literal = fold share := by
  rw [← Text.unwords_tokens, ← Text.unwords_tokens, hspells.tokens_eq hliteral hshare]

/-- The literals in Latin letters. -/
def LatinLiterals (segments : List Segment) : Prop :=
  ∀ text, .literal text ∈ segments → ∀ c ∈ text, IsLatin c

/-- A cut of a Latin text places the folded literals one after another. -/
theorem Cut.placed (hcut : Cut segments shares choices) (hsegments : LatinLiterals segments)
    (hshares : ∀ c ∈ shares.flatten, IsLatin c) :
    Ranking.Placed (foldedLiterals segments) (fold shares.flatten) := by
  induction hcut with
  | nil => exact .nil _
  | @literal text share segments shares _ _ hspells hrest ih =>
      rw [List.flatten_cons, List.forall_mem_append] at hshares
      have hlater := ih (fun other hother => hsegments other (List.mem_cons_of_mem _ hother))
        hshares.2
      obtain ⟨gap, hgap⟩ := Text.exists_fold_append hshares.1 hshares.2
      have hfold := hspells.fold_eq (hsegments text List.mem_cons_self) hshares.1
      rw [List.flatten_cons, hgap, foldedLiterals_cons, Segment.foldedLiteral?, ← hfold]
      cases fold text with
      | nil =>
          rw [List.nil_append]
          exact hlater.prepend gap
      | cons c folded =>
          rw [List.append_assoc]
          exact .cons [] (hlater.prepend gap)
  | @slot name share segments shares _ _ _ ih =>
      rw [List.flatten_cons, List.forall_mem_append] at hshares
      have hlater := ih (fun other hother => hsegments other (List.mem_cons_of_mem _ hother))
        hshares.2
      obtain ⟨gap, hgap⟩ := Text.exists_fold_append hshares.1 hshares.2
      rw [List.flatten_cons, hgap]
      exact hlater.prepend _

/-! ## Words of literals among the words of a text -/

/-- A literal has a blank wherever it meets a slot. -/
structure BlankAtSlots (segments : List Segment) : Prop where
  before : ∀ text name, [.literal text, .slot name] <:+: segments →
    ∃ c ∈ text.getLast?, isBlank c = true
  after : ∀ name text, [.slot name, .literal text] <:+: segments →
    ∃ c ∈ text.head?, isBlank c = true

/-- How neighbouring segments meet where literals have blanks at slots. -/
def Meets : Segment → Segment → Prop
  | .literal text, .slot _ => ∃ c ∈ text.getLast?, isBlank c = true
  | .slot _, .literal text => ∃ c ∈ text.head?, isBlank c = true
  | .slot _, .slot _ => True
  | .literal _, .literal _ => False

theorem BlankAtSlots.isChain {template : List Char} (hblank : BlankAtSlots segments)
    (hwritten : Written segments template) : segments.IsChain Meets := by
  refine isChain_of_adjacent fun first second hadjacent => ?_
  match first, second with
  | .literal text, .literal other => exact hwritten.not_adjacent_literals text other hadjacent
  | .literal text, .slot name => exact hblank.before text name hadjacent
  | .slot name, .literal text => exact hblank.after name text hadjacent
  | .slot name, .slot other => trivial

/-- No word runs from a literal's share into what follows. -/
theorem Cut.apart_literal {text share : List Char}
    (hchain : (.literal text :: segments).IsChain Meets)
    (hspells : Spells text share choices) {others : List Choice}
    (hrest : Cut segments shares others) : Apart share shares.flatten := by
  cases hrest with
  | nil => exact apart_nil share
  | literal _ _ => exact (List.isChain_cons_cons.mp hchain).1.elim
  | slot _ _ => exact hspells.apart (List.isChain_cons_cons.mp hchain).1 _

/-- Each word of the literals is spelled by a word of the text, whatever stands before the cut. -/
theorem Cut.exists_sameWord (hchain : segments.IsChain Meets) (hcut : Cut segments shares choices)
    (before : List Char)
    (hbefore : ∀ text, segments.head? = some (.literal text) → Apart before shares.flatten) :
    ∀ word ∈ literalWords segments,
      ∃ token ∈ words (before ++ shares.flatten), SameWord word token := by
  induction hcut generalizing before with
  | nil => simp [literalWords]
  | @literal text share segments shares _ _ hspells hrest ih =>
      intro word hword
      rw [literalWords, List.flatMap_cons, Segment.words, List.mem_append] at hword
      rcases hword with hword | hword
      · have hapart := Cut.apart_literal hchain hspells hrest
        rw [Text.words_append (hbefore text rfl), List.flatten_cons, Text.words_append hapart]
        obtain ⟨token, htoken, hsame⟩ := exists_mem_of_forall₂ hspells.sameWords hword
        exact ⟨token, List.mem_append_right _ (List.mem_append_left _ htoken), hsame⟩
      · rw [List.flatten_cons, ← List.append_assoc]
        refine ih hchain.tail (before ++ share) (fun other hother => ?_) word hword
        obtain ⟨later, rfl⟩ := List.head?_eq_some_iff.mp hother
        exact (List.isChain_cons_cons.mp hchain).1.elim
  | @slot name share segments shares _ _ hrest ih =>
      rw [List.flatten_cons, ← List.append_assoc]
      refine ih hchain.tail (before ++ share) fun text htext => ?_
      cases hrest with
      | nil => exact apart_nil _
      | literal hspells _ =>
          exact hspells.apart_append (List.isChain_cons_cons.mp hchain).1 _ _
      | slot _ _ => cases htext

end Template

/-! ## Accepting patterns -/

namespace Pattern

open Text (IsLatin)

variable {template text : String} {pattern : Pattern} {segments : List Template.Segment}

theorem latinLiterals_of_segments
    (hsegments : Template.segments (Text.trim template.toList) = .ok segments)
    (htemplate : ∀ c ∈ template.toList, IsLatin c) : Template.LatinLiterals segments := by
  intro literal hliteral c hc
  obtain ⟨before, after, -, -, heq⟩ := Text.exists_eq_append_trim template.toList
  have htrimmed := (Template.written_of_segments hsegments).literal_subset literal hliteral hc
  refine htemplate c ?_
  rw [heq]
  exact List.mem_append_left _ (List.mem_append_right _ htrimmed)

theorem exists_cut_of_accepts
    (haccepts : (ofSegments template segments).accepts text = true) :
    ∃ shares choices, Template.Cut segments shares choices ∧
      shares.flatten = Text.trim text.toList := by
  rw [accepts, captures?, Option.isSome_map] at haccepts
  exact search_segments_isSome_iff.mp haccepts

theorem isLatin_of_mem_trim (htext : ∀ c ∈ text.toList, IsLatin c) :
    ∀ c ∈ Text.trim text.toList, IsLatin c := by
  obtain ⟨before, after, -, -, heq⟩ := Text.exists_eq_append_trim text.toList
  intro c hc
  refine htext c ?_
  rw [heq]
  exact List.mem_append_left _ (List.mem_append_right _ hc)

/-- In Latin letters a pattern with a literal coincides with every text that it accepts. -/
theorem coincides_of_accepts
    (hsegments : Template.segments (Text.trim template.toList) = .ok segments)
    (htemplate : ∀ c ∈ template.toList, IsLatin c) (htext : ∀ c ∈ text.toList, IsLatin c)
    (hliterals : (ofSegments template segments).literals ≠ [])
    (haccepts : (ofSegments template segments).accepts text = true) :
    Ranking.coincides text (ofSegments template segments) = true := by
  obtain ⟨shares, choices, hcut, hshares⟩ := exists_cut_of_accepts haccepts
  have hplaced := hcut.placed (latinLiterals_of_segments hsegments htemplate)
    (hshares ▸ isLatin_of_mem_trim htext)
  rw [hshares, Text.fold_trim] at hplaced
  rw [Ranking.coincides, Ranking.occursIn, Bool.and_eq_true, Bool.not_eq_true',
    List.isEmpty_eq_false_iff]
  exact ⟨hliterals, Ranking.occurInOrder_iff_placed.mpr hplaced⟩

/-- A blank text has no place for a literal, so no pattern coincides with it. -/
theorem isBlankText_eq_false_of_coincides
    (hcoincides : Ranking.coincides text (ofSegments template segments) = true) :
    isBlankText text = false := by
  rw [← Bool.not_eq_true, isBlankText_iff]
  intro hblank
  rw [Ranking.coincides, Text.fold_eq_nil_iff.mpr hblank, Ranking.occursIn, ofSegments,
    Bool.and_eq_true, Ranking.occurInOrder_iff_placed, Bool.not_eq_true',
    List.isEmpty_eq_false_iff] at hcoincides
  obtain ⟨hne, hplaced⟩ := hcoincides
  obtain ⟨part, parts, hparts⟩ := List.exists_cons_of_ne_nil hne
  have hpart : part ≠ [] :=
    Template.ne_nil_of_mem_foldedLiterals (hparts ▸ List.mem_cons_self)
  rw [hparts] at hplaced
  generalize hnil : ([] : List Char) = whole at hplaced
  cases hplaced with
  | cons before hrest => simp [hpart] at hnil

/-- The words of a pattern whose literals have blanks at slots are tokens of every Latin text that
it accepts. -/
theorem mem_tokens_of_accepts
    (hsegments : Template.segments (Text.trim template.toList) = .ok segments)
    (htemplate : ∀ c ∈ template.toList, IsLatin c) (htext : ∀ c ∈ text.toList, IsLatin c)
    (hblank : Template.BlankAtSlots segments)
    (haccepts : (ofSegments template segments).accepts text = true) :
    ∀ word ∈ (ofSegments template segments).literalWords, word ∈ Text.tokens text.toList := by
  obtain ⟨shares, choices, hcut, hshares⟩ := exists_cut_of_accepts haccepts
  have hwritten := Template.written_of_segments hsegments
  have hliterals := latinLiterals_of_segments hsegments htemplate
  intro folded hfolded
  obtain ⟨word, hword, rfl⟩ : ∃ word ∈ Template.literalWords segments,
      Text.lower word = folded := by
    rw [literalWords, ofSegments, Template.flatMap_foldedLiterals] at hfolded
    exact List.mem_map.mp hfolded
  obtain ⟨token, htoken, hsame⟩ := hcut.exists_sameWord (hblank.isChain hwritten) []
    (fun _ _ c hc => by cases hc) word hword
  rw [List.nil_append, hshares, Text.words_trim] at htoken
  have hchars : ∀ c ∈ token, IsLatin c := fun c hc =>
    htext c ((Text.mem_words htoken).2 c hc).2
  have hletters : ∀ c ∈ word, IsLatin c := by
    obtain ⟨segment, hsegment, hmem⟩ := List.mem_flatMap.mp hword
    cases segment with
    | slot name => cases hmem
    | literal literal =>
        exact fun c hc => hliterals literal hsegment c ((Text.mem_words hmem).2 c hc).2
  rw [Text.lower_eq_map hletters, hsame.map_lowerChar hletters hchars, Text.tokens_eq_map htext]
  exact List.mem_map.mpr ⟨token, htoken, rfl⟩

end Pattern

end Phrasebook
