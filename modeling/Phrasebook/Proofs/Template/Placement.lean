import Mathlib
import Phrasebook.Proofs.Template.Spacing

/-!
# The literal words of a text have one place

A cut along a well-spaced template uses as many words for the literals as the template has.  In a
text with no other words of that kind every cut uses the same ones, and then the slots' shares are
the same up to outer blanks.
-/

namespace Phrasebook.Template

open Text (AllBlank Apart isBlank trim trimStart words)

variable {segments : List Segment} {shares shares' : List (List Char)}
  {choices choices' : List Choice}

theorem apart_nil (text : List Char) : Apart text [] := by
  intro c _ d hd
  simp at hd

/-- No word runs from one share into the next. -/
theorem Cut.apart {segment : Segment} {share : List Char}
    (hchain : (segment :: segments).IsChain Spaced)
    (hcut : Cut (segment :: segments) (share :: shares) choices) :
    Apart share shares.flatten := by
  cases segments with
  | nil =>
      have hnil : shares = [] := by
        cases hcut with
        | literal _ hrest => cases hrest; rfl
        | slot _ hrest => cases hrest; rfl
      rw [hnil]
      exact apart_nil share
  | cons next segments =>
      have hmeet : Spaced segment next := (List.isChain_cons_cons.mp hchain).1
      cases hcut with
      | literal hspells hrest =>
          cases next with
          | literal other => exact hmeet.elim
          | slot name => exact hspells.apart hmeet _
      | slot hshare hrest =>
          cases next with
          | slot other => exact hmeet.elim
          | literal text =>
              cases hrest with
              | literal hspells _ => exact hspells.apart_append hmeet share _

theorem Cut.words_flatten (hchain : segments.IsChain Spaced)
    (hcut : Cut segments shares choices) : words shares.flatten = shares.flatMap words := by
  induction hcut with
  | nil => rfl
  | literal hspells hrest ih =>
      have hapart := (Cut.literal hspells hrest).apart hchain
      rw [List.flatten_cons, Text.words_append hapart, ih hchain.tail, List.flatMap_cons]
  | slot hshare hrest ih =>
      have hapart := (Cut.slot hshare hrest).apart hchain
      rw [List.flatten_cons, Text.words_append hapart, ih hchain.tail, List.flatMap_cons]

/-! ## Words that a literal word matches

`p` holds of every word that spells a literal word of the segments. -/

section Placement

variable {p : List Char → Bool}

/-- What `p` has to hold of. -/
def Covers (p : List Char → Bool) (segments : List Segment) : Prop :=
  ∀ word ∈ literalWords segments, ∀ token, SameWord word token → p token = true

theorem Covers.tail {segment : Segment} (hp : Covers p (segment :: segments)) :
    Covers p segments := fun word hword =>
  hp word (List.mem_append_right _ hword)

/-- All words of a literal's share are spelled by words of the literal. -/
theorem Covers.forall_words {text share : List Char} {chosen : List Choice}
    (hp : Covers p (.literal text :: segments)) (hspells : Spells text share chosen) :
    ∀ token ∈ words share, p token = true := by
  have hspelled : ∀ word ∈ words text, ∀ token, SameWord word token → p token = true :=
    fun word hword => hp word (List.mem_append_left _ hword)
  have hsame := hspells.sameWords
  generalize words text = literal at hspelled hsame
  generalize words share = tokens at hsame
  induction hsame with
  | nil => simp
  | cons hfirst _ ih =>
      rw [List.forall_mem_cons] at hspelled ⊢
      exact ⟨hspelled.1 _ hfirst, ih hspelled.2⟩

/-- Besides one word for each literal word, only words that a slot takes can satisfy `p`. -/
theorem Cut.countP_words (hp : Covers p segments) (hcut : Cut segments shares choices) :
    (shares.flatMap words).countP p =
      (literalWords segments).length +
        ((slotShares segments shares).flatMap words).countP p := by
  induction hcut with
  | nil => rfl
  | @literal text share segments shares _ _ hspells _ ih =>
      have hall : (words share).countP p = (words text).length := by
        rw [List.countP_eq_length.mpr (hp.forall_words hspells), hspells.sameWords.length_eq]
      have hlength : (literalWords (.literal text :: segments)).length =
          (words text).length + (literalWords segments).length := List.length_append
      rw [List.flatMap_cons, List.countP_append, hall, ih hp.tail, hlength, slotShares]
      omega
  | @slot name share segments shares _ _ _ ih =>
      have hsame : literalWords (.slot name :: segments) = literalWords segments := rfl
      rw [List.flatMap_cons, List.countP_append, ih hp.tail, slotShares, List.flatMap_cons,
        List.countP_append, hsame]
      omega

/-- Behind a slot the words go on with a word of a literal, if at all. -/
theorem Cut.head?_words {name : String} (hchain : (.slot name :: segments).IsChain Spaced)
    (hworded : ∀ text, .literal text ∈ segments → words text ≠ []) (hp : Covers p segments)
    (hcut : Cut segments shares choices) :
    ∀ token ∈ (words shares.flatten).head?, p token = true := by
  rw [hcut.words_flatten hchain.tail]
  cases hcut with
  | nil => simp
  | slot _ _ => exact (List.isChain_cons_cons.mp hchain).1.elim
  | @literal text share _ _ _ _ hspells _ =>
      have hne : words share ≠ [] := by
        intro hnil
        have hlength := hspells.sameWords.length_eq
        rw [hnil, List.length_nil, List.length_eq_zero_iff] at hlength
        exact hworded text List.mem_cons_self hlength
      intro token htoken
      rw [List.flatMap_cons, List.head?_append_of_ne_nil _ hne] at htoken
      exact hp.forall_words hspells token (List.mem_of_mem_head? htoken)

theorem takeWhile_append_eq_left {α : Type} {q : α → Bool} {front back : List α}
    (hfront : ∀ a ∈ front, q a = true) (hback : ∀ a ∈ back.head?, q a = false) :
    (front ++ back).takeWhile q = front := by
  rw [List.takeWhile_append_of_pos hfront]
  cases back with
  | nil => simp
  | cons a back => simp [hback a rfl]

/-- A slot takes the words up to the next literal word, so two cuts give it the same number. -/
theorem words_slot_eq {name : String} {share share' : List Char}
    (hchain : (.slot name :: segments).IsChain Spaced)
    (hworded : ∀ text, .literal text ∈ segments → words text ≠ []) (hp : Covers p segments)
    (hcut : Cut (.slot name :: segments) (share :: shares) choices)
    (hcut' : Cut (.slot name :: segments) (share' :: shares') choices')
    (hshare : ∀ token ∈ words share, p token = false)
    (hshare' : ∀ token ∈ words share', p token = false)
    (hwords : words (share ++ shares.flatten) = words (share' ++ shares'.flatten)) :
    words share = words share' := by
  have hfront : ∀ {share : List Char} {shares : List (List Char)} {choices : List Choice},
      Cut (.slot name :: segments) (share :: shares) choices →
      (∀ token ∈ words share, p token = false) →
      (words (share ++ shares.flatten)).takeWhile (fun token => !p token) = words share := by
    intro share shares choices hcut hshare
    rw [Text.words_append (hcut.apart hchain)]
    refine takeWhile_append_eq_left (fun token htoken => by simp [hshare token htoken]) ?_
    cases hcut with
    | slot _ hrest =>
        intro token htoken
        simp [hrest.head?_words hchain hworded hp token htoken]
  rw [← hfront hcut hshare, hwords, hfront hcut' hshare']

/-- Two cuts of one text whose slots take no word of a literal give the slots the same shares, outer
blanks apart. -/
theorem Cut.trim_slotShares_eq (hchain : segments.IsChain Spaced)
    (hworded : ∀ text, .literal text ∈ segments → words text ≠ []) (hp : Covers p segments)
    (hcut : Cut segments shares choices) (hcut' : Cut segments shares' choices')
    (hslots : ∀ share ∈ slotShares segments shares, ∀ token ∈ words share, p token = false)
    (hslots' : ∀ share ∈ slotShares segments shares', ∀ token ∈ words share, p token = false)
    (htext : trimStart shares.flatten = trimStart shares'.flatten) :
    (slotShares segments shares).map trim = (slotShares segments shares').map trim := by
  induction hcut generalizing shares' choices' with
  | nil =>
      cases hcut'
      rfl
  | @literal text share segments shares _ _ hspells hrest ih =>
      cases hcut' with
      | @literal _ share' _ shares' _ _ hspells' hrest' =>
          have hlength : (words share).length = (words share').length :=
            hspells.sameWords.length_eq.symm.trans hspells'.sameWords.length_eq
          obtain ⟨_, hbehind⟩ := Text.trim_eq_of_trimStart_append_eq htext
            ((Cut.literal hspells hrest).apart hchain) ((Cut.literal hspells' hrest').apart hchain)
            hlength
          exact ih hchain.tail (fun other hother => hworded other (List.mem_cons_of_mem _ hother))
            hp.tail hrest' hslots hslots' hbehind
  | @slot name share segments shares _ hshare hrest ih =>
      cases hcut' with
      | @slot _ share' _ shares' _ hshare' hrest' =>
          rw [slotShares, List.forall_mem_cons] at hslots hslots'
          have hworded' : ∀ text, .literal text ∈ segments → words text ≠ [] :=
            fun other hother => hworded other (List.mem_cons_of_mem _ hother)
          have hwords := congrArg words htext
          rw [Text.words_trimStart, Text.words_trimStart] at hwords
          have hsame := words_slot_eq hchain hworded' hp.tail (.slot hshare hrest)
            (.slot hshare' hrest') hslots.1 hslots'.1 hwords
          obtain ⟨htrim, hbehind⟩ := Text.trim_eq_of_trimStart_append_eq htext
            ((Cut.slot hshare hrest).apart hchain) ((Cut.slot hshare' hrest').apart hchain)
            (congrArg List.length hsame)
          rw [slotShares, slotShares, List.map_cons, List.map_cons, htrim,
            ih hchain.tail hworded' hp.tail hrest' hslots.2 hslots'.2 hbehind]

end Placement

/-- The words of a text that spell a literal word are as many as the literal words, if no slot took
one; so no slot takes one in any other cut, and all cuts give the slots the same shares. -/
theorem Cut.trim_slotShares_unique {template : List Char} (hwritten : Written segments template)
    (htemplate : trim template = template) (hspaced : WellSpaced segments)
    (hcut : Cut segments shares choices) (hcut' : Cut segments shares' choices')
    (hslots : ∀ share ∈ slotShares segments shares, ∀ token ∈ words share,
      ∀ word ∈ literalWords segments, ¬ SameWord word token)
    (htext : shares.flatten = shares'.flatten) :
    (slotShares segments shares).map trim = (slotShares segments shares').map trim := by
  let p : List Char → Bool := fun token =>
    (literalWords segments).any fun word => decide (SameWord word token)
  have hp : Covers p segments := by
    intro word hword token hsame
    exact List.any_eq_true.mpr ⟨word, hword, by simpa using hsame⟩
  have hchain := hspaced.isChain hwritten
  have hfree : ∀ share ∈ slotShares segments shares, ∀ token ∈ words share, p token = false := by
    intro share hshare token htoken
    refine List.any_eq_false.mpr fun word hword => ?_
    simpa using hslots share hshare token htoken word hword
  have hnone : ((slotShares segments shares).flatMap words).countP p = 0 := by
    rw [List.countP_eq_zero]
    intro token htoken
    obtain ⟨share, hshare, htoken⟩ := List.mem_flatMap.mp htoken
    simp [hfree share hshare token htoken]
  have hnone' : ((slotShares segments shares').flatMap words).countP p = 0 := by
    have hcount := hcut.countP_words hp
    rw [← hcut.words_flatten hchain, htext, hcut'.words_flatten hchain, hcut'.countP_words hp,
      hnone] at hcount
    omega
  refine hcut.trim_slotShares_eq hchain
    (fun text hmem => hspaced.words_ne_nil hwritten htemplate hmem) hp hcut' hfree ?_
    (congrArg trimStart htext)
  intro share hshare token htoken
  have hnot := List.countP_eq_zero.mp hnone' token (List.mem_flatMap.mpr ⟨share, hshare, htoken⟩)
  simpa using hnot

end Phrasebook.Template
