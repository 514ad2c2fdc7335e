import Mathlib
import Phrasebook.Text.Blank

/-!
# Blanks, words and trimming

Words do not run across a place where a blank stands on either side, so the words of two texts in a
row are those of the first and then those of the second.  From this one law it follows how a text
can be divided: two divisions with as many words in front differ by blanks only.
-/

namespace Phrasebook.Text

/-- Nothing but blanks. -/
def AllBlank (text : List Char) : Prop := ∀ c ∈ text, isBlank c = true

/-- No word runs from the end of the first text into the second. -/
def Apart (text rest : List Char) : Prop :=
  ∀ c ∈ text.getLast?, ∀ d ∈ rest.head?, isBlank c = true ∨ isBlank d = true

/-! ## Trimming -/

theorem trimEnd_eq_rdropWhile (text : List Char) : trimEnd text = text.rdropWhile isBlank := rfl

theorem trimStart_append_of_allBlank {before : List Char} (hblank : AllBlank before)
    (text : List Char) : trimStart (before ++ text) = trimStart text :=
  List.dropWhile_append_of_pos hblank

theorem trimEnd_append_of_allBlank (text : List Char) {after : List Char}
    (hblank : AllBlank after) : trimEnd (text ++ after) = trimEnd text := by
  have hreverse : ∀ c ∈ after.reverse, isBlank c = true := fun c hc =>
    hblank c (List.mem_reverse.mp hc)
  rw [trimEnd, List.reverse_append, List.dropWhile_append_of_pos hreverse, trimEnd]

theorem head?_trimStart (text : List Char) :
    ∀ c ∈ (trimStart text).head?, isBlank c = false := by
  intro c hc
  have hnot := List.head?_dropWhile_not isBlank text
  rw [trimStart] at hc
  rw [Option.mem_def.mp hc] at hnot
  exact hnot

theorem trimStart_eq_self_iff {text : List Char} :
    trimStart text = text ↔ ∀ c ∈ text.head?, isBlank c = false := by
  constructor
  · intro heq
    rw [← heq]
    exact head?_trimStart text
  · intro hhead
    cases text with
    | nil => rfl
    | cons c rest => simp [trimStart, hhead c rfl]

theorem trimEnd_eq_self_iff {text : List Char} :
    trimEnd text = text ↔ ∀ c ∈ text.getLast?, isBlank c = false := by
  rw [trimEnd_eq_rdropWhile, List.rdropWhile_eq_self_iff]
  constructor
  · intro hlast c hc
    obtain ⟨hne, rfl⟩ := List.mem_getLast?_eq_getLast hc
    simpa using hlast hne
  · intro hlast hne
    simp [hlast _ (List.getLast?_eq_some_getLast hne)]

theorem trimStart_eq_nil_iff {text : List Char} : trimStart text = [] ↔ AllBlank text := by
  simp [trimStart, List.dropWhile_eq_nil_iff, AllBlank]

/-- Trimming takes blanks from both ends and nothing else. -/
theorem exists_eq_append_trim (text : List Char) :
    ∃ before after, AllBlank before ∧ AllBlank after ∧ text = before ++ trim text ++ after := by
  refine ⟨text.takeWhile isBlank, (trimStart text).rtakeWhile isBlank,
    fun c hc => List.mem_takeWhile_imp hc, fun c hc => List.mem_rtakeWhile_imp hc, ?_⟩
  rw [List.append_assoc, trim, trimEnd_eq_rdropWhile, List.rdropWhile_append_rtakeWhile, trimStart,
    List.takeWhile_append_dropWhile]

theorem trim_eq_nil_iff {text : List Char} : trim text = [] ↔ AllBlank text := by
  constructor
  · intro hnil
    obtain ⟨before, after, hbefore, hafter, htext⟩ := exists_eq_append_trim text
    rw [hnil, List.append_nil] at htext
    rw [htext]
    exact List.forall_mem_append.mpr ⟨hbefore, hafter⟩
  · intro hblank
    rw [trim, trimStart_eq_nil_iff.mpr hblank]
    rfl

theorem getLast?_trim (text : List Char) : ∀ c ∈ (trim text).getLast?, isBlank c = false :=
  trimEnd_eq_self_iff.mp (List.rdropWhile_idempotent isBlank (trimStart text))

theorem head?_trim (text : List Char) : ∀ c ∈ (trim text).head?, isBlank c = false := by
  intro c hc
  obtain ⟨tail, htail⟩ := List.rdropWhile_prefix isBlank (l := trimStart text)
  refine head?_trimStart text c ?_
  rw [← htail]
  exact List.mem_head?_append_of_mem_head? hc

theorem trim_eq_self_iff {text : List Char} :
    trim text = text ↔
      (∀ c ∈ text.head?, isBlank c = false) ∧ ∀ c ∈ text.getLast?, isBlank c = false := by
  constructor
  · intro heq
    rw [← heq]
    exact ⟨head?_trim text, getLast?_trim text⟩
  · rintro ⟨hhead, hlast⟩
    rw [trim, trimStart_eq_self_iff.mpr hhead, trimEnd_eq_self_iff.mpr hlast]

theorem trim_infix (text : List Char) : trim text <:+: text := by
  obtain ⟨before, after, -, -, htext⟩ := exists_eq_append_trim text
  exact ⟨before, after, htext.symm⟩

theorem trim_prefix {text : List Char} (hhead : ∀ c ∈ text.head?, isBlank c = false) :
    trim text <+: text := by
  rw [trim, trimStart_eq_self_iff.mpr hhead, trimEnd_eq_rdropWhile]
  exact List.rdropWhile_prefix isBlank text

theorem trim_trim (text : List Char) : trim (trim text) = trim text :=
  trim_eq_self_iff.mpr ⟨head?_trim text, getLast?_trim text⟩

/-- Blanks around a text without outer blanks are all that trimming takes. -/
theorem trim_append {before text after : List Char} (hbefore : AllBlank before)
    (hafter : AllBlank after) (htext : trim text = text) :
    trim (before ++ text ++ after) = text := by
  by_cases hempty : text = []
  · subst hempty
    have hall : AllBlank (before ++ [] ++ after) := by
      intro c hc
      rw [List.append_nil, List.mem_append] at hc
      exact hc.elim (hbefore c) (hafter c)
    exact trim_eq_nil_iff.mpr hall
  · obtain ⟨c, rest, rfl⟩ := List.exists_cons_of_ne_nil hempty
    have hhead : isBlank c = false := (trim_eq_self_iff.mp htext).1 c rfl
    have hstart : trimStart (c :: rest ++ after) = c :: rest ++ after := by
      simp [trimStart, hhead]
    rw [List.append_assoc, trim, trimStart_append_of_allBlank hbefore, hstart,
      trimEnd_append_of_allBlank _ hafter]
    exact trimEnd_eq_self_iff.mpr (trim_eq_self_iff.mp htext).2

theorem trim_append_of_allBlank {before after : List Char} (hbefore : AllBlank before)
    (text : List Char) (hafter : AllBlank after) : trim (before ++ text ++ after) = trim text := by
  obtain ⟨front, back, hfront, hback, htext⟩ := exists_eq_append_trim text
  have houter : before ++ text ++ after = before ++ front ++ trim text ++ (back ++ after) := by
    conv_lhs => rw [htext]
    simp only [List.append_assoc]
  rw [houter]
  exact trim_append (List.forall_mem_append.mpr ⟨hbefore, hfront⟩)
    (List.forall_mem_append.mpr ⟨hback, hafter⟩) (trim_trim text)

theorem allBlank_trim_iff {text : List Char} : AllBlank (trim text) ↔ AllBlank text := by
  rw [← trim_eq_nil_iff, trim_trim, trim_eq_nil_iff]

/-! ## Words -/

@[simp]
theorem words_nil : words [] = [] := rfl

theorem words_blank_cons {c : Char} (hc : isBlank c = true) (rest : List Char) :
    words (c :: rest) = words rest := if_pos hc

/-- A character before a blank, or at the end, is a word by itself. -/
theorem words_cons_of_blank_next {c : Char} {rest : List Char} (hc : isBlank c = false)
    (hrest : ∀ d ∈ rest.head?, isBlank d = true) : words (c :: rest) = [c] :: words rest := by
  have hnot : ¬ isBlank c = true := by simp [hc]
  cases rest with
  | nil => exact if_neg hnot
  | cons d rest => exact (if_neg hnot).trans (if_pos (hrest d rfl))

/-- A character in front of a word lengthens it. -/
theorem words_cons_of_word_next {c d : Char} {rest word : List Char} {others : List (List Char)}
    (hc : isBlank c = false) (hd : isBlank d = false)
    (hwords : words (d :: rest) = word :: others) :
    words (c :: d :: rest) = (c :: word) :: others := by
  rw [words, if_neg (by simp [hc])]
  simp only [hd, Bool.false_eq_true, if_false, hwords]

theorem exists_words_cons {c : Char} (hc : isBlank c = false) (rest : List Char) :
    ∃ word others, words (c :: rest) = word :: others := by
  induction rest generalizing c with
  | nil => exact ⟨_, _, words_cons_of_blank_next hc nofun⟩
  | cons d rest ih =>
      cases hd : isBlank d with
      | true =>
          refine ⟨_, _, words_cons_of_blank_next hc fun next hnext => ?_⟩
          cases hnext
          exact hd
      | false =>
          obtain ⟨word, others, hwords⟩ := ih hd
          exact ⟨_, _, words_cons_of_word_next hc hd hwords⟩

theorem words_eq_nil_iff {text : List Char} : words text = [] ↔ AllBlank text := by
  induction text with
  | nil => simp [AllBlank]
  | cons c rest ih =>
      cases hc : isBlank c with
      | true =>
          rw [words_blank_cons hc, ih, AllBlank, AllBlank, List.forall_mem_cons]
          exact (and_iff_right hc).symm
      | false =>
          obtain ⟨word, others, hwords⟩ := exists_words_cons hc rest
          rw [hwords]
          refine iff_of_false (List.cons_ne_nil _ _) fun hblank => ?_
          exact Bool.false_ne_true (hc.symm.trans (hblank c List.mem_cons_self))

/-- Words do not run across a blank. -/
theorem words_append {text rest : List Char} (hapart : Apart text rest) :
    words (text ++ rest) = words text ++ words rest := by
  induction text with
  | nil => rfl
  | cons c text ih =>
      by_cases hc : isBlank c = true
      · have htail : Apart text rest := by
          cases text with
          | nil => simp [Apart]
          | cons d text => exact hapart
        rw [List.cons_append, words_blank_cons hc, words_blank_cons hc, ih htail]
      · rw [Bool.not_eq_true] at hc
        cases text with
        | nil =>
            have hnext : ∀ d ∈ rest.head?, isBlank d = true := by
              intro d hd
              exact (hapart c rfl d hd).resolve_left (by simp [hc])
            rw [List.cons_append, List.nil_append, words_cons_of_blank_next hc hnext,
              words_cons_of_blank_next hc (by simp), words_nil]
            rfl
        | cons d text =>
            have htail : words (d :: text ++ rest) = words (d :: text) ++ words rest := ih hapart
            by_cases hd : isBlank d = true
            · rw [List.cons_append, words_cons_of_blank_next hc (by simp [hd]), htail,
                words_cons_of_blank_next hc (by simp [hd])]
              rfl
            · rw [Bool.not_eq_true] at hd
              obtain ⟨word, others, hwords⟩ := exists_words_cons hd text
              rw [hwords] at htail
              rw [words_cons_of_word_next hc hd hwords]
              exact words_cons_of_word_next hc hd htail

theorem words_append_of_allBlank {before : List Char} (hblank : AllBlank before)
    (text : List Char) : words (before ++ text) = words text := by
  rw [words_append fun c hc _ _ => .inl (hblank c (List.mem_of_mem_getLast? hc)),
    words_eq_nil_iff.mpr hblank, List.nil_append]

theorem words_trimStart (text : List Char) : words (trimStart text) = words text := by
  have hsplit : text.takeWhile isBlank ++ trimStart text = text :=
    List.takeWhile_append_dropWhile
  conv_rhs => rw [← hsplit]
  exact (words_append_of_allBlank (fun c hc => List.mem_takeWhile_imp hc) _).symm

theorem words_eq_singleton {text : List Char} (hne : text ≠ [])
    (hchars : ∀ c ∈ text, isBlank c = false) : words text = [text] := by
  induction text with
  | nil => exact absurd rfl hne
  | cons c text ih =>
      rw [List.forall_mem_cons] at hchars
      cases text with
      | nil => exact words_cons_of_blank_next hchars.1 nofun
      | cons d text =>
          exact words_cons_of_word_next hchars.1 (hchars.2 d List.mem_cons_self)
            (ih (List.cons_ne_nil d text) hchars.2)

/-- Words do not run across a space. -/
theorem words_append_space (text rest : List Char) :
    words (text ++ ' ' :: rest) = words text ++ words rest := by
  have hapart : Apart text (' ' :: rest) := by
    intro _ _ d hd
    cases hd
    exact .inr (by decide)
  rw [words_append hapart, words_blank_cons (by decide)]

theorem unwords_cons {text : List Char} {texts : List (List Char)} (hne : texts ≠ []) :
    unwords (text :: texts) = text ++ ' ' :: unwords texts := by
  obtain ⟨next, texts, rfl⟩ := List.exists_cons_of_ne_nil hne
  rfl

/-- Words that are written in a row are read as they were. -/
theorem words_unwords {texts : List (List Char)}
    (htexts : ∀ text ∈ texts, text ≠ [] ∧ ∀ c ∈ text, isBlank c = false) :
    words (unwords texts) = texts := by
  induction texts with
  | nil => rfl
  | cons text texts ih =>
      rw [List.forall_mem_cons] at htexts
      have hword := words_eq_singleton htexts.1.1 htexts.1.2
      rcases eq_or_ne texts [] with rfl | hne
      · exact hword
      · rw [unwords_cons hne, words_append_space, hword, ih htexts.2, List.singleton_append]

/-! ## Dividing a text between words -/

/-- If one part reaches further than another with no more words, it does so by blanks. -/
theorem allBlank_of_length_words_eq {text more rest : List Char}
    (hapart : Apart text (more ++ rest))
    (hlength : (words (text ++ more)).length = (words text).length) : AllBlank more := by
  have hmore : Apart text more := by
    intro c hc d hd
    exact hapart c hc d (List.mem_head?_append_of_mem_head? hd)
  rw [words_append hmore, List.length_append, Nat.add_eq_left, List.length_eq_zero_iff] at hlength
  exact words_eq_nil_iff.mp hlength

theorem trimEnd_eq_of_append_eq {text rest text' rest' : List Char}
    (heq : text ++ rest = text' ++ rest') (hapart : Apart text rest)
    (hapart' : Apart text' rest') (hlength : (words text).length = (words text').length) :
    trimEnd text = trimEnd text' ∧ trimStart rest = trimStart rest' := by
  rcases List.append_eq_append_iff.mp heq with ⟨more, rfl, rfl⟩ | ⟨more, rfl, rfl⟩
  · have hblank := allBlank_of_length_words_eq hapart hlength.symm
    exact ⟨(trimEnd_append_of_allBlank text hblank).symm,
      trimStart_append_of_allBlank hblank rest'⟩
  · have hblank := allBlank_of_length_words_eq hapart' hlength
    exact ⟨trimEnd_append_of_allBlank text' hblank,
      (trimStart_append_of_allBlank hblank rest).symm⟩

theorem trimStart_append_of_not_allBlank {text : List Char} (hblank : ¬ AllBlank text)
    (rest : List Char) : trimStart (text ++ rest) = trimStart text ++ rest := by
  rw [trimStart, List.dropWhile_append, if_neg]
  · rfl
  · rw [List.isEmpty_iff]
    exact fun hnil => hblank (trimStart_eq_nil_iff.mp hnil)

theorem Apart.trimStart {text rest : List Char} (hapart : Apart text rest) :
    Apart (trimStart text) rest := by
  intro c hc
  refine hapart c ?_
  obtain ⟨front, hfront⟩ := List.dropWhile_suffix isBlank (l := text)
  rw [← hfront]
  exact List.mem_getLast?_append_of_mem_getLast? hc

/-- Two divisions of a text between words, with as many words in front, differ by blanks only. -/
theorem trim_eq_of_trimStart_append_eq {text rest text' rest' : List Char}
    (heq : trimStart (text ++ rest) = trimStart (text' ++ rest')) (hapart : Apart text rest)
    (hapart' : Apart text' rest') (hlength : (words text).length = (words text').length) :
    trim text = trim text' ∧ trimStart rest = trimStart rest' := by
  by_cases hblank : AllBlank text
  · have hblank' : AllBlank text' := by
      rw [words_eq_nil_iff.mpr hblank, List.length_nil] at hlength
      exact words_eq_nil_iff.mp (List.length_eq_zero_iff.mp hlength.symm)
    rw [trimStart_append_of_allBlank hblank, trimStart_append_of_allBlank hblank'] at heq
    exact ⟨(trim_eq_nil_iff.mpr hblank).trans (trim_eq_nil_iff.mpr hblank').symm, heq⟩
  · have hblank' : ¬ AllBlank text' := by
      intro hall
      rw [words_eq_nil_iff.mpr hall, List.length_nil, List.length_eq_zero_iff] at hlength
      exact hblank (words_eq_nil_iff.mp hlength)
    rw [trimStart_append_of_not_allBlank hblank, trimStart_append_of_not_allBlank hblank'] at heq
    refine trimEnd_eq_of_append_eq heq hapart.trimStart hapart'.trimStart ?_
    rwa [words_trimStart, words_trimStart]

end Phrasebook.Text

namespace Phrasebook

open Text

theorem isBlankText_iff {text : String} : isBlankText text = true ↔ AllBlank text.toList :=
  List.all_eq_true

theorem isBlankText_eq_false_iff {text : String} :
    isBlankText text = false ↔ trim text.toList ≠ [] := by
  rw [← Bool.not_eq_true, isBlankText_iff, ← trim_eq_nil_iff]

theorem trimmed_trimmed (text : String) : trimmed (trimmed text) = trimmed text := by
  rw [trimmed, trimmed, String.toList_ofList, trim_trim]

theorem isBlankText_trimmed (text : String) : isBlankText (trimmed text) = isBlankText text := by
  rw [Bool.eq_iff_iff, isBlankText_iff, isBlankText_iff, trimmed, String.toList_ofList,
    allBlank_trim_iff]

theorem trimmed_eq_empty_iff {text : String} :
    trimmed text = "" ↔ isBlankText text = true := by
  rw [isBlankText_iff, ← trim_eq_nil_iff, trimmed, ← String.toList_inj, String.toList_ofList]
  rfl

end Phrasebook
