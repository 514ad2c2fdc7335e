import Mathlib
import Phrasebook.Text.Fold
import Phrasebook.Proofs.Text.Lowered
import Phrasebook.Proofs.Text.Words

/-!
# Folding word by word

A space decides nothing about the case of its neighbours, so a text is folded word by word and its
tokens are its words in lower case.  Collapsing a text of two parts is collapsing the parts, up to
one space between them.  In Latin text every letter has a lower case of its own, and letters that
are equal up to case have the same one.
-/

namespace Phrasebook.Text

/-! ## Words -/

theorem mem_words {text word : List Char} (hword : word ∈ words text) :
    word ≠ [] ∧ ∀ c ∈ word, isBlank c = false ∧ c ∈ text := by
  induction text generalizing word with
  | nil => simp at hword
  | cons c rest ih =>
      have hlater : ∀ {word}, word ∈ words rest →
          word ≠ [] ∧ ∀ d ∈ word, isBlank d = false ∧ d ∈ c :: rest := by
        intro word hword
        exact (ih hword).imp_right fun hchars d hd =>
          (hchars d hd).imp_right (List.mem_cons_of_mem c)
      by_cases hc : isBlank c = true
      · rw [words_blank_cons hc] at hword
        exact hlater hword
      rw [Bool.not_eq_true] at hc
      have hsingle : [c] ≠ [] ∧ ∀ d ∈ [c], isBlank d = false ∧ d ∈ c :: rest := by simp [hc]
      by_cases hnext : ∀ d ∈ rest.head?, isBlank d = true
      · rw [words_cons_of_blank_next hc hnext] at hword
        rcases List.mem_cons.mp hword with rfl | hword
        · exact hsingle
        · exact hlater hword
      · push Not at hnext
        obtain ⟨d, hd, hblank⟩ := hnext
        obtain ⟨tail, rfl⟩ := List.head?_eq_some_iff.mp (Option.mem_def.mp hd)
        rw [ne_eq, Bool.not_eq_true] at hblank
        obtain ⟨first, others, hwords⟩ := exists_words_cons hblank tail
        rw [words_cons_of_word_next hc hblank hwords] at hword
        rcases List.mem_cons.mp hword with rfl | hword
        · refine ⟨List.cons_ne_nil c first, fun e he => ?_⟩
          rcases List.mem_cons.mp he with rfl | he
          · exact hsingle.2 e (List.mem_singleton.mpr rfl)
          · exact (hlater (hwords ▸ List.mem_cons_self)).2 e he
        · exact hlater (hwords ▸ List.mem_cons_of_mem first hword)

theorem words_append_allBlank (text : List Char) {after : List Char} (hblank : AllBlank after) :
    words (text ++ after) = words text := by
  have hapart : Apart text after := fun _ _ d hd => .inr (hblank d (List.mem_of_mem_head? hd))
  rw [words_append hapart, words_eq_nil_iff.mpr hblank, List.append_nil]

theorem words_trim (text : List Char) : words (trim text) = words text := by
  obtain ⟨before, after, hbefore, hafter, htext⟩ := exists_eq_append_trim text
  conv_rhs => rw [htext, words_append_allBlank _ hafter, words_append_of_allBlank hbefore]

/-! ## Collapsing two parts -/

theorem collapse_cons_of_blank {c : Char} (hc : isBlank c = true) (rest : List Char) :
    collapse (c :: rest) = collapse rest := by
  rw [collapse, words_blank_cons hc, collapse]

theorem collapse_cons_of_word_next {c d : Char} (hc : isBlank c = false) (hd : isBlank d = false)
    (rest : List Char) : collapse (c :: d :: rest) = c :: collapse (d :: rest) := by
  obtain ⟨word, others, hwords⟩ := exists_words_cons hd rest
  rw [collapse, words_cons_of_word_next hc hd hwords, collapse, hwords]
  cases others <;> rfl

theorem collapse_eq_nil_iff {text : List Char} : collapse text = [] ↔ AllBlank text := by
  rw [← words_eq_nil_iff, collapse]
  cases hwords : words text with
  | nil => simp [unwords]
  | cons word others =>
      have hne : word ≠ [] := (mem_words (hwords ▸ List.mem_cons_self)).1
      cases others <;> simp [unwords, hne]

/-- A character before a blank is a word by itself, and a space follows it if more words do. -/
theorem collapse_cons_of_blank_next {c : Char} {rest : List Char} (hc : isBlank c = false)
    (hnext : ∀ d ∈ rest.head?, isBlank d = true) :
    (collapse rest = [] ∧ collapse (c :: rest) = [c]) ∨
      (collapse rest ≠ [] ∧ collapse (c :: rest) = c :: ' ' :: collapse rest) := by
  by_cases hempty : collapse rest = []
  · refine .inl ⟨hempty, ?_⟩
    rw [collapse, words_cons_of_blank_next hc hnext,
      words_eq_nil_iff.mpr (collapse_eq_nil_iff.mp hempty)]
    rfl
  · refine .inr ⟨hempty, ?_⟩
    rw [collapse, collapse, words_cons_of_blank_next hc hnext]
    cases hwords : words rest with
    | nil => exact absurd (collapse_eq_nil_iff.mpr (words_eq_nil_iff.mp hwords)) hempty
    | cons word others => rfl

/-- Two parts are collapsed one by one, with a space between them or none. -/
theorem exists_collapse_append (text rest : List Char) :
    ∃ gap, collapse (text ++ rest) = collapse text ++ gap ++ collapse rest := by
  induction text with
  | nil => exact ⟨[], rfl⟩
  | cons c text ih =>
      obtain ⟨gap, hgap⟩ := ih
      rw [List.cons_append]
      by_cases hc : isBlank c = true
      · exact ⟨gap, by rw [collapse_cons_of_blank hc, collapse_cons_of_blank hc, hgap]⟩
      rw [Bool.not_eq_true] at hc
      cases text with
      | nil =>
          have hsingle : collapse [c] = [c] := by
            rw [collapse, words_cons_of_blank_next hc (by simp)]
            rfl
          rw [List.nil_append, hsingle]
          by_cases hnext : ∀ d ∈ rest.head?, isBlank d = true
          · obtain ⟨hempty, hrest⟩ | ⟨-, hrest⟩ := collapse_cons_of_blank_next hc hnext
            · exact ⟨[], by rw [hrest, hempty]; rfl⟩
            · exact ⟨[' '], hrest⟩
          · push Not at hnext
            obtain ⟨d, hd, hblank⟩ := hnext
            obtain ⟨tail, rfl⟩ := List.head?_eq_some_iff.mp (Option.mem_def.mp hd)
            rw [ne_eq, Bool.not_eq_true] at hblank
            exact ⟨[], collapse_cons_of_word_next hc hblank tail⟩
      | cons d text =>
          rw [List.cons_append] at hgap ⊢
          by_cases hd : isBlank d = true
          · have hnext : ∀ behind, ∀ e ∈ (d :: behind).head?, isBlank e = true := by simp [hd]
            obtain ⟨hempty, hfront⟩ | ⟨hmore, hfront⟩ :=
              collapse_cons_of_blank_next hc (hnext text) <;>
            obtain ⟨hnone, hwhole⟩ | ⟨-, hwhole⟩ :=
              collapse_cons_of_blank_next hc (hnext (text ++ rest))
            · rw [hnone] at hgap
              have hrest := (List.append_eq_nil_iff.mp hgap.symm).2
              exact ⟨[], by rw [hwhole, hfront, hrest]; rfl⟩
            · exact ⟨' ' :: gap, by rw [hwhole, hfront, hgap, hempty]; rfl⟩
            · rw [hnone] at hgap
              exact absurd (List.append_eq_nil_iff.mp
                (List.append_eq_nil_iff.mp hgap.symm).1).1 hmore
            · exact ⟨gap, by rw [hwhole, hfront, hgap]; rfl⟩
          · rw [Bool.not_eq_true] at hd
            exact ⟨gap, by
              rw [collapse_cons_of_word_next hc hd, collapse_cons_of_word_next hc hd, hgap]; rfl⟩

/-! ## Lower case word by word -/

/-- A space ends the search for a letter with case. -/
theorem startsCased_append_space (text rest : List Char) :
    startsCased (text ++ ' ' :: rest) = startsCased text := by
  have hignored : isCaseIgnorable ' ' = false := by decide
  have hcased : isCased ' ' = false := by decide
  induction text with
  | nil => simp [startsCased, hignored, hcased]
  | cons c text ih =>
      rw [startsCased, startsCased] at ih
      cases hc : isCaseIgnorable c with
      | true => simpa [startsCased, hc] using ih
      | false => simp [startsCased, hc]

theorem lowerAfter_before_space (before other text : List Char) :
    lowerAfter (before ++ ' ' :: other) text = lowerAfter before text := by
  induction text generalizing before with
  | nil => rfl
  | cons c text ih =>
      have htail := ih (c :: before)
      rw [List.cons_append] at htail
      rw [lowerAfter, lowerAfter, htail, smallSigma, smallSigma, startsCased_append_space]

/-- What stands before and behind a space is put in lower case apart. -/
theorem lowerAfter_append_space (before text rest : List Char) :
    lowerAfter before (text ++ ' ' :: rest) = lowerAfter before text ++ ' ' :: lower rest := by
  induction text generalizing before with
  | nil =>
      have hrest := lowerAfter_before_space [] before rest
      have hspace : lowerAfter before (' ' :: rest) = ' ' :: lowerAfter (' ' :: before) rest := by
        rw [lowerAfter, if_neg (by decide)]
        rfl
      rw [List.nil_append] at hrest
      rw [List.nil_append, hspace, hrest]
      rfl
  | cons c text ih =>
      rw [List.cons_append, lowerAfter, lowerAfter, ih, smallSigma, smallSigma,
        startsCased_append_space, List.append_assoc]

theorem lower_unwords (texts : List (List Char)) :
    lower (unwords texts) = unwords (texts.map lower) := by
  induction texts with
  | nil => rfl
  | cons first texts ih =>
      cases texts with
      | nil => rfl
      | cons second texts =>
          rw [unwords, lower, lowerAfter_append_space, ih]
          · rfl
          · simp

theorem fold_eq (text : List Char) : fold text = unwords ((words text).map lower) :=
  lower_unwords (words text)

theorem fold_trim (text : List Char) : fold (trim text) = fold text := by
  rw [fold_eq, fold_eq, words_trim]

theorem unwords_infix (first second third : List (List Char)) :
    unwords second <:+: unwords (first ++ second ++ third) := by
  have hprefix : unwords second <+: unwords (second ++ third) := by
    induction second with
    | nil => exact List.nil_prefix
    | cons text second ih =>
        rcases eq_or_ne second [] with rfl | hne
        · rcases eq_or_ne third [] with rfl | hthird
          · exact List.prefix_rfl
          · rw [List.singleton_append, unwords_cons hthird]
            exact List.prefix_append text _
        · rw [List.cons_append, unwords_cons hne,
            unwords_cons (List.append_ne_nil_of_left_ne_nil hne third)]
          exact (List.prefix_append_right_inj text).mpr (List.prefix_cons_inj ' ' |>.mpr ih)
  rw [List.append_assoc]
  generalize second ++ third = rest at hprefix
  induction first with
  | nil => exact hprefix.isInfix
  | cons text first ih =>
      rw [List.cons_append]
      rcases eq_or_ne (first ++ rest) [] with hnil | hne
      · rw [hnil] at ih
        exact ih.trans (List.nil_infix)
      · rw [unwords_cons hne]
        exact (ih.trans (List.suffix_cons ' ' _).isInfix).trans (List.suffix_append text _).isInfix

/-- A text is folded as before among more words. -/
theorem fold_infix {text wide : List Char} {front back : List (List Char)}
    (hwords : words wide = front ++ words text ++ back) : fold text <:+: fold wide := by
  rw [fold_eq, fold_eq, hwords, List.map_append, List.map_append]
  exact unwords_infix _ _ _

theorem isBlank_eq_false_of_mem_lower {text : List Char}
    (htext : ∀ c ∈ text, isBlank c = false) : ∀ c ∈ lower text, isBlank c = false := by
  intro d hd
  rcases mem_lowerAfter hd with hd | ⟨c, hc, rfl⟩
  · fin_cases hd <;> decide
  · rw [isBlank_lowerChar, htext c hc]

theorem lower_ne_nil {text : List Char} (htext : text ≠ []) : lower text ≠ [] := by
  obtain ⟨c, rest, rfl⟩ := List.exists_cons_of_ne_nil htext
  rw [lower, lowerAfter]
  split
  · simp
  · rw [lowerExpansion]
    split <;> simp

theorem fold_eq_nil_iff {text : List Char} : fold text = [] ↔ AllBlank text := by
  rw [← collapse_eq_nil_iff]
  constructor
  · exact not_imp_not.mp lower_ne_nil
  · intro hempty
    rw [fold, hempty]
    rfl

/-- A word in lower case is a word. -/
theorem isWord_lower {text word : List Char} (hword : word ∈ words text) :
    lower word ≠ [] ∧ ∀ c ∈ lower word, isBlank c = false := by
  obtain ⟨hne, hchars⟩ := mem_words hword
  exact ⟨lower_ne_nil hne, isBlank_eq_false_of_mem_lower fun c hc => (hchars c hc).1⟩

theorem splitAtSpaces_ne_nil (text : List Char) : splitAtSpaces text ≠ [] := by
  cases text with
  | nil => exact List.cons_ne_nil _ _
  | cons c text =>
      rw [splitAtSpaces]
      split
      · exact List.cons_ne_nil _ _
      · split <;> exact List.cons_ne_nil _ _

theorem splitAtSpaces_eq_singleton {text : List Char} (htext : ' ' ∉ text) :
    splitAtSpaces text = [text] := by
  induction text with
  | nil => rfl
  | cons c text ih =>
      rw [List.mem_cons, not_or] at htext
      rw [splitAtSpaces, if_neg (Ne.symm htext.1), ih htext.2]

/-- What stands before and behind a space is split apart. -/
theorem splitAtSpaces_append_space (text rest : List Char) :
    splitAtSpaces (text ++ ' ' :: rest) = splitAtSpaces text ++ splitAtSpaces rest := by
  induction text with
  | nil => rfl
  | cons c text ih =>
      rw [List.cons_append, splitAtSpaces, splitAtSpaces, ih]
      split
      · rfl
      · obtain ⟨piece, others, hpieces⟩ := List.exists_cons_of_ne_nil (splitAtSpaces_ne_nil text)
        rw [hpieces]
        rfl

/-- Texts that are joined by spaces are split one by one. -/
theorem splitAtSpaces_unwords {texts : List (List Char)} (hne : texts ≠ []) :
    splitAtSpaces (unwords texts) = texts.flatMap splitAtSpaces := by
  induction texts with
  | nil => exact absurd rfl hne
  | cons text texts ih =>
      rcases eq_or_ne texts [] with rfl | hmore
      · exact (List.append_nil _).symm
      · rw [unwords_cons hmore, splitAtSpaces_append_space, ih hmore, List.flatMap_cons]

theorem flatMap_splitAtSpaces {texts : List (List Char)} (htexts : ∀ text ∈ texts, ' ' ∉ text) :
    texts.flatMap splitAtSpaces = texts := by
  induction texts with
  | nil => rfl
  | cons text texts ih =>
      rw [List.forall_mem_cons] at htexts
      rw [List.flatMap_cons, splitAtSpaces_eq_singleton htexts.1, ih htexts.2]
      rfl

/-- The tokens of a text are its words in lower case. -/
theorem tokens_eq (text : List Char) : tokens text = (words text).map lower := by
  have hnotSpace : ∀ word ∈ (words text).map lower, ' ' ∉ word := by
    intro folded hfolded hspace
    obtain ⟨word, hword, rfl⟩ := List.mem_map.mp hfolded
    exact absurd ((isWord_lower hword).2 ' ' hspace) (by decide)
  have hempty : fold text = [] ↔ (words text).map lower = [] := by
    rw [fold_eq_nil_iff, List.map_eq_nil_iff, words_eq_nil_iff]
  rw [tokens]
  split
  · rename_i hnil
    exact (hempty.mp hnil).symm
  · rename_i hne
    rw [fold_eq, splitAtSpaces_unwords (mt hempty.mpr hne), flatMap_splitAtSpaces hnotSpace]

theorem unwords_tokens (text : List Char) : unwords (tokens text) = fold text := by
  rw [tokens_eq, fold_eq]

theorem tokens_append {text rest : List Char} (hapart : Apart text rest) :
    tokens (text ++ rest) = tokens text ++ tokens rest := by
  rw [tokens_eq, tokens_eq, tokens_eq, words_append hapart, List.map_append]

/-! ## Latin text -/

/-- A letter of the first 256. -/
def IsLatin (c : Char) : Prop := c.toNat < 256

instance (c : Char) : Decidable (IsLatin c) := inferInstanceAs (Decidable (c.toNat < 256))

/-- Letters that have one letter key have one lower case. -/
theorem lowerChar_eq_of_sameUpToCase {c d : Char} (hc : IsLatin c) (hd : IsLatin d)
    (hsame : sameUpToCase c d = true) : lowerChar c = lowerChar d := by
  -- The micro sign is the one letter whose key is another letter.
  let unkin : Char → Char := fun key => if key = 'μ' then 'µ' else key
  have hunkin : ∀ c : Char, IsLatin c → unkin (caseKey c) = lowerChar c :=
    forall_char_lt (by decide +kernel)
  rw [sameUpToCase, Bool.or_eq_true, beq_iff_eq, beq_iff_eq] at hsame
  rcases hsame with rfl | hkey
  · rfl
  · rw [← hunkin c hc, hkey, hunkin d hd]

theorem lower_eq_map {text : List Char} (htext : ∀ c ∈ text, IsLatin c) :
    lower text = text.map lowerChar := by
  have hafter : ∀ (text before : List Char), (∀ c ∈ text, IsLatin c) →
      lowerAfter before text = text.map lowerChar := by
    intro text
    induction text with
    | nil => exact fun _ _ => rfl
    | cons c text ih =>
        intro before htext
        rw [List.forall_mem_cons] at htext
        have hsigma : c ≠ 'Σ' := by
          rintro rfl
          exact absurd htext.1 (by decide)
        have hdotted : c ≠ 'İ' := by
          rintro rfl
          exact absurd htext.1 (by decide)
        rw [lowerAfter, if_neg hsigma, lowerExpansion, if_neg hdotted, ih _ htext.2]
        rfl
  exact hafter text [] htext

/-- Latin text is folded character by character. -/
theorem fold_eq_map {text : List Char} (htext : ∀ c ∈ text, IsLatin c) :
    fold text = (collapse text).map lowerChar := by
  have hunwords : ∀ texts : List (List Char),
      unwords (texts.map (List.map lowerChar)) = (unwords texts).map lowerChar := by
    intro texts
    induction texts with
    | nil => rfl
    | cons first texts ih =>
        cases texts with
        | nil => rfl
        | cons second texts =>
            have hspace : lowerChar ' ' = ' ' := by decide
            simpa [unwords, hspace] using ih
  rw [fold_eq, collapse, ← hunwords]
  refine congrArg unwords (List.map_congr_left fun word hword => ?_)
  exact lower_eq_map fun c hc => htext c ((mem_words hword).2 c hc).2

theorem tokens_eq_map {text : List Char} (htext : ∀ c ∈ text, IsLatin c) :
    tokens text = (words text).map (List.map lowerChar) := by
  rw [tokens_eq]
  exact List.map_congr_left fun word hword =>
    lower_eq_map fun c hc => htext c ((mem_words hword).2 c hc).2

/-- Two Latin parts are folded one by one, with a space between them or none. -/
theorem exists_fold_append {text rest : List Char} (htext : ∀ c ∈ text, IsLatin c)
    (hrest : ∀ c ∈ rest, IsLatin c) :
    ∃ gap, fold (text ++ rest) = fold text ++ gap ++ fold rest := by
  obtain ⟨gap, hgap⟩ := exists_collapse_append text rest
  refine ⟨gap.map lowerChar, ?_⟩
  rw [fold_eq_map (List.forall_mem_append.mpr ⟨htext, hrest⟩), fold_eq_map htext,
    fold_eq_map hrest, hgap, List.map_append, List.map_append]

end Phrasebook.Text
