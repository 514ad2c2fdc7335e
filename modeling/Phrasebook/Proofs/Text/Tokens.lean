import Mathlib
import Phrasebook.Proofs.Text.Fold

/-!
# Folded text is final

The tokens of a text are words in lower case, and neither cutting into words nor lower case changes
them again.  So a folded text has the tokens of the text, and it is its own folded form.  Blanks
between two texts decide nothing about the tokens of either of them, not even about the form of a
sigma that stands next to them.
-/

namespace Phrasebook.Text

theorem isWord_of_mem_tokens {text token : List Char} (htoken : token ∈ tokens text) :
    token ≠ [] ∧ ∀ c ∈ token, isBlank c = false := by
  rw [tokens_eq] at htoken
  obtain ⟨word, hword, rfl⟩ := List.mem_map.mp htoken
  exact isWord_lower hword

/-- No token is changed by lower case. -/
theorem map_lower_tokens (text : List Char) : (tokens text).map lower = tokens text := by
  rw [tokens_eq, List.map_map]
  exact List.map_congr_left fun word _ => lower_lower word

theorem tokens_fold (text : List Char) : tokens (fold text) = tokens text := by
  rw [tokens_eq (fold text), ← unwords_tokens, words_unwords fun _ => isWord_of_mem_tokens,
    map_lower_tokens]

theorem fold_fold (text : List Char) : fold (fold text) = fold text := by
  rw [← unwords_tokens (fold text), tokens_fold, unwords_tokens]

/-- The tokens of two texts with blanks between them are those of the first and then those of the
second. -/
theorem tokens_append_blanks (text : List Char) {gap : List Char} (hne : gap ≠ [])
    (hblank : AllBlank gap) (rest : List Char) :
    tokens (text ++ gap ++ rest) = tokens text ++ tokens rest := by
  have hapart : Apart text (gap ++ rest) := by
    intro _ _ d hd
    rw [List.head?_append_of_ne_nil _ hne] at hd
    exact .inr (hblank d (List.mem_of_mem_head? hd))
  have hrest : tokens (gap ++ rest) = tokens rest := by
    rw [tokens_eq, tokens_eq, words_append_of_allBlank hblank]
  rw [List.append_assoc, tokens_append hapart, hrest]

/-- A folded text is folded already.  The tokens of a text are its words in lower case, which are
words again and make up the folded text; and the tokens of texts with blanks between them stand in a
row. -/
theorem fold_final_and_tokens_apart :
    (∀ text, fold (fold text) = fold text ∧ tokens text = (words text).map lower ∧
      (∀ token ∈ tokens text, token ≠ [] ∧ ∀ c ∈ token, isBlank c = false) ∧
      unwords (tokens text) = fold text) ∧
    ∀ text gap rest, gap ≠ [] → AllBlank gap →
      tokens (text ++ gap ++ rest) = tokens text ++ tokens rest :=
  ⟨fun text =>
    ⟨fold_fold text, tokens_eq text, fun _ => isWord_of_mem_tokens, unwords_tokens text⟩,
    fun text _ rest hne hblank => tokens_append_blanks text hne hblank rest⟩

/-- A sigma in front of blanks has its final form, though letters stand behind them. -/
theorem fold_final_and_tokens_apart_sigma :
    ("ας".toList ∈ tokens " ΑΣ".toList ∧
      "ας".toList ≠ [] ∧ ∀ c ∈ "ας".toList, isBlank c = false) ∧
    "\t\u2003".toList ≠ [] ∧ AllBlank "\t\u2003".toList ∧
      tokens (" ΑΣ".toList ++ "\t\u2003".toList ++ "İΣ\n".toList) =
        ["ας".toList, "i\u0307ς".toList] := by
  have htokens : tokens " ΑΣ".toList = ["ας".toList] := by decide
  have hmem : "ας".toList ∈ tokens " ΑΣ".toList := htokens ▸ List.mem_singleton_self _
  have hne : "\t\u2003".toList ≠ [] := by decide
  have hblank : AllBlank "\t\u2003".toList := List.all_eq_true.mp (by decide)
  have happend := fold_final_and_tokens_apart.2 " ΑΣ".toList _ "İΣ\n".toList hne hblank
  rw [htokens] at happend
  exact ⟨⟨hmem, (fold_final_and_tokens_apart.1 _).2.2.1 _ hmem⟩, hne, hblank, happend⟩

end Phrasebook.Text
