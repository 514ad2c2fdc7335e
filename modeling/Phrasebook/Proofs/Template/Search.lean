import Mathlib
import Phrasebook.Proofs.Template.Cut

/-!
# The search finds the preferred cut

`search` tries the longest run of blanks and the shortest share first and goes back where the rest
does not follow.  It fails only when no cut exists, and what it finds comes before every other cut.
-/

namespace Phrasebook.Template

variable {α : Type}

theorem IsRun.tail {c : Char} {text : List Char} (hrun : IsRun (c :: text)) (hne : text ≠ []) :
    IsRun text :=
  ⟨hne, fun d hd => hrun.2 d (List.mem_cons_of_mem c hd)⟩

theorem IsRun.cons {c : Char} {text : List Char} (hc : Text.isBlank c = true)
    (hrun : IsRun text) : IsRun (c :: text) := by
  refine ⟨List.cons_ne_nil c text, fun d hd => ?_⟩
  rcases List.mem_cons.mp hd with rfl | hd
  · exact hc
  · exact hrun.2 d hd

theorem afterBlanks_eq_none {next : List Char → Option α} {taken rest : List Char}
    (hnone : afterBlanks next (taken ++ rest) = none) (hrun : IsRun taken) :
    next rest = none := by
  induction taken with
  | nil => exact absurd rfl hrun.1
  | cons c taken ih =>
      have hc : Text.isBlank c = true := hrun.2 c List.mem_cons_self
      rw [List.cons_append, afterBlanks, if_pos hc] at hnone
      cases hafter : afterBlanks next (taken ++ rest) with
      | some answer => simp [hafter] at hnone
      | none =>
          rw [hafter] at hnone
          by_cases hempty : taken = []
          · simpa [hempty] using hnone
          · exact ih hafter (hrun.tail hempty)

theorem afterBlanks_eq_some {next : List Char → Option α} {text : List Char} {answer : α}
    (hsome : afterBlanks next text = some answer) :
    ∃ taken rest, text = taken ++ rest ∧ IsRun taken ∧ next rest = some answer ∧
      ∀ taken' rest', text = taken' ++ rest' → IsRun taken' →
        taken.length < taken'.length → next rest' = none := by
  induction text with
  | nil => simp [afterBlanks] at hsome
  | cons c text ih =>
      by_cases hc : Text.isBlank c = true
      swap
      · simp [afterBlanks, hc] at hsome
      rw [afterBlanks, if_pos hc] at hsome
      cases hafter : afterBlanks next text with
      | some found =>
          rw [hafter] at hsome
          cases hsome
          obtain ⟨taken, rest, rfl, hrun, hnext, hlongest⟩ := ih hafter
          refine ⟨c :: taken, rest, rfl, hrun.cons hc, hnext, ?_⟩
          intro taken' rest' heq hrun' hlonger
          obtain ⟨rfl, rfl⟩ | ⟨tail, rfl, htail⟩ := List.cons_eq_append_iff.mp heq
          · exact absurd rfl hrun'.1
          · simp only [List.length_cons, Nat.add_lt_add_iff_right] at hlonger
            have hne : tail ≠ [] := List.length_pos_iff.mp (by omega)
            exact hlongest tail rest' htail (hrun'.tail hne) hlonger
      | none =>
          rw [hafter] at hsome
          refine ⟨[c], text, rfl, ⟨by simp, by simp [hc]⟩, hsome, ?_⟩
          intro taken' rest' heq hrun' hlonger
          obtain ⟨rfl, rfl⟩ | ⟨tail, rfl, rfl⟩ := List.cons_eq_append_iff.mp heq
          · exact absurd rfl hrun'.1
          · simp only [List.length_cons, List.length_nil] at hlonger
            have hne : tail ≠ [] := List.length_pos_iff.mp (by omega)
            exact afterBlanks_eq_none hafter (hrun'.tail hne)

theorem shortestStart_eq_none {next : List Char → Option α} {share rest : List Char}
    (hnone : shortestStart next (share ++ rest) = none) (hshare : share ≠ []) :
    next rest = none := by
  induction share with
  | nil => exact absurd rfl hshare
  | cons c share ih =>
      rw [List.cons_append, shortestStart] at hnone
      cases hnext : next (share ++ rest) with
      | some answer => simp [hnext] at hnone
      | none =>
          rw [hnext] at hnone
          by_cases hempty : share = []
          · simpa [hempty] using hnext
          · exact ih (Option.map_eq_none_iff.mp hnone) hempty

theorem shortestStart_eq_some {next : List Char → Option α} {text share : List Char}
    {answer : α} (hsome : shortestStart next text = some (share, answer)) :
    ∃ rest, text = share ++ rest ∧ share ≠ [] ∧ next rest = some answer ∧
      ∀ share' rest', text = share' ++ rest' → share' ≠ [] →
        share'.length < share.length → next rest' = none := by
  induction text generalizing share with
  | nil => simp [shortestStart] at hsome
  | cons c text ih =>
      rw [shortestStart] at hsome
      cases hnext : next text with
      | some found =>
          rw [hnext] at hsome
          cases hsome
          refine ⟨text, rfl, by simp, hnext, ?_⟩
          intro share' rest' _ hshare' hshorter
          have hpos := List.length_pos_iff.mpr hshare'
          simp only [List.length_cons, List.length_nil] at hshorter
          omega
      | none =>
          rw [hnext] at hsome
          obtain ⟨⟨tail, found⟩, hfound, heq⟩ := Option.map_eq_some_iff.mp hsome
          cases heq
          obtain ⟨rest, rfl, _, hrest, hshortest⟩ := ih hfound
          refine ⟨rest, rfl, by simp, hrest, ?_⟩
          intro share' rest' heq hshare' hshorter
          obtain ⟨rfl, rfl⟩ | ⟨tail', rfl, htail⟩ := List.cons_eq_append_iff.mp heq
          · exact absurd rfl hshare'
          · simp only [List.length_cons, Nat.add_lt_add_iff_right] at hshorter
            by_cases hempty : tail' = []
            · simpa [hempty, htail] using hnext
            · exact hshortest tail' rest' htail hempty hshorter

/-- The cut along pieces that comes before every other cut of the text. -/
def Foremost (pieces : List Piece) (text : List Char) (choices : List Choice) : Prop :=
  Along pieces text choices ∧
    ∀ others, Along pieces text others →
      others = choices ∨ List.Lex Choice.Better choices others

theorem Foremost.char {c d : Char} {pieces : List Piece} {text : List Char}
    {choices : List Choice} (hsame : Text.sameUpToCase c d = true)
    (hforemost : Foremost pieces text choices) :
    Foremost (.char c :: pieces) (d :: text) choices := by
  refine ⟨.char hsame hforemost.1, fun others hothers => ?_⟩
  cases hothers with
  | char _ htail => exact hforemost.2 others htail

/-- The longest run of blanks after which a cut exists goes with the foremost cut of the rest. -/
theorem Foremost.blanks {taken rest : List Char} {pieces : List Piece} {choices : List Choice}
    (hrun : IsRun taken) (hforemost : Foremost pieces rest choices)
    (hlongest : ∀ taken' rest', taken ++ rest = taken' ++ rest' → IsRun taken' →
      taken.length < taken'.length → ∀ others, ¬ Along pieces rest' others) :
    Foremost (.blanks :: pieces) (taken ++ rest) (.blanks taken :: choices) := by
  refine ⟨.blanks hrun hforemost.1, fun others hothers => ?_⟩
  generalize htext : taken ++ rest = text at hothers
  cases hothers with
  | @blanks taken' _ rest' others hrun' htail =>
      rcases lt_trichotomy taken.length taken'.length with hlonger | hlength | hshorter
      · exact absurd htail (hlongest taken' rest' htext hrun' hlonger others)
      · obtain ⟨rfl, rfl⟩ := List.append_inj htext hlength
        rcases hforemost.2 others htail with rfl | hlex
        · exact .inl rfl
        · exact .inr (.cons hlex)
      · exact .inr (.rel (.blanks hshorter))

/-- The shortest share after which a cut exists goes with the foremost cut of the rest. -/
theorem Foremost.slot {share rest : List Char} {pieces : List Piece} {choices : List Choice}
    (hshare : share ≠ []) (hforemost : Foremost pieces rest choices)
    (hshortest : ∀ share' rest', share ++ rest = share' ++ rest' → share' ≠ [] →
      share'.length < share.length → ∀ others, ¬ Along pieces rest' others) :
    Foremost (.slot :: pieces) (share ++ rest) (.slot share :: choices) := by
  refine ⟨.slot hshare hforemost.1, fun others hothers => ?_⟩
  generalize htext : share ++ rest = text at hothers
  cases hothers with
  | @slot share' _ rest' others hshare' htail =>
      rcases lt_trichotomy share.length share'.length with hlonger | hlength | hshorter
      · exact .inr (.rel (.slot hlonger))
      · obtain ⟨rfl, rfl⟩ := List.append_inj htext hlength
        rcases hforemost.2 others htail with rfl | hlex
        · exact .inl rfl
        · exact .inr (.cons hlex)
      · exact absurd htail (hshortest share' rest' htext hshare' hshorter others)

theorem not_along_of_search_eq_none {pieces : List Piece} {text : List Char}
    (hnone : search pieces text = none) (choices : List Choice) :
    ¬ Along pieces text choices := by
  intro halong
  induction halong with
  | nil => simp [search] at hnone
  | char hsame _ ih => exact ih (by simpa [search, hsame] using hnone)
  | blanks hrun _ ih => exact ih (afterBlanks_eq_none hnone hrun)
  | slot hshare _ ih =>
      exact ih (shortestStart_eq_none (Option.map_eq_none_iff.mp hnone) hshare)

theorem foremost_of_search_eq_some {pieces : List Piece} {text : List Char}
    {shares : List (List Char)} (hsome : search pieces text = some shares) :
    ∃ choices, Foremost pieces text choices ∧
      choices.filterMap Choice.slotShare? = shares := by
  induction pieces generalizing text shares with
  | nil =>
      cases text with
      | cons c text => simp [search] at hsome
      | nil =>
          simp only [search, Option.some.injEq] at hsome
          refine ⟨[], ⟨.nil, fun others hothers => ?_⟩, hsome⟩
          cases hothers
          exact .inl rfl
  | cons piece pieces ih =>
      cases piece with
      | char c =>
          cases text with
          | nil => simp [search] at hsome
          | cons d text =>
              rw [search, Option.ite_none_right_eq_some] at hsome
              obtain ⟨choices, hforemost, hshares⟩ := ih hsome.2
              exact ⟨choices, hforemost.char hsome.1, hshares⟩
      | blanks =>
          obtain ⟨taken, rest, rfl, hrun, hnext, hlongest⟩ := afterBlanks_eq_some hsome
          obtain ⟨choices, hforemost, rfl⟩ := ih hnext
          refine ⟨.blanks taken :: choices, hforemost.blanks hrun ?_, rfl⟩
          intro taken' rest' heq hrun' hlonger
          exact not_along_of_search_eq_none (hlongest taken' rest' heq hrun' hlonger)
      | slot =>
          rw [search, Option.map_eq_some_iff] at hsome
          obtain ⟨⟨share, others⟩, hfound, rfl⟩ := hsome
          obtain ⟨rest, rfl, hshare, hnext, hshortest⟩ := shortestStart_eq_some hfound
          obtain ⟨choices, hforemost, rfl⟩ := ih hnext
          refine ⟨.slot share :: choices, hforemost.slot hshare ?_, rfl⟩
          intro share' rest' heq hshare' hshorter
          exact not_along_of_search_eq_none (hshortest share' rest' heq hshare' hshorter)

/-- No choice is both better and worse than another. -/
instance : Std.Asymm Choice.Better where
  asymm left right hleft hright := by
    cases hleft with
    | blanks hless => cases hright with | blanks hless' => omega
    | slot hless => cases hright with | slot hless' => omega

theorem Foremost.unique {pieces : List Piece} {text : List Char} {choices others : List Choice}
    (hchoices : Foremost pieces text choices) (hothers : Foremost pieces text others) :
    others = choices := by
  rcases hchoices.2 others hothers.1 with heq | hafter
  · exact heq
  · rcases hothers.2 choices hchoices.1 with heq | hbefore
    · exact heq.symm
    · exact absurd hbefore (Std.Asymm.asymm _ _ hafter)

theorem search_isSome_iff {pieces : List Piece} {text : List Char} :
    (search pieces text).isSome = true ↔ ∃ choices, Along pieces text choices := by
  constructor
  · intro hsome
    obtain ⟨shares, hshares⟩ := Option.isSome_iff_exists.mp hsome
    obtain ⟨choices, hforemost, _⟩ := foremost_of_search_eq_some hshares
    exact ⟨choices, hforemost.1⟩
  · rintro ⟨choices, halong⟩
    by_contra hnone
    exact not_along_of_search_eq_none (Option.not_isSome_iff_eq_none.mp hnone) choices halong

/-- The search answers with the slots' shares of the foremost cut. -/
theorem search_eq_some_iff {pieces : List Piece} {text : List Char}
    {shares : List (List Char)} :
    search pieces text = some shares ↔
      ∃ choices, Foremost pieces text choices ∧
        choices.filterMap Choice.slotShare? = shares := by
  constructor
  · exact foremost_of_search_eq_some
  · rintro ⟨choices, hforemost, rfl⟩
    obtain ⟨found, hfound⟩ :=
      Option.isSome_iff_exists.mp (search_isSome_iff.mpr ⟨choices, hforemost.1⟩)
    obtain ⟨others, hothers, rfl⟩ := foremost_of_search_eq_some hfound
    rw [hfound, hforemost.unique hothers]

end Phrasebook.Template
