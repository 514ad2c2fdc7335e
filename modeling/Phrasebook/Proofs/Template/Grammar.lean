import Mathlib
import Phrasebook.Template.Segment
import Phrasebook.Proofs.Text.Words

/-!
# The grammar of templates

A template is literal text without braces and names in braces, which may have blanks around them.
What the reader of templates returns is written in the template, literal texts whole.
-/

namespace Phrasebook.Template

/-- `Written segments text`: the text is a template with these segments. -/
inductive Written : List Segment → List Char → Prop
  | nil : Written [] []
  | literal {text rest : List Char} {segments : List Segment} :
      text ≠ [] → (∀ c ∈ text, c ≠ openBrace ∧ c ≠ closeBrace) →
      (∀ other, segments.head? ≠ some (.literal other)) → Written segments rest →
      Written (.literal text :: segments) (text ++ rest)
  | slot {before name after rest : List Char} {segments : List Segment} :
      Text.AllBlank before → Text.AllBlank after → Text.isIdentifier name = true →
      Written segments rest →
      Written (.slot (String.ofList name) :: segments)
        (openBrace :: (before ++ name ++ after) ++ closeBrace :: rest)

/-- One more literal character in front lengthens a literal or starts one. -/
theorem Written.consLiteral {c : Char} {segments : List Segment} {rest : List Char}
    (hopen : c ≠ openBrace) (hclose : c ≠ closeBrace) (hwritten : Written segments rest) :
    Written (consLiteral c segments) (c :: rest) := by
  have hsingle : ∀ {segments : List Segment} {rest : List Char},
      (∀ other, segments.head? ≠ some (.literal other)) → Written segments rest →
      Written (.literal [c] :: segments) ([c] ++ rest) := fun hnext hrest =>
    .literal (List.cons_ne_nil c []) (by simp [hopen, hclose]) hnext hrest
  cases hwritten with
  | nil => exact hsingle (by simp) .nil
  | @literal text rest segments hne hbraces hnext hrest =>
      refine .literal (List.cons_ne_nil c text) (fun d hd => ?_) hnext hrest
      rcases List.mem_cons.mp hd with rfl | hd
      · exact ⟨hopen, hclose⟩
      · exact hbraces d hd
  | slot hbefore hafter hname hrest =>
      exact hsingle (by simp) (.slot hbefore hafter hname hrest)

/-- What a reader found when it stood in braces: a name, and a template behind the closing brace. -/
def Closed (seen text : List Char) (segments : List Segment) : Prop :=
  ∃ inside rest others, seen.reverse ++ text = inside ++ closeBrace :: rest ∧
    Text.isIdentifier (Text.trim inside) = true ∧
    segments = .slot (String.ofList (Text.trim inside)) :: others ∧ Written others rest

theorem Closed.written {text : List Char} {segments : List Segment}
    (hclosed : Closed [] text segments) : Written segments (openBrace :: text) := by
  obtain ⟨inside, rest, others, htext, hname, rfl, hrest⟩ := hclosed
  obtain ⟨before, after, hbefore, hafter, hinside⟩ := Text.exists_eq_append_trim inside
  rw [List.reverse_nil, List.nil_append] at htext
  have heq : openBrace :: text =
      openBrace :: (before ++ Text.trim inside ++ after) ++ closeBrace :: rest := by
    rw [← hinside, htext, List.cons_append]
  rw [heq]
  exact .slot hbefore hafter hname hrest

theorem written_of_scan (text : List Char) :
    (∀ position segments, scan .outside position text = .ok segments → Written segments text) ∧
      ∀ start seen position segments,
        scan (.inside start seen) position text = .ok segments → Closed seen text segments := by
  induction text with
  | nil =>
      refine ⟨fun position segments hscan => ?_, fun start seen position segments hscan => ?_⟩
      · simp only [scan, Except.ok.injEq] at hscan
        subst hscan
        exact .nil
      · simp [scan] at hscan
  | cons c rest ih =>
      obtain ⟨houtside, hinside⟩ := ih
      refine ⟨fun position segments hscan => ?_, fun start seen position segments hscan => ?_⟩
      · rw [scan] at hscan
        split at hscan
        · simp at hscan
        rename_i hclose
        split at hscan
        · rename_i hopen
          rw [hopen]
          exact (hinside _ _ _ _ hscan).written
        · rename_i hopen
          cases hrest : scan .outside (position + 1) rest with
          | error flaw => simp [hrest, Except.map] at hscan
          | ok found =>
              simp only [hrest, Except.map, Except.ok.injEq] at hscan
              subst hscan
              exact (houtside _ _ hrest).consLiteral hopen hclose
      · rw [scan] at hscan
        split at hscan
        · rename_i hclose
          dsimp only at hscan
          split at hscan
          · simp at hscan
          split at hscan
          · rename_i hname
            cases hrest : scan .outside (position + 1) rest with
            | error flaw => simp [hrest, Except.map] at hscan
            | ok found =>
                simp only [hrest, Except.map, Except.ok.injEq] at hscan
                subst hscan
                exact ⟨seen.reverse, rest, found, by rw [hclose], hname, rfl,
                  houtside _ _ hrest⟩
          · simp at hscan
        · obtain ⟨inside, behind, others, htext, hclosed⟩ := hinside _ _ _ _ hscan
          exact ⟨inside, behind, others, by simpa using htext, hclosed⟩

theorem written_of_segments {text : List Char} {found : List Segment}
    (hok : segments text = .ok found) : Written found text :=
  (written_of_scan text).1 0 found hok

theorem split_eq_ok_iff_segments {template : String} {found : List Segment} :
    split template = .ok found ↔ segments template.toList = .ok found := by
  rw [split]
  cases segments template.toList <;> simp [Except.mapError]

namespace Written

variable {found : List Segment} {template : List Char}

/-- Two literals never stand side by side. -/
theorem not_adjacent_literals (hwritten : Written found template) (text other : List Char) :
    ¬ [.literal text, .literal other] <:+: found := by
  induction hwritten with
  | nil => simp
  | literal _ _ hnext _ ih =>
      rw [List.infix_cons_iff]
      rintro (hstart | hadjacent)
      · obtain ⟨tail, htail⟩ := hstart
        simp only [List.cons_append, List.nil_append, List.cons.injEq] at htail
        exact hnext other (by simp [← htail.2])
      · exact ih hadjacent
  | slot _ _ _ _ ih =>
      rw [List.infix_cons_iff]
      rintro (hstart | hadjacent)
      · simp at hstart
      · exact ih hadjacent

theorem literal_ne_nil (hwritten : Written found template) :
    ∀ text, .literal text ∈ found → text ≠ [] := by
  intro text hmem
  induction hwritten with
  | nil => simp at hmem
  | literal hne _ _ _ ih =>
      rcases List.mem_cons.mp hmem with heq | hmem
      · cases heq
        exact hne
      · exact ih hmem
  | slot _ _ _ _ ih => exact ih (by simpa using hmem)

/-- A literal stands in the template. -/
theorem literal_subset (hwritten : Written found template) :
    ∀ text, .literal text ∈ found → text ⊆ template := by
  intro text hmem
  induction hwritten with
  | nil => simp at hmem
  | literal _ _ _ _ ih =>
      rcases List.mem_cons.mp hmem with heq | hmem
      · cases heq
        exact List.subset_append_left _ _
      · exact List.Subset.trans (ih hmem) (List.subset_append_right _ _)
  | slot _ _ _ _ ih =>
      have hrest := ih (by simpa using hmem)
      exact fun c hc => List.mem_append_right _ (List.mem_cons_of_mem closeBrace (hrest hc))

/-- A literal in front starts the template. -/
theorem head?_eq {text : List Char} {segments : List Segment}
    (hwritten : Written (.literal text :: segments) template) : template.head? = text.head? := by
  cases hwritten with
  | literal hne _ _ _ => exact List.head?_append_of_ne_nil _ hne

/-- A literal at the end ends the template. -/
theorem getLast?_eq {text : List Char} {segments : List Segment}
    (hwritten : Written (segments ++ [.literal text]) template) :
    template.getLast? = text.getLast? := by
  induction segments generalizing template with
  | nil =>
      cases hwritten with
      | literal _ _ _ hrest =>
          cases hrest
          rw [List.append_nil]
  | cons segment segments ih =>
      have hlast : ∀ {rest : List Char}, Written (segments ++ [.literal text]) rest →
          rest ≠ [] := by
        intro rest hrest
        have hne := hrest.literal_ne_nil text (by simp)
        have heq := ih hrest
        intro hnil
        rw [hnil, List.getLast?_nil, eq_comm, List.getLast?_eq_none_iff] at heq
        exact hne heq
      rw [List.cons_append] at hwritten
      cases hwritten with
      | literal _ _ _ hrest =>
          rw [List.getLast?_append_of_ne_nil _ (hlast hrest)]
          exact ih hrest
      | @slot before name after rest _ _ _ _ hrest =>
          rw [List.getLast?_append_of_ne_nil _ (List.cons_ne_nil closeBrace rest),
            List.getLast?_cons_of_ne_nil (hlast hrest)]
          exact ih hrest

end Written

end Phrasebook.Template
