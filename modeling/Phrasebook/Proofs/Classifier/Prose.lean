import Mathlib
import Phrasebook.Proofs.Classifier.Answers

/-!
# Prose around an object

A model may talk before and behind the object that it answers with.  The object reaches from the
first opening brace of an answer to the last closing one, so talk without those braces is passed
over, and an answer has no object just when every closing brace comes before every opening one.
-/

namespace Phrasebook.Classification

/-- The text starts with an opening brace and ends with a closing one. -/
structure IsBraced (text : List Char) : Prop where
  opens : text.head? = some '\x7b'
  closes : text.getLast? = some '\x7d'

/-- No closing brace stands behind an opening one. -/
def IsUnenclosed (content : List Char) : Prop :=
  ∀ before after, content = before ++ '\x7b' :: after → '\x7d' ∉ after

theorem dropWhile_ne_append {c : Char} {before text : List Char} (hbefore : c ∉ before)
    (htext : text.head? = some c) : (before ++ text).dropWhile (· != c) = text := by
  obtain ⟨rest, rfl⟩ := List.head?_eq_some_iff.mp htext
  have hpassed : ∀ other ∈ before, (other != c) = true := by
    intro other hother
    rw [bne_iff_ne]
    rintro rfl
    exact hbefore hother
  rw [List.dropWhile_append_of_pos hpassed, List.dropWhile_cons_of_neg (by simp)]

/-- From the first opening brace to the last closing one: whatever stands around. -/
theorem enclosed?_append {before object after : List Char} (hbefore : '\x7b' ∉ before)
    (hobject : IsBraced object) (hafter : '\x7d' ∉ after) :
    enclosed? (before ++ object ++ after) = some object := by
  have hopens : (object ++ after).head? = some '\x7b' := by
    rw [List.head?_append, hobject.opens]
    rfl
  have hcloses : object.reverse.head? = some '\x7d' := by
    rw [List.head?_reverse, hobject.closes]
  have hfront : (before ++ object ++ after).dropWhile (· != '\x7b') = object ++ after := by
    rw [List.append_assoc]
    exact dropWhile_ne_append hbefore hopens
  have hback : (object ++ after).reverse.dropWhile (· != '\x7d') = object.reverse := by
    rw [List.reverse_append]
    exact dropWhile_ne_append (mt List.mem_reverse.mp hafter) hcloses
  rw [enclosed?, hfront, hback, List.reverse_reverse]
  cases object with
  | nil => cases hobject.opens
  | cons c rest => rfl

theorem enclosed?_eq_self {object : List Char} (hobject : IsBraced object) :
    enclosed? object = some object := by
  simpa using enclosed?_append (List.not_mem_nil) hobject (List.not_mem_nil)

/-- From the first opening brace on there is a closing one just if one stands behind an opening
one. -/
theorem not_mem_dropWhile_iff {content : List Char} :
    '\x7d' ∉ content.dropWhile (· != '\x7b') ↔ IsUnenclosed content := by
  constructor
  · rintro hnone before after rfl hclosing
    apply hnone
    rw [List.dropWhile_append]
    split
    · rw [List.dropWhile_cons_of_neg (by simp)]
      exact List.mem_cons_of_mem _ hclosing
    · exact List.mem_append_right _ (List.mem_cons_of_mem _ hclosing)
  · intro hcontent hclosing
    have hparts := List.takeWhile_append_dropWhile (p := (· != '\x7b')) (l := content)
    cases hstart : content.dropWhile (· != '\x7b') with
    | nil =>
        rw [hstart] at hclosing
        cases hclosing
    | cons c after =>
        have hopening : c = '\x7b' := by
          have hhead := List.head?_dropWhile_not (· != '\x7b') content
          rw [hstart] at hhead
          simpa using hhead
        rw [hstart, hopening] at hparts hclosing
        have hafter := hcontent _ after hparts.symm
        rcases List.mem_cons.mp hclosing with heq | hmem
        · exact absurd heq (by decide)
        · exact hafter hmem

theorem enclosed?_eq_none_iff {content : List Char} :
    enclosed? content = none ↔ IsUnenclosed content := by
  have hlast : enclosed? content = none ↔
      (content.dropWhile (· != '\x7b')).reverse.dropWhile (· != '\x7d') = [] := by
    rw [enclosed?]
    split
    · rename_i hempty
      rw [List.reverse_eq_nil_iff] at hempty
      exact iff_of_true rfl hempty
    · rename_i text hne
      rw [List.reverse_eq_nil_iff] at hne
      exact iff_of_false nofun hne
  rw [hlast, ← not_mem_dropWhile_iff, List.dropWhile_eq_nil_iff]
  constructor
  · intro hpassed hclosing
    exact absurd (hpassed _ (List.mem_reverse.mpr hclosing)) (by decide)
  · intro hnone c hc
    rw [bne_iff_ne]
    rintro rfl
    exact hnone (List.mem_reverse.mp hc)

/-! ## Answers -/

variable {content : String}

theorem ofAnswer_of_enclosed? {other : String}
    (hsame : enclosed? content.toList = enclosed? other.toList) :
    ofAnswer content = ofAnswer other := by
  rw [ofAnswer, hsame, ofAnswer]

theorem ofEntries_ne_noObject (entries : List (Key × Value)) :
    ofEntries entries ≠ .error (.unanswered .noObject) := by
  by_cases hnames : NamesIntent entries
  · rw [ofEntries_of_namesIntent hnames]
    intro hresult
    unfold readConfidence at hresult
    split at hresult <;> cases hresult
  · rw [ofEntries_of_not_namesIntent hnames]
    nofun

/-- That an answer has no object is said of no answer that has one. -/
theorem ofAnswer_eq_noObject_iff :
    ofAnswer content = .error (.unanswered .noObject) ↔ enclosed? content.toList = none := by
  constructor
  · intro hanswer
    unfold ofAnswer at hanswer
    split at hanswer
    · assumption
    · split at hanswer
      · exact absurd hanswer (ofEntries_ne_noObject _)
      all_goals cases hanswer
  · intro hnone
    rw [ofAnswer, hnone]

/-- What a model writes around its object is irrelevant: with text before it that opens no brace and
text behind it that closes none, an object comes to the same as by itself, be it a classification,
none, or a fault with its message.  And an answer is refused for want of an object just when no
closing brace stands behind an opening one. -/
theorem ofAnswer_surrounded_and_unenclosed :
    (∀ before object after : String, '\x7b' ∉ before.toList → IsBraced object.toList →
        '\x7d' ∉ after.toList → ofAnswer (before ++ object ++ after) = ofAnswer object) ∧
      ∀ content : String,
        ofAnswer content = .error (.unanswered .noObject) ↔ IsUnenclosed content.toList := by
  constructor
  · intro before object after hbefore hobject hafter
    apply ofAnswer_of_enclosed?
    rw [String.toList_append, String.toList_append, enclosed?_append hbefore hobject hafter,
      enclosed?_eq_self hobject]
  · intro content
    rw [ofAnswer_eq_noObject_iff, enclosed?_eq_none_iff]

/-- A flaw keeps its place in the object, whatever stands before it; and an answer that closes its
brace before it opens one has no object. -/
theorem ofAnswer_surrounded_and_unenclosed_flawed :
    ofAnswer ("Claro\x7d:\n" ++ "\x7b\"intent\": AYUDA\x7d" ++ "\n\x7b listo") =
        .error (.unanswered (.badJson "Expecting value: line 1 column 12 (char 11)")) ∧
      ofAnswer "\x7dAYUDA\x7b" = .error (.unanswered .noObject) := by
  obtain ⟨hsurrounded, hunenclosed⟩ := ofAnswer_surrounded_and_unenclosed
  constructor
  · rw [hsurrounded "Claro\x7d:\n" "\x7b\"intent\": AYUDA\x7d" "\n\x7b listo" (by decide)
      ⟨by decide, by decide⟩ (by decide)]
    decide +kernel
  · rw [hunenclosed, ← enclosed?_eq_none_iff]
    decide

end Phrasebook.Classification
