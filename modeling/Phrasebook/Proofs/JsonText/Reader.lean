import Mathlib
import Phrasebook.JsonText.Reader
import Phrasebook.Proofs.Fault
import Phrasebook.Proofs.Numeral
import Phrasebook.Proofs.OrderedMap

/-!
# What a reader can be asked too much of

A text of JSON is refused for a flaw, for a whole number with too many digits, or for containers too
deep inside each other.  The last two are in the text for all to see: as a row of digits, and as
brackets.  Neither does a whole number come out larger than a row of digits that is in the text.
-/

namespace Phrasebook.JsonText

/-! ## Rows of digits and brackets -/

/-- No row of digits in the text is longer than the bound. -/
def DigitsWithin (bound : Nat) (text : List Char) : Prop :=
  ∀ digits, digits <:+: text → (∀ c ∈ digits, c.isDigit = true) → digits.length ≤ bound

/-- How many brackets that open a container are in the text. -/
def openings (text : List Char) : Nat := text.countP fun c => c == '\x7b' || c == '['

theorem DigitsWithin.suffix {bound : Nat} {text rest : List Char}
    (hwithin : DigitsWithin bound text) (hrest : rest <:+ text) : DigitsWithin bound rest :=
  fun digits hdigits => hwithin digits (hdigits.trans hrest.isInfix)

theorem openings_le {text rest : List Char} (hrest : rest <:+ text) :
    openings rest ≤ openings text := hrest.sublist.countP_le

/-- A value that counts as a whole number has no more digits than the bound. -/
def WholeWithin (bound : Nat) (value : Value) : Prop :=
  ∀ whole, value.number? = some (.int whole) → whole.natAbs ≤ 10 ^ bound

/-- A value and the entries of a mapping. -/
structure IsWithin (bound : Nat) (value : Value) : Prop where
  whole : WholeWithin bound value
  entries : ∀ entries, value = .mapping entries → ∀ entry ∈ entries, WholeWithin bound entry.2

theorem isWithin_mapping {bound : Nat} {entries : List (Key × Value)}
    (hentries : ∀ entry ∈ entries, WholeWithin bound entry.2) :
    IsWithin bound (.mapping entries) := by
  refine ⟨nofun, ?_⟩
  rintro _ ⟨⟩
  exact hentries

/-- What reading from the start of a text comes to.  What is left is a later part of the text; what
is refused for its digits has a row of them, and what is refused for its depth more brackets than
there was room for. -/
structure Reads {α : Type} (good : α → Prop) (bound room : Nat) (text : List Char)
    (result : Except Refusal (α × Place)) : Prop where
  rest : ∀ value after, result = .ok (value, after) → after.rest <:+ text
  good : ∀ value after, result = .ok (value, after) → good value
  digits : ∀ count, result = .error (.tooManyDigits count) →
    Numeral.longest < count ∧ count ≤ bound
  depth : ∀ container, result = .error (.tooDeep container) → room < openings text

namespace Reads

variable {α β : Type} {good : α → Prop} {better : β → Prop} {bound room : Nat}
  {text later : List Char} {result : Except Refusal (α × Place)}

theorem refuse (flaw : Flaw) (position : Nat) :
    Reads good bound room text (JsonText.refuse flaw position) := by
  constructor <;> nofun

theorem ok {value : α} {after : Place} (hafter : after.rest <:+ text) (hgood : good value) :
    Reads good bound room text (.ok (value, after)) := by
  refine ⟨?_, ?_, nofun, nofun⟩
  · rintro _ _ ⟨⟩
    exact hafter
  · rintro _ _ ⟨⟩
    exact hgood

theorem of_later (hreads : Reads good bound room later result) (hlater : later <:+ text) :
    Reads good bound room text result where
  rest := fun value after hok => (hreads.rest value after hok).trans hlater
  good := hreads.good
  digits := hreads.digits
  depth := fun container hdeep => (hreads.depth container hdeep).trans_le (openings_le hlater)

/-- Reading inside a container that is there to be opened. -/
theorem opened {c : Char} (hopens : c = '\x7b' ∨ c = '[')
    (hlater : later <:+ text) (hreads : Reads good bound (room - 1) later result) :
    Reads good bound room (c :: text) result where
  rest := fun value after hok =>
    ((hreads.rest value after hok).trans hlater).trans (List.suffix_cons c text)
  good := hreads.good
  digits := hreads.digits
  depth := by
    intro container hdeep
    have hinner := (hreads.depth container hdeep).trans_le (openings_le hlater)
    have hcount : openings (c :: text) = openings text + 1 :=
      List.countP_cons_of_pos (by rcases hopens with rfl | rfl <;> rfl)
    omega

theorem tooDeep {c : Char} (hopens : c = '\x7b' ∨ c = '[') (container : Container) :
    Reads good bound 0 (c :: text) (.error (.tooDeep container)) := by
  refine ⟨nofun, nofun, nofun, fun _ _ => ?_⟩
  exact List.countP_pos_iff.mpr ⟨c, List.mem_cons_self, by rcases hopens with rfl | rfl <;> rfl⟩

theorem bind {next : α × Place → Except Refusal (β × Place)}
    (hreads : Reads good bound room text result)
    (hnext : ∀ value after, good value → after.rest <:+ text →
      Reads better bound room text (next (value, after))) :
    Reads better bound room text (result >>= next) := by
  cases result with
  | error refusal =>
      refine ⟨nofun, nofun, ?_, ?_⟩
      · rintro count ⟨⟩
        exact hreads.digits count rfl
      · rintro container ⟨⟩
        exact hreads.depth container rfl
  | ok read =>
      obtain ⟨value, after⟩ := read
      exact hnext value after (hreads.good value after rfl) (hreads.rest value after rfl)

theorem map (f : α → β) (hgood : ∀ value, good value → better (f value))
    (hreads : Reads good bound room text result) :
    Reads better bound room text (result.map fun read => (f read.1, read.2)) := by
  cases result with
  | error refusal =>
      refine ⟨nofun, nofun, ?_, ?_⟩
      · rintro count ⟨⟩
        exact hreads.digits count rfl
      · rintro container ⟨⟩
        exact hreads.depth container rfl
  | ok read => exact ok (hreads.rest _ _ rfl) (hgood _ (hreads.good _ _ rfl))

end Reads

/-! ## Tokens -/

theorem skipFrom_suffix (position : Nat) (text : List Char) :
    (skipFrom position text).rest <:+ text := by
  induction text generalizing position with
  | nil => exact List.suffix_rfl
  | cons c rest ih =>
      rw [skipFrom]
      split
      · exact (ih (position + 1)).trans (List.suffix_cons c rest)
      · exact List.suffix_rfl

theorem skip_suffix (place : Place) : place.skip.rest <:+ place.rest :=
  skipFrom_suffix place.position place.rest

theorem suffix_of_skip {place : Place} {c : Char} {others : List Char}
    (hskip : place.skip.rest = c :: others) : others <:+ place.rest :=
  (List.suffix_cons c others).trans (hskip ▸ skip_suffix place)

/-- The place behind a character and the space after it. -/
theorem skip_suffix_of_skip {place : Place} {c : Char} {others : List Char}
    (hskip : place.skip.rest = c :: others) (position : Nat) :
    (Place.mk position others).skip.rest <:+ place.rest :=
  (skip_suffix _).trans (suffix_of_skip hskip)

theorem spanDigits_append (text : List Char) :
    (Numeral.spanDigits text).1 ++ (Numeral.spanDigits text).2 = text :=
  List.takeWhile_append_dropWhile

variable {bound room : Nat}

/-- Escapes have no fault but flaws. -/
theorem exists_flaw_of_readLowUnit {position : Nat} {text : List Char} {refusal : Refusal}
    (hread : readLowUnit position text = .error refusal) :
    ∃ flaw place, refusal = .flaw flaw place := by
  unfold readLowUnit at hread
  split at hread
  · split at hread
    · split at hread
      · cases hread
        exact ⟨_, _, rfl⟩
      · cases hread
    · cases hread
  · cases hread

theorem exists_flaw_of_readCode {position : Nat} {text : List Char} {refusal : Refusal}
    (hread : readCode position text = .error refusal) :
    ∃ flaw place, refusal = .flaw flaw place := by
  unfold readCode at hread
  split at hread
  · split at hread
    · cases hread
      exact ⟨_, _, rfl⟩
    · split at hread
      · cases hlow : readLowUnit position _ with
        | error low =>
            rw [hlow] at hread
            cases hread
            exact exists_flaw_of_readLowUnit hlow
        | ok low =>
            rw [hlow] at hread
            cases low <;> cases hread
      · cases hread
  · cases hread
    exact ⟨_, _, rfl⟩

theorem reads_readString (start position : Nat) (text : List Char) :
    Reads (fun _ => True) bound room text (readString start position text) := by
  fun_induction readString start position text with
  | case1 => exact .refuse _ _
  | case2 => exact .ok (List.suffix_cons _ _) trivial
  | case3 => exact .refuse _ _
  | case4 position more _ ih =>
      cases hcode : readCode (position + 1) more with
      | error refusal =>
          obtain ⟨flaw, place, rfl⟩ := exists_flaw_of_readCode hcode
          exact .refuse flaw place
      | ok code =>
          refine ((ih code.2).map (code.1 :: ·) fun _ _ => trivial).of_later ?_
          exact (List.drop_suffix code.2 more).trans ⟨[Text.backslash, 'u'], rfl⟩
  | case5 position letter more _ decoded _ _ ih =>
      exact (ih.map (decoded :: ·) fun _ _ => trivial).of_later ⟨[Text.backslash, letter], rfl⟩
  | case6 => exact .refuse _ _
  | case7 => exact .refuse _ _
  | case8 position c rest _ _ _ ih =>
      exact (ih.map (c :: ·) fun _ _ => trivial).of_later (List.suffix_cons c rest)

theorem reads_readWord? {place : Place} {found : Value × Place}
    (hfound : readWord? place = some found) :
    Reads (IsWithin bound) bound room place.rest (.ok found) := by
  obtain ⟨word, hfind, rfl⟩ := Option.map_eq_some_iff.mp hfound
  have hword := List.mem_of_find?_eq_some hfind
  have hwords : ∀ word ∈ words, ∀ whole, word.2.number? = some (.int whole) →
      whole.natAbs ≤ 1 := by
    simp [words, Value.number?, Value.real]
  have hsingle : ∀ word ∈ words, ∀ entries, word.2 ≠ .mapping entries := by
    simp [words, Value.real]
  exact .ok (List.drop_suffix _ _) ⟨fun whole hwhole =>
    (hwords word hword whole hwhole).trans (Nat.one_le_pow' bound 9),
    fun entries hentries => absurd hentries (hsingle word hword entries)⟩

theorem exists_spanSign (text : List Char) :
    ∃ negative : Bool, (spanSign text).1 = (if negative then ['-'] else []) ∧
      (spanSign text).1 ++ (spanSign text).2 = text := by
  unfold spanSign
  split
  · exact ⟨true, rfl, rfl⟩
  · exact ⟨false, rfl, rfl⟩

theorem spanWhole_append (text : List Char) :
    (spanWhole text).1 ++ (spanWhole text).2 = text := by
  unfold spanWhole
  split
  · rfl
  · exact spanDigits_append text

theorem isDigit_of_mem_spanWhole {text : List Char} :
    ∀ c ∈ (spanWhole text).1, c.isDigit = true := by
  unfold spanWhole
  split
  · simp
  · exact fun c hc => List.mem_takeWhile_imp hc

theorem spanFraction_append (text : List Char) :
    (spanFraction text).1 ++ (spanFraction text).2 = text := by
  unfold spanFraction
  split
  · rename_i rest
    have hparts := spanDigits_append rest
    split
    · rfl
    · rename_i hspan
      rw [hspan] at hparts
      exact congrArg ('.' :: ·) hparts
  · rfl

theorem spanExponent_append (text : List Char) :
    (spanExponent text).1 ++ (spanExponent text).2 = text := by
  unfold spanExponent
  split
  · rename_i mark rest
    split
    · split
      rename_i sign unsigned hsign
      have hrest : sign ++ unsigned = rest := by
        split at hsign <;>
          · cases hsign
            rfl
      split
      · rfl
      · rename_i digits others _ hspan
        have hdigits := spanDigits_append unsigned
        rw [hspan] at hdigits
        rw [← hrest, ← hdigits]
        simp
    · rfl
  · rfl

/-- A numeral without a point and an exponent is refused only for its digits, and the number it
writes is no larger than they allow. -/
theorem reads_numberOf {digits tail rest : List Char} (hdigits : ∀ c ∈ digits, c.isDigit = true)
    (hne : digits ≠ []) (hwithin : digits.length ≤ bound) (negative real : Bool)
    (htail : real = false → tail = []) {text : List Char} (hrest : rest <:+ text)
    (position : Nat) :
    Reads (IsWithin bound) bound room text
      ((numberOf ((if negative then ['-'] else []) ++ digits ++ tail) real).map fun value =>
        (value, ⟨position, rest⟩)) := by
  cases real with
  | true =>
      refine .ok hrest ⟨?_, nofun⟩
      rintro whole ⟨⟩
  | false =>
      have hnumber := Numeral.wholeOf_digits hdigits hne negative
      rw [htail rfl, List.append_nil, numberOf, if_neg Bool.false_ne_true, hnumber]
      by_cases hlong : Numeral.longest < digits.length
      · rw [if_pos hlong]
        refine ⟨nofun, nofun, ?_, nofun⟩
        rintro count ⟨⟩
        exact ⟨hlong, hwithin⟩
      · rw [if_neg hlong]
        refine .ok hrest ⟨?_, nofun⟩
        rintro whole ⟨⟩
        have hlt := Numeral.natOfDigits_lt hdigits 0
        have hle : 10 ^ digits.length ≤ 10 ^ bound := Nat.pow_le_pow_right (by decide) hwithin
        cases negative <;> simp <;> omega

theorem reads_readNumber {place : Place} (hwithin : DigitsWithin bound place.rest) :
    Reads (IsWithin bound) bound room place.rest (readNumber place) := by
  obtain ⟨negative, hsign, hunsigned⟩ := exists_spanSign place.rest
  have hwhole := spanWhole_append (spanSign place.rest).2
  have hfraction := spanFraction_append (spanWhole (spanSign place.rest).2).2
  have hexponent := spanExponent_append (spanFraction (spanWhole (spanSign place.rest).2).2).2
  have hlater : (spanSign place.rest).2 <:+ place.rest := ⟨_, hunsigned⟩
  have hrow : (spanWhole (spanSign place.rest).2).1 <:+: place.rest :=
    List.IsInfix.trans (List.IsPrefix.isInfix ⟨_, hwhole⟩) hlater.isInfix
  have hrest : (spanExponent (spanFraction (spanWhole (spanSign place.rest).2).2).2).2 <:+
      place.rest := by
    refine List.IsSuffix.trans ⟨_, hexponent⟩ (List.IsSuffix.trans ⟨_, hfraction⟩ ?_)
    exact List.IsSuffix.trans ⟨_, hwhole⟩ hlater
  unfold readNumber
  dsimp only
  split
  · exact .refuse _ _
  · rename_i hne
    rw [hsign, List.append_assoc]
    refine reads_numberOf isDigit_of_mem_spanWhole (by simpa using hne)
      (hwithin _ hrow isDigit_of_mem_spanWhole) negative _ ?_ hrest _
    intro hreal
    simpa using hreal

/-! ## Values -/

/-- What reading with some fuel comes to, from whichever place on. -/
structure ReadsAll (bound fuel : Nat) : Prop where
  value : ∀ room place, DigitsWithin bound place.rest →
    Reads (IsWithin bound) bound room place.rest (readValue fuel room place)
  entries : ∀ room written place, DigitsWithin bound place.rest →
    (∀ entry ∈ written, WholeWithin bound entry.2) →
      Reads (fun entries => ∀ entry ∈ entries, WholeWithin bound entry.2) bound room place.rest
        (readEntries fuel room written place)
  items : ∀ room place, DigitsWithin bound place.rest →
    Reads (fun _ => True) bound room place.rest (readItems fuel room place)

section Step

variable {fuel : Nat} (hall : ReadsAll bound fuel) {place : Place}
  (hwithin : DigitsWithin bound place.rest)

include hall hwithin

theorem reads_readValue_succ (room : Nat) :
    Reads (IsWithin bound) bound room place.rest (readValue (fuel + 1) room place) := by
  rw [readValue]
  split
  · exact .refuse _ _
  · rename_i c rest hrest
    rw [hrest] at hwithin ⊢
    have htail : rest <:+ c :: rest := List.suffix_cons c rest
    have hinner : (Place.mk (place.position + 1) rest).skip.rest <:+ rest := skip_suffix _
    have hinside := (hwithin.suffix htail).suffix hinner
    dsimp only
    split
    · refine Reads.of_later ?_ htail
      exact (reads_readString _ _ rest).bind fun characters after _ hafter =>
        .ok hafter ⟨nofun, nofun⟩
    · split
      · rename_i hopens
        split
        · rename_i hroom
          rw [hroom]
          exact .tooDeep (.inl hopens) _
        · split
          · rename_i others hclosed
            exact .ok ((suffix_of_skip hclosed).trans htail)
              (isWithin_mapping (List.forall_mem_nil _))
          · exact .opened (.inl hopens) hinner
              ((hall.entries (room - 1) [] _ hinside nofun).bind fun entries after hgood hafter =>
                .ok hafter (isWithin_mapping hgood))
      · split
        · rename_i hopens
          split
          · rename_i hroom
            rw [hroom]
            exact .tooDeep (.inr hopens) _
          · split
            · rename_i others hclosed
              exact .ok ((suffix_of_skip hclosed).trans htail) ⟨nofun, nofun⟩
            · exact .opened (.inr hopens) hinner
                ((hall.items (room - 1) _ hinside).bind fun items after _ hafter =>
                  .ok hafter ⟨nofun, nofun⟩)
        · split
          · rename_i found hfound
            rw [← hrest]
            exact reads_readWord? hfound
          · rw [← hrest] at hwithin ⊢
            exact reads_readNumber hwithin

theorem reads_readEntries_succ (room : Nat) {written : List (Key × Value)}
    (hwritten : ∀ entry ∈ written, WholeWithin bound entry.2) :
    Reads (fun entries => ∀ entry ∈ entries, WholeWithin bound entry.2) bound room place.rest
      (readEntries (fuel + 1) room written place) := by
  rw [readEntries]
  split
  · rename_i c rest hrest
    rw [hrest] at hwithin ⊢
    have htail : rest <:+ c :: rest := List.suffix_cons c rest
    split
    · refine Reads.of_later ?_ htail
      refine (reads_readString _ _ rest).bind fun name afterName _ hname => ?_
      dsimp only
      split
      · rename_i others hcolon
        have hplace := (skip_suffix_of_skip hcolon (afterName.skip.position + 1)).trans hname
        refine ((hall.value room _ ((hwithin.suffix htail).suffix hplace)).of_later hplace).bind
          fun value afterValue hvalue hafter => ?_
        have hentries : ∀ entry ∈ OrderedMap.insert (.text (String.ofList name)) value written,
            True ∧ WholeWithin bound entry.2 :=
          OrderedMap.forall_mem_insert (P := fun _ => True) trivial hvalue.whole
            fun entry hentry => ⟨trivial, hwritten entry hentry⟩
        dsimp only
        split
        · rename_i closed hclosed
          exact .ok ((suffix_of_skip hclosed).trans hafter) fun entry hentry =>
            (hentries entry hentry).2
        · rename_i more hcomma
          have hmore :=
            (skip_suffix_of_skip hcomma (afterValue.skip.position + 1)).trans hafter
          exact (hall.entries room _ _ ((hwithin.suffix htail).suffix hmore) fun entry hentry =>
            (hentries entry hentry).2).of_later hmore
        · exact .refuse _ _
      · exact .refuse _ _
    · exact .refuse _ _
  · exact .refuse _ _

theorem reads_readItems_succ (room : Nat) :
    Reads (fun _ => True) bound room place.rest (readItems (fuel + 1) room place) := by
  rw [readItems]
  refine (hall.value room place hwithin).bind fun value afterValue _ hafter => ?_
  dsimp only
  split
  · rename_i others hclosed
    exact .ok ((suffix_of_skip hclosed).trans hafter) trivial
  · rename_i others hcomma
    have hothers := (skip_suffix_of_skip hcomma (afterValue.skip.position + 1)).trans hafter
    refine Reads.of_later ?_ hothers
    exact (hall.items room _ (hwithin.suffix hothers)).bind fun items after _ hitems =>
      .ok hitems trivial
  · exact .refuse _ _

end Step

theorem readsAll (bound fuel : Nat) : ReadsAll bound fuel := by
  induction fuel with
  | zero =>
      exact ⟨fun _ _ _ => .refuse _ _, fun _ _ _ _ _ => .refuse _ _, fun _ _ _ => .refuse _ _⟩
  | succ fuel ih =>
      exact ⟨fun room _ hwithin => reads_readValue_succ ih hwithin room,
        fun room _ _ hwithin hwritten => reads_readEntries_succ ih hwithin room hwritten,
        fun room _ hwithin => reads_readItems_succ ih hwithin room⟩

theorem exists_readValue_of_read {text : List Char} {value : Value}
    (hread : read text = .ok value) :
    ∃ after, readValue (enoughFuel text) deepest (skipFrom 0 text) = .ok (value, after) := by
  obtain ⟨⟨found, after⟩, hfound, hrest⟩ := bind_eq_ok_iff.mp hread
  dsimp only at hrest
  split at hrest
  · cases hrest
    exact ⟨after, hfound⟩
  · cases hrest

/-- What is behind a value can only be a flaw. -/
theorem readValue_of_read {text : List Char} {refusal : Refusal}
    (hread : read text = .error refusal)
    (hflaw : ∀ flaw position, refusal ≠ .flaw flaw position) :
    readValue (enoughFuel text) deepest (skipFrom 0 text) = .error refusal := by
  rw [read] at hread
  cases hvalue : readValue (enoughFuel text) deepest (skipFrom 0 text) with
  | error found =>
      rw [hvalue] at hread
      cases hread
      rfl
  | ok found =>
      rw [hvalue] at hread
      change ite _ _ _ = _ at hread
      split at hread
      · cases hread
      · cases hread
        exact absurd rfl (hflaw _ _)

theorem reads_read {text : List Char} (hwithin : DigitsWithin bound text) :
    Reads (IsWithin bound) bound deepest text
      (readValue (enoughFuel text) deepest (skipFrom 0 text)) :=
  ((readsAll bound (enoughFuel text)).value deepest _
    (hwithin.suffix (skipFrom_suffix 0 text))).of_later (skipFrom_suffix 0 text)

/-- A whole number that a text holds under a name has no more digits than stand in a row. -/
theorem wholeWithin_of_read {text : List Char} (hwithin : DigitsWithin bound text)
    {entries : List (Key × Value)} (hread : read text = .ok (.mapping entries)) :
    ∀ entry ∈ entries, WholeWithin bound entry.2 := by
  obtain ⟨after, hvalue⟩ := exists_readValue_of_read hread
  exact ((reads_read hwithin).good _ after hvalue).entries entries rfl

/-- A text is refused for its digits only if so many stand in a row. -/
theorem count_le_of_read {text : List Char} (hwithin : DigitsWithin bound text) {count : Nat}
    (hread : read text = .error (.tooManyDigits count)) :
    Numeral.longest < count ∧ count ≤ bound :=
  (reads_read hwithin).digits count (readValue_of_read hread nofun)

/-- A text is refused for its depth only if it has more brackets than a reader can open. -/
theorem deepest_lt_openings_of_read {text : List Char} {container : Container}
    (hread : read text = .error (.tooDeep container)) : deepest < openings text := by
  have hwithin : DigitsWithin text.length text := fun _ hdigits _ => hdigits.length_le
  exact (reads_read hwithin).depth container (readValue_of_read hread nofun)

end Phrasebook.JsonText
