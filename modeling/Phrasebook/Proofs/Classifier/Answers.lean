import Mathlib
import Phrasebook.Proofs.Detection.Asking
import Phrasebook.Proofs.JsonText.Reader
import Phrasebook.Proofs.Number
import Phrasebook.Proofs.Real64.Round

/-!
# What a model's answer is read as

A model may answer anything.  What holds no object, or no confidence beside a label, counts as no
answer; but a reader can also be asked too much of, and that ends the reading in another way.  A
confidence is brought between zero and one, which the undefined number escapes.
-/

namespace Phrasebook.Classification

variable {content : String} {entries : List (Key × Value)} {fault : Fault}

/-! ## Objects in an answer -/

theorem enclosed?_isInfix {content text : List Char} (henclosed : enclosed? content = some text) :
    text <:+: content := by
  unfold enclosed? at henclosed
  split at henclosed
  · cases henclosed
  · cases henclosed
    have hfront := List.dropWhile_suffix (l := content) (· != '\x7b')
    have hback := List.dropWhile_suffix
      (l := (content.dropWhile (· != '\x7b')).reverse) (· != '\x7d')
    have hprefix := List.reverse_prefix.mpr hback
    rw [List.reverse_reverse] at hprefix
    exact hprefix.isInfix.trans hfront.isInfix

/-- The answer has an object with these entries in it. -/
def Holds (content : String) (entries : List (Key × Value)) : Prop :=
  ∃ text, enclosed? content.toList = some text ∧ JsonText.read text = .ok (.mapping entries)

/-- What the entries say about the intent, as text. -/
def labelOf (entries : List (Key × Value)) : String :=
  trimmed ((Value.fieldOrNull "intent" entries).orElse (.text "")).written

/-- What the entries say about the confidence. -/
def confidenceOf (entries : List (Key × Value)) : Value :=
  Value.fieldOr "confidence" (.real .zero) entries

/-- The entries name an intent, and do not say that there is none. -/
def NamesIntent (entries : List (Key × Value)) : Prop :=
  labelOf entries ≠ "" ∧ lowered (labelOf entries) ≠ noLabel

theorem ofEntries_of_namesIntent (hnames : NamesIntent entries) :
    ofEntries entries = do
      return some ⟨.text (labelOf entries), .real (← readConfidence (confidenceOf entries))⟩ := by
  have hlabel : ((labelOf entries).isEmpty || lowered (labelOf entries) == noLabel) = false := by
    simpa [NamesIntent] using hnames
  unfold ofEntries
  dsimp only
  rw [← labelOf, hlabel]
  rfl

theorem ofEntries_of_not_namesIntent (hnames : ¬ NamesIntent entries) :
    ofEntries entries = .ok none := by
  have hlabel : ((labelOf entries).isEmpty || lowered (labelOf entries) == noLabel) = true := by
    simpa [NamesIntent, or_iff_not_imp_left] using hnames
  unfold ofEntries
  dsimp only
  rw [← labelOf, hlabel]
  rfl

theorem ofAnswer_of_holds (hholds : Holds content entries) :
    ofAnswer content = ofEntries entries := by
  obtain ⟨text, henclosed, hread⟩ := hholds
  rw [ofAnswer, henclosed]
  dsimp only
  rw [hread]

/-! ## Answers that ask too much -/

/-- A whole number that is too large to be a real number. -/
def TooLarge (value : Value) : Prop :=
  ∃ whole, value.number? = some (.int whole) ∧ 2 ^ 1024 ≤ whole.natAbs + 2 ^ 970

theorem toReal_of_number? {value : Value} {number : Number}
    (hnumber : value.number? = some number) : value.toReal = number.toReal := by
  cases value with
  | text written => cases hnumber
  | _ =>
    dsimp only [Value.toReal]
    rw [hnumber]

theorem toReal_of_tooLarge {value : Value} (hlarge : TooLarge value) :
    value.toReal = .error (.overflow .integerTooLarge) := by
  obtain ⟨whole, hwhole, hle⟩ := hlarge
  rw [toReal_of_number? hwhole, Number.toReal, Real64.ofInt?_eq_none_iff.mpr hle]
  rfl

theorem toReal_ne_overflow {value : Value} (hlarge : ¬ TooLarge value) (cause : Overflow) :
    value.toReal ≠ .error (.overflow cause) := by
  cases hnumber : value.number? with
  | none =>
      cases value with
      | text written =>
          rw [Value.toReal]
          cases Numeral.real? written <;> nofun
      | _ =>
        dsimp only [Value.toReal]
        rw [hnumber]
        nofun
  | some number =>
      rw [toReal_of_number? hnumber]
      cases number with
      | real sure => nofun
      | int whole =>
          have hsmall : Real64.ofInt? whole ≠ none := fun hnone =>
            hlarge ⟨whole, hnumber, Real64.ofInt?_eq_none_iff.mp hnone⟩
          obtain ⟨sure, hsure⟩ := Option.ne_none_iff_exists'.mp hsmall
          rw [Number.toReal, hsure]
          nofun

theorem readConfidence_of_tooLarge {value : Value} (hlarge : TooLarge value) :
    readConfidence value = .error (.overflow .integerTooLarge) := by
  rw [readConfidence, toReal_of_tooLarge hlarge]

theorem failsOnly_readConfidence {value : Value} (hlarge : ¬ TooLarge value) :
    FailsOnly Fault.IsUnanswered (readConfidence value) := by
  unfold readConfidence
  split
  · exact .ok _
  · rename_i cause hcause
    exact absurd hcause (toReal_ne_overflow hlarge cause)
  · exact FailsOnly.error_iff.mpr ⟨_, rfl⟩

/-- The answer ends its reading with a fault that is not the want of an answer: a whole number with
too many digits, containers too deep inside each other, or beside a label a confidence that is too
large. -/
inductive Overtaxes (content : String) : Fault → Prop
  | digits {text : List Char} {count : Nat} :
      enclosed? content.toList = some text →
      JsonText.read text = .error (.tooManyDigits count) →
      Overtaxes content (.invalid (.tooManyDigits count))
  | nesting {text : List Char} {container : JsonText.Container} :
      enclosed? content.toList = some text →
      JsonText.read text = .error (.tooDeep container) →
      Overtaxes content (.crash (.nesting container.name))
  | confidence {entries : List (Key × Value)} :
      Holds content entries → NamesIntent entries → TooLarge (confidenceOf entries) →
      Overtaxes content (.overflow .integerTooLarge)

theorem Overtaxes.not_isUnanswered (hovertaxes : Overtaxes content fault) :
    ¬ fault.IsUnanswered := by
  rintro ⟨cause, rfl⟩
  cases hovertaxes

theorem ofAnswer_of_overtaxes (hovertaxes : Overtaxes content fault) :
    ofAnswer content = .error fault := by
  cases hovertaxes with
  | digits henclosed hread =>
      rw [ofAnswer, henclosed]
      dsimp only
      rw [hread]
      rfl
  | nesting henclosed hread =>
      rw [ofAnswer, henclosed]
      dsimp only
      rw [hread]
  | confidence hholds hnames hlarge =>
      rw [ofAnswer_of_holds hholds, ofEntries_of_namesIntent hnames,
        readConfidence_of_tooLarge hlarge]
      rfl

/-- An answer is read for what it is, or counts as none, or overtaxes its reader. -/
theorem overtaxes_of_ofAnswer (hanswer : ofAnswer content = .error fault)
    (hother : ¬ fault.IsUnanswered) : Overtaxes content fault := by
  have hcount : ∀ cause, fault ≠ .unanswered cause := fun cause hcause => hother ⟨cause, hcause⟩
  have hread := hanswer
  unfold ofAnswer at hread
  split at hread
  · cases hread
    exact absurd rfl (hcount _)
  · rename_i text henclosed
    split at hread
    · rename_i entries hentries
      have hholds : Holds content entries := ⟨text, henclosed, hentries⟩
      by_cases hnames : NamesIntent entries
      · by_cases hlarge : TooLarge (confidenceOf entries)
        · rw [ofEntries_of_namesIntent hnames, readConfidence_of_tooLarge hlarge] at hread
          cases hread
          exact .confidence hholds hnames hlarge
        · rw [ofEntries_of_namesIntent hnames] at hread
          exact absurd ((failsOnly_readConfidence hlarge).bind (fun _ _ => .ok _) fault hread)
            hother
      · rw [ofEntries_of_not_namesIntent hnames] at hread
        cases hread
    · cases hread
      exact absurd rfl (hcount _)
    · cases hread
      exact absurd rfl (hcount _)
    · rename_i count hdigits
      cases hread
      exact .digits henclosed hdigits
    · rename_i container hdeep
      cases hread
      exact .nesting henclosed hdeep

theorem overtaxes_iff :
    Overtaxes content fault ↔ ofAnswer content = .error fault ∧ ¬ fault.IsUnanswered :=
  ⟨fun hovertaxes => ⟨ofAnswer_of_overtaxes hovertaxes, hovertaxes.not_isUnanswered⟩,
    fun ⟨hanswer, hother⟩ => overtaxes_of_ofAnswer hanswer hother⟩

theorem wholeWithin_confidenceOf {bound : Nat}
    (hwithin : ∀ entry ∈ entries, JsonText.WholeWithin bound entry.2) :
    JsonText.WholeWithin bound (confidenceOf entries) := by
  rw [confidenceOf, Value.fieldOr]
  cases hfield : Value.field? "confidence" entries with
  | none => exact fun whole hwhole => nomatch hwhole
  | some value =>
      obtain ⟨entry, hentry, heq⟩ := OrderedMap.exists_mem_of_get?_eq_some hfield
      exact heq ▸ hwithin entry hentry

/-- Short numbers and few brackets overtax no reader. -/
theorem not_overtaxes_of_digitsWithin (hdigits : JsonText.DigitsWithin 308 content.toList)
    (hopenings : JsonText.openings content.toList ≤ JsonText.deepest) :
    ¬ Overtaxes content fault := by
  have hshort : ∀ text, enclosed? content.toList = some text → JsonText.DigitsWithin 308 text :=
    fun text henclosed digits hrow => hdigits digits (hrow.trans (enclosed?_isInfix henclosed))
  intro hovertaxes
  cases hovertaxes with
  | digits henclosed hread =>
      obtain ⟨hlong, hcount⟩ := JsonText.count_le_of_read (hshort _ henclosed) hread
      exact absurd (hlong.trans_le hcount) (by decide)
  | nesting henclosed hread =>
      have hmany := JsonText.deepest_lt_openings_of_read hread
      have hle := (enclosed?_isInfix henclosed).sublist.countP_le
        (p := fun c => c == '\x7b' || c == '[')
      exact absurd (hmany.trans_le hle) (not_lt.mpr hopenings)
  | confidence hholds hnames hlarge =>
      obtain ⟨text, henclosed, hread⟩ := hholds
      obtain ⟨whole, hwhole, hle⟩ := hlarge
      have hwithin := JsonText.wholeWithin_of_read (hshort _ henclosed) hread
      have hsmall : whole.natAbs ≤ 10 ^ 308 := wholeWithin_confidenceOf hwithin whole hwhole
      omega

/-! ## Confidences -/

/-- The value is the undefined number, or a text that names it. -/
def IsUndefined (value : Value) : Prop :=
  value = .real .nan ∨ ∃ written, value = .text written ∧ Numeral.NamesUndefined written

theorem toReal_int_ne_nan (whole : Int) : (Number.int whole).toReal ≠ .ok .nan := by
  rw [Number.toReal, Real64.ofInt?]
  cases Real64.ofRatio (whole < 0) whole.natAbs 1 <;> rintro ⟨⟩

theorem toReal_eq_nan_iff {value : Value} : value.toReal = .ok .nan ↔ IsUndefined value := by
  constructor
  · intro hreal
    cases value with
    | text written =>
        rw [Value.toReal] at hreal
        split at hreal
        · rename_i sure hsure
          cases hreal
          exact .inr ⟨written, rfl, Numeral.real?_eq_nan_iff.mp hsure⟩
        · cases hreal
    | number number =>
        cases number with
        | int whole =>
            rw [toReal_of_number? rfl] at hreal
            exact absurd hreal (toReal_int_ne_nan whole)
        | real sure =>
            cases hreal
            exact .inl rfl
    | bool one =>
        rw [toReal_of_number? rfl] at hreal
        exact absurd hreal (toReal_int_ne_nan _)
    | _ => cases hreal
  · rintro (rfl | ⟨written, rfl, hnames⟩)
    · rfl
    · rw [Value.toReal, Numeral.real?_eq_nan_iff.mpr hnames]

/-- Only the undefined number is not brought between zero and one. -/
theorem isProbability_clamped {sure : Real64} (hsure : sure ≠ .nan) :
    IsProbability (.real (clamped sure)) := by
  have hdefined : (Number.real sure).IsDefined :=
    Number.isDefined_iff.mpr fun heq => hsure (Number.real.inj heq)
  refine ⟨_, rfl, ?_⟩
  rw [clamped]
  split
  · exact ⟨by decide +kernel, by decide +kernel⟩
  · rename_i hlow
    split
    · exact ⟨by decide +kernel, by decide +kernel⟩
    · rename_i hhigh
      exact ⟨Number.le_of_lt_eq_false rfl hdefined (Bool.eq_false_iff.mpr hlow),
        Number.le_of_lt_eq_false hdefined rfl (Bool.eq_false_iff.mpr hhigh)⟩

theorem not_isProbability_nan : ¬ IsProbability (.real .nan) := by
  rintro ⟨_, ⟨⟩, hle, -⟩
  exact absurd hle (by decide)

theorem clamped_eq_nan_iff {sure : Real64} : clamped sure = .nan ↔ sure = .nan := by
  constructor
  · intro hclamped
    by_contra hsure
    exact not_isProbability_nan (hclamped ▸ isProbability_clamped hsure)
  · rintro rfl
    rfl

/-- What an answer with a label was read from. -/
theorem exists_of_ofAnswer {answer : Classification}
    (hanswer : ofAnswer content = .ok (some answer)) :
    ∃ entries sure, Holds content entries ∧ NamesIntent entries ∧
      (confidenceOf entries).toReal = .ok sure ∧
        answer = ⟨.text (labelOf entries), .real (clamped sure)⟩ := by
  have hread := hanswer
  unfold ofAnswer at hread
  split at hread
  · cases hread
  · rename_i text henclosed
    split at hread
    · rename_i entries hentries
      have hholds : Holds content entries := ⟨text, henclosed, hentries⟩
      by_cases hnames : NamesIntent entries
      · rw [ofEntries_of_namesIntent hnames] at hread
        obtain ⟨confidence, hconfidence, hresult⟩ := bind_eq_ok_iff.mp hread
        unfold readConfidence at hconfidence
        split at hconfidence
        · rename_i sure hsure
          cases hconfidence
          cases hresult
          exact ⟨entries, sure, hholds, hnames, hsure, rfl⟩
        · cases hconfidence
        · cases hconfidence
      · rw [ofEntries_of_not_namesIntent hnames] at hread
        cases hread
    all_goals cases hread

end Phrasebook.Classification
