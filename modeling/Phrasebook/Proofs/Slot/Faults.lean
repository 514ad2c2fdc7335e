import Mathlib
import Phrasebook.Proofs.Slot.Coercion

/-!
# What coercing fails with

Coercing captured text can fail in several ways, but never in the way in which a classifier does.
So a detection that has no answer is one that asked a classifier for it.
-/

namespace Phrasebook

/-- The faults other than that a classifier has no answer. -/
@[simp]
def Fault.IsAnswered : Fault → Prop
  | .unanswered _ => False
  | _ => True

theorem FailsOnly.ne_unanswered {α : Type} {result : Except Fault α}
    (hresult : FailsOnly Fault.IsAnswered result) (cause : Unanswered) :
    result ≠ .error (.unanswered cause) :=
  fun hfails => hresult _ hfails

/-- A text is no instant because it breaks a rule or is out of range. -/
theorem Instant.failsOnly_ofText {kind : Fault → Prop} (hinvalid : ∀ cause, kind (.invalid cause))
    (hoverflow : ∀ cause, kind (.overflow cause)) (text : String) :
    FailsOnly kind (Instant.ofText text) := by
  have hmoment : ∀ moment : Moment,
      FailsOnly kind (moment.toInstant.mapError Fault.overflow) := by
    intro moment
    cases moment.toInstant <;> simp [Except.mapError, hoverflow]
  unfold ofText
  dsimp only
  split
  · exact hmoment _
  split
  · simp [hinvalid]
  split
  · exact hmoment _
  · simp [hinvalid]

namespace Slot

theorem failsOnly_reject {reason : String → Rejection} {limit : Value}
    {test : Value → Except Fault Bool} (htest : FailsOnly Fault.IsAnswered (test limit)) :
    FailsOnly Fault.IsAnswered (reject reason limit test) :=
  failsOnly_reject_iff.mpr (.inr ⟨htest, fun _ => trivial⟩)

theorem failsOnly_readString (minLength maxLength : Value) (change : Option CaseChange)
    (raw : String) : FailsOnly Fault.IsAnswered (readString minLength maxLength change raw) := by
  have hcount : FailsOnly Fault.IsAnswered (countOf maxLength) := by
    unfold countOf
    split <;> simp
  have hcut : ∀ text, FailsOnly Fault.IsAnswered (cutTo maxLength text) := by
    intro text
    unfold cutTo
    split
    · exact .ok text
    · refine .bind (Value.failsOnly_precedes trivial _ _ _) fun exceeds _ => ?_
      split
      · exact .bind hcount fun _ _ => .ok _
      · exact .ok text
  exact .bind (failsOnly_reject (Value.failsOnly_precedes trivial _ _ _)) fun _ _ =>
    .bind (hcut _) fun _ _ => .ok _

theorem failsOnly_readNumber (least greatest : Value) (raw : String) :
    FailsOnly Fault.IsAnswered (readNumber least greatest raw) := by
  unfold readNumber
  split
  · simp
  split
  · exact .bind (failsOnly_reject (Value.failsOnly_precedes trivial _ _ _)) fun _ _ =>
      .bind (failsOnly_reject (Value.failsOnly_precedes trivial _ _ _)) fun _ _ => .ok _
  · simp

theorem failsOnly_readDate (earliest latest : Value) (raw : String) :
    FailsOnly Fault.IsAnswered (readDate earliest latest raw) := by
  have hinstant : ∀ text, FailsOnly Fault.IsAnswered (Instant.ofText text) :=
    Instant.failsOnly_ofText (fun _ => trivial) fun _ => trivial
  have hlimit : ∀ limit, FailsOnly Fault.IsAnswered (dateLimit limit) := fun limit =>
    .bind (Value.failsOnly_toText trivial limit) fun text _ => hinstant text
  exact .bind (hinstant raw) fun _ _ =>
    .bind (failsOnly_reject (.bind (hlimit _) fun _ _ => .ok _)) fun _ _ =>
      .bind (failsOnly_reject (.bind (hlimit _) fun _ _ => .ok _)) fun _ _ => .ok _

theorem failsOnly_read (slot : Slot) (raw : String) :
    FailsOnly Fault.IsAnswered (slot.read raw) := by
  unfold read
  split
  · exact .bind (failsOnly_readString _ _ _ raw) fun _ _ => .ok _
  · exact .bind (failsOnly_readNumber _ _ raw) fun _ _ => .ok _
  · exact .bind (failsOnly_readBoolean (fun _ => trivial) raw) fun _ _ => .ok _
  · exact .bind (failsOnly_readDate _ _ raw) fun _ _ => .ok _

theorem failsOnly_deliver (slot : Slot) (captured : Value) :
    FailsOnly Fault.IsAnswered (slot.deliver captured) := by
  have htext : ∀ raw, FailsOnly Fault.IsAnswered (slot.coerceText raw) := by
    intro raw
    unfold coerceText
    split
    · exact .ok none
    · unfold orMissing
      split
      · exact .ok _
      · exact .ok none
      · rename_i fault _ hfault
        exact FailsOnly.error_iff.mpr (failsOnly_read slot raw fault hfault)
  have hcoerce : FailsOnly Fault.IsAnswered (slot.coerce captured) := by
    unfold coerce
    split
    · exact .ok none
    · exact .bind (captured.failsOnly_toText trivial) fun raw _ => htext raw
  refine .bind hcoerce fun value _ => ?_
  cases value <;> exact .ok _

end Slot

namespace Parameters

theorem failsOnly_declared (raw : Raw) (schema : Schema) :
    FailsOnly Fault.IsAnswered (declared raw schema) := by
  induction schema with
  | nil => exact .ok []
  | cons entry schema ih =>
      refine .bind (entry.2.failsOnly_deliver _) fun value _ => .bind ih fun others _ => ?_
      cases value <;> exact .ok _

theorem failsOnly_undeclared (schema : Schema) (raw : Raw) :
    FailsOnly Fault.IsAnswered (undeclared schema raw) := by
  induction raw with
  | nil => exact .ok []
  | cons entry raw ih =>
      unfold undeclared
      split
      · exact ih
      · refine .bind (entry.2.failsOnly_toText trivial) fun text _ => .bind ih fun others _ => ?_
        split <;> exact .ok _

/-- Making parameters of captured texts never ends for want of an answer. -/
theorem failsOnly_ofRaw (raw : Raw) (schema : Schema) :
    FailsOnly Fault.IsAnswered (ofRaw raw schema) :=
  .bind (failsOnly_declared raw schema) fun _ _ =>
    .bind (failsOnly_undeclared schema raw) fun _ _ => .ok _

end Parameters

end Phrasebook
