import Mathlib
import Phrasebook.Classifier.Chat
import Phrasebook.Proofs.Fault

/-!
# Requests, pauses and retries

A message is sent again as long as it is lost in transit and retries are left, with a pause before
each new request.  A lost request costs one reply and one pause, so a run of them is told by its
length, and the reply that ends it decides alone.  A pause that is doubled too often for a real
number ends the run as well, although the client might still have answered.
-/

namespace Phrasebook

/-! ## Pauses -/

namespace Number

/-- A number doubled a number of times.  What grows beyond the reals is infinite. -/
def doubled (times : Nat) : Number → Number
  | .int value => .int (value * 2 ^ times)
  | .real value => .real (value.scaled times)

/-- Whole numbers are doubled without end, reals as often as the factor is a real number. -/
def Doubles (times : Nat) : Number → Prop
  | .int _ => True
  | .real _ => times < 1024

/-- The pauses between the requests when so many of them were lost; only a positive backoff makes
any. -/
def pauses (backoff : Number) (lost : Nat) : List Number :=
  if (Number.int 0).lt backoff then (List.range lost).map fun index => backoff.doubled index
  else []

theorem pauses_succ (backoff : Number) (lost : Nat) :
    backoff.pauses (lost + 1) =
      backoff.pauses lost ++ if (Number.int 0).lt backoff then [backoff.doubled lost] else [] := by
  rw [pauses, pauses]
  split
  · rw [List.range_succ, List.map_append, List.map_singleton]
  · rfl

theorem extent?_zero : (Number.int 0).extent? = some (.steps 0) := by
  rw [extent?, zero_mul]

theorem zero_lt_int_iff {value : Int} : (Number.int 0).lt (.int value) = true ↔ 0 < value := by
  have hone : (0 : Int) < Real64.one := by decide +kernel
  rw [lt, extent?_zero, extent?]
  simp only [Extent.lt, decide_eq_true_eq]
  exact mul_pos_iff_of_pos_right hone

theorem zero_lt_real_iff {value : Real64} :
    (Number.int 0).lt (.real value) = true ↔
      value = .infinite false ∨ ∃ steps, 0 < steps ∧ value = .finite false steps := by
  rw [lt, extent?_zero]
  cases value with
  | nan => simp [extent?]
  | infinite negative => cases negative <;> simp [extent?, Extent.lt]
  | finite negative steps => cases negative <;> simp [extent?, Extent.lt, Real64.signed]

/-- Doubling leaves a number on its side of zero. -/
theorem zero_lt_doubled (backoff : Number) (times : Nat) :
    (Number.int 0).lt (backoff.doubled times) = (Number.int 0).lt backoff := by
  have hfactor : 0 < 2 ^ times := Nat.two_pow_pos times
  rw [Bool.eq_iff_iff]
  cases backoff with
  | int value =>
      rw [doubled, zero_lt_int_iff, zero_lt_int_iff]
      exact mul_pos_iff_of_pos_right (pow_pos (by decide) times)
  | real value =>
      rw [doubled, zero_lt_real_iff, zero_lt_real_iff]
      cases value with
      | nan => rfl
      | infinite negative => rfl
      | finite negative steps =>
          rw [Real64.scaled, Real64.ofSteps]
          split
          · rename_i hover
            have hsteps : 0 < steps := by
              refine Nat.pos_of_ne_zero fun hzero => ?_
              rw [hzero, Nat.zero_mul] at hover
              exact absurd hover (by decide +kernel)
            simp [hsteps]
          · simp [hfactor, and_comm]

end Number

namespace Chat

variable {chat : Chat} {sent : ChatRequest} {backoff : Number}

theorem pauseAfter_of_doubles {value : Value} (hvalue : value.number? = some backoff)
    {attempt : Nat} (hdoubles : backoff.Doubles attempt) :
    pauseAfter value attempt = .ok (backoff.doubled attempt) := by
  rw [pauseAfter, hvalue]
  cases backoff with
  | int base => simp [Number.doubled]
  | real base => exact if_pos hdoubles

theorem pauseAfter_of_not_doubles {value : Value} (hvalue : value.number? = some backoff)
    {attempt : Nat} (hdoubles : ¬ backoff.Doubles attempt) :
    pauseAfter value attempt = .error (.overflow .integerTooLarge) := by
  rw [pauseAfter, hvalue]
  cases backoff with
  | int base => exact absurd trivial hdoubles
  | real base => exact if_neg hdoubles

/-! ## Replies -/

/-- The reply to a request, by the number of requests before it; the last reply is given again and
again. -/
def nthReply : List ChatReply → Nat → ChatReply
  | [], _ => .noContent
  | [reply], _ => reply
  | reply :: _ :: _, 0 => reply
  | _ :: next :: others, index + 1 => nthReply (next :: others) index

/-- The reply to the request that follows so many others. -/
def replyAt (chat : Chat) (index : Nat) : ChatReply := nthReply chat.replies index

/-- Any replies to a number of requests in a row are those of some client. -/
theorem exists_nthReply (replies : Nat → ChatReply) (count : Nat) :
    ∃ list, ∀ index ≤ count, nthReply list index = replies index := by
  induction count generalizing replies with
  | zero => exact ⟨[replies 0], fun index hindex => by rw [Nat.le_zero.mp hindex]; rfl⟩
  | succ count ih =>
      obtain ⟨list, hlist⟩ := ih fun index => replies (index + 1)
      cases list with
      | nil =>
          refine ⟨[replies 0, .noContent], fun index hindex => ?_⟩
          cases index with
          | zero => rfl
          | succ index => exact hlist index (Nat.le_of_succ_le_succ hindex)
      | cons next others =>
          refine ⟨replies 0 :: next :: others, fun index hindex => ?_⟩
          cases index with
          | zero => rfl
          | succ index => exact hlist index (Nat.le_of_succ_le_succ hindex)

/-- `later` is the client when it was sent a request so many times and has paused. -/
structure Spends (chat later : Chat) (sent : ChatRequest) (count : Nat) (pauses : List Number) :
    Prop where
  requests : later.requests = chat.requests ++ List.replicate count sent
  pauses : later.pauses = chat.pauses ++ pauses
  replies : ∀ index, later.replyAt index = chat.replyAt (count + index)
  backoff : later.backoff = chat.backoff

theorem Spends.refl (chat : Chat) (sent : ChatRequest) : chat.Spends chat sent 0 [] where
  requests := (List.append_nil _).symm
  pauses := (List.append_nil _).symm
  replies := fun index => by rw [Nat.zero_add]
  backoff := rfl

theorem Spends.trans {first later last : Chat} {count more : Nat} {pauses others : List Number}
    (hfirst : first.Spends later sent count pauses) (hlater : later.Spends last sent more others) :
    first.Spends last sent (count + more) (pauses ++ others) where
  requests := by
    rw [hlater.requests, hfirst.requests, List.append_assoc, List.replicate_append_replicate]
  pauses := by rw [hlater.pauses, hfirst.pauses, List.append_assoc]
  replies := fun index => by rw [hlater.replies, hfirst.replies, Nat.add_assoc]
  backoff := hlater.backoff.trans hfirst.backoff

theorem request_fst (chat : Chat) (sent : ChatRequest) :
    (chat.request sent).1 = chat.replyAt 0 := by
  rw [request, replyAt]
  cases chat.replies with
  | nil => rfl
  | cons reply others => cases others <;> rfl

/-- A request takes one reply, unless that is the last one. -/
theorem spends_request (chat : Chat) (sent : ChatRequest) :
    chat.Spends (chat.request sent).2 sent 1 [] := by
  obtain ⟨model, retries, backoff, replies, requests, pauses⟩ := chat
  have hnone : pauses = pauses ++ [] := (List.append_nil pauses).symm
  have hindex : ∀ index, 1 + index = index + 1 := Nat.add_comm 1
  rcases replies with _ | ⟨reply, _ | ⟨next, others⟩⟩
  · exact ⟨rfl, hnone, fun index => rfl, rfl⟩
  · exact ⟨rfl, hnone, fun index => by rw [hindex]; rfl, rfl⟩
  · exact ⟨rfl, hnone, fun index => by rw [hindex]; rfl, rfl⟩

/-! ## Attempts -/

theorem exists_pause {attempt : Nat} (hbackoff : chat.backoff.number? = some backoff)
    (hdoubles : backoff.Doubles attempt) (sent : ChatRequest) :
    ∃ rested, chat.pause attempt = .ok rested ∧ chat.Spends rested sent 0
      (if (Number.int 0).lt backoff then [backoff.doubled attempt] else []) := by
  rw [pause, pauseAfter_of_doubles hbackoff hdoubles]
  refine ⟨_, rfl, ?_⟩
  rw [Number.zero_lt_doubled]
  split
  · exact ⟨(List.append_nil _).symm, rfl, fun index => by rw [Nat.zero_add]; rfl, rfl⟩
  · exact .refl chat sent

/-- What a lost request leads to: with no attempt left to giving up, else to a pause. -/
theorem attempts_of_undelivered (hlost : chat.replyAt 0 = .undelivered) (left attempt : Nat) :
    attempts sent (left + 1) attempt chat =
      if left = 0 then
        (.error (.unanswered (.exhausted (attempt + 1))), (chat.request sent).2)
      else
        match (chat.request sent).2.pause attempt with
        | .ok rested => attempts sent left (attempt + 1) rested
        | .error fault => (.error fault, (chat.request sent).2) := by
  have hreply := (chat.request_fst sent).trans hlost
  rw [attempts]
  generalize chat.request sent = reached at hreply ⊢
  obtain ⟨reply, rested⟩ := reached
  cases hreply
  rfl

/-- A reply that arrived decides. -/
theorem attempts_of_delivered (harrived : chat.replyAt 0 ≠ .undelivered) (left attempt : Nat) :
    attempts sent (left + 1) attempt chat =
      (answerOf sent.user (chat.replyAt 0), (chat.request sent).2) := by
  rw [attempts, ← chat.request_fst sent] at *
  split
  · rename_i asked hreply
    exact absurd (congrArg Prod.fst hreply) harrived
  · rename_i reply asked _ hreply
    rw [hreply]

/-- A run of lost requests with attempts left behind it: all of them were sent, with the pauses
after them, and the attempts go on from there. -/
theorem exists_attempts_of_lost (hbackoff : chat.backoff.number? = some backoff) {lost : Nat}
    (hlost : ∀ index < lost, chat.replyAt index = .undelivered)
    (hdoubles : ∀ index < lost, backoff.Doubles index) (sent : ChatRequest) (left : Nat) :
    ∃ rested, attempts sent (left + 1 + lost) 0 chat = attempts sent (left + 1) lost rested ∧
      chat.Spends rested sent lost (backoff.pauses lost) := by
  induction lost generalizing left with
  | zero =>
      refine ⟨chat, rfl, ?_⟩
      have hnone : backoff.pauses 0 = [] := by simp [Number.pauses]
      rw [hnone]
      exact .refl chat sent
  | succ lost ih =>
      -- one attempt more is left behind the shorter run, and that one is lost as well
      obtain ⟨rested, hattempts, hspends⟩ := ih (fun index hindex => hlost index (by omega))
        (fun index hindex => hdoubles index (by omega)) (left + 1)
      have hnext : rested.replyAt 0 = .undelivered := by
        rw [hspends.replies]
        exact hlost lost (Nat.lt_succ_self lost)
      have hsent := hspends.trans (rested.spends_request sent)
      have hvalue : (rested.request sent).2.backoff.number? = some backoff := by
        rw [hsent.backoff, hbackoff]
      obtain ⟨later, hpause, hlater⟩ :=
        exists_pause hvalue (hdoubles lost (Nat.lt_succ_self lost)) sent
      refine ⟨later, ?_, ?_⟩
      · rw [← Nat.add_assoc, Nat.add_right_comm, hattempts, attempts_of_undelivered hnext,
          if_neg (Nat.succ_ne_zero left), hpause]
      · rw [Number.pauses_succ]
        simpa using hsent.trans hlater

/-! ## Outcomes -/

/-- What a reply that arrived amounts to: its text is read, no text is no answer, and a fault of the
client is passed on as it is. -/
inductive Yields : ChatReply → Answer → Prop
  | content {text : String} : text ≠ "" → Yields (.content text) (Classification.ofAnswer text)
  | empty : Yields (.content "") (.error (.unanswered .noContent))
  | missing : Yields .noContent (.error (.unanswered .noContent))
  | failed (fault : Fault) : Yields (.failed fault) (.error fault)

theorem Yields.eq_ofAnswer {text : String} {answer : Answer}
    (hyields : Yields (.content text) answer) (htext : text ≠ "") : answer = Classification.ofAnswer text := by
  cases hyields with
  | content _ => rfl
  | empty => exact absurd rfl htext

theorem answerOf_content {text : String} (htext : text ≠ "") (message : String) :
    answerOf (.text message) (.content text) = Classification.ofAnswer text := by
  rw [answerOf, if_neg (by simpa using htext)]
  cases Classification.ofAnswer text <;> rfl

theorem yields_answerOf {reply : ChatReply} (harrived : reply ≠ .undelivered) (message : String) :
    Yields reply (answerOf (.text message) reply) := by
  cases reply with
  | content text =>
      by_cases hempty : text = ""
      · subst hempty
        exact .empty
      · rw [answerOf_content hempty]
        exact .content hempty
  | noContent => exact .missing
  | undelivered => exact absurd rfl harrived
  | failed fault => exact .failed fault

/-- A reply amounts to one thing only. -/
theorem Yields.answerOf_eq {reply : ChatReply} {answer : Answer} (hyields : Yields reply answer)
    (message : String) : answerOf (.text message) reply = answer := by
  cases hyields with
  | content htext => exact answerOf_content htext message
  | empty => rfl
  | missing => rfl
  | failed fault => rfl

/-- What asking about a message comes to, if so many retries are allowed.  Without any attempt there
is no answer.  The first reply that arrives in time decides alone, and if none does there is no
answer either; each request before was lost, and each pause but the first is twice the one before.
A pause that cannot be doubled once more ends the attempts. -/
structure Asks (chat : Chat) (sent : ChatRequest) (retries : Int) (backoff : Number)
    (result : Answer × Chat) : Prop where
  untried : retries < 0 → result = (.error (.unanswered .neverTried), chat)
  arrived : ∀ lost : Nat, lost ≤ retries →
    (∀ index < lost, chat.replyAt index = .undelivered) → chat.replyAt lost ≠ .undelivered →
      (∀ index < lost, backoff.Doubles index) →
        Yields (chat.replyAt lost) result.1 ∧
          chat.Spends result.2 sent (lost + 1) (backoff.pauses lost)
  exhausted : ∀ last : Nat, last = retries →
    (∀ index ≤ last, chat.replyAt index = .undelivered) →
      (∀ index < last, backoff.Doubles index) →
        result.1 = .error (.unanswered (.exhausted (last + 1))) ∧
          chat.Spends result.2 sent (last + 1) (backoff.pauses last)
  overflows : ∀ lost : Nat, lost < retries →
    (∀ index ≤ lost, chat.replyAt index = .undelivered) →
      (∀ index < lost, backoff.Doubles index) → ¬ backoff.Doubles lost →
        result.1 = .error (.overflow .integerTooLarge) ∧
          chat.Spends result.2 sent (lost + 1) (backoff.pauses lost)

section Endings

variable (hbackoff : chat.backoff.number? = some backoff) {lost : Nat}
  (hlost : ∀ index < lost, chat.replyAt index = .undelivered)
  (hdoubles : ∀ index < lost, backoff.Doubles index)

include hbackoff hlost hdoubles

theorem attempts_of_arrival (harrived : chat.replyAt lost ≠ .undelivered) (left : Nat) :
    (attempts sent (left + 1 + lost) 0 chat).1 = answerOf sent.user (chat.replyAt lost) ∧
      chat.Spends (attempts sent (left + 1 + lost) 0 chat).2 sent (lost + 1)
        (backoff.pauses lost) := by
  obtain ⟨rested, hattempts, hspends⟩ := exists_attempts_of_lost hbackoff hlost hdoubles sent left
  have hreply : rested.replyAt 0 = chat.replyAt lost := hspends.replies 0
  rw [hattempts, attempts_of_delivered (hreply ▸ harrived), hreply]
  exact ⟨rfl, by simpa using hspends.trans (rested.spends_request sent)⟩

theorem attempts_of_exhaustion (hlast : chat.replyAt lost = .undelivered) :
    (attempts sent (1 + lost) 0 chat).1 = .error (.unanswered (.exhausted (lost + 1))) ∧
      chat.Spends (attempts sent (1 + lost) 0 chat).2 sent (lost + 1) (backoff.pauses lost) := by
  obtain ⟨rested, hattempts, hspends⟩ := exists_attempts_of_lost hbackoff hlost hdoubles sent 0
  have hreply : rested.replyAt 0 = .undelivered := (hspends.replies 0).trans hlast
  rw [Nat.zero_add] at hattempts
  rw [hattempts, attempts_of_undelivered hreply, if_pos rfl]
  exact ⟨rfl, by simpa using hspends.trans (rested.spends_request sent)⟩

theorem attempts_of_overflow (hlast : chat.replyAt lost = .undelivered)
    (hover : ¬ backoff.Doubles lost) (left : Nat) :
    (attempts sent (left + 2 + lost) 0 chat).1 = .error (.overflow .integerTooLarge) ∧
      chat.Spends (attempts sent (left + 2 + lost) 0 chat).2 sent (lost + 1)
        (backoff.pauses lost) := by
  obtain ⟨rested, hattempts, hspends⟩ :=
    exists_attempts_of_lost hbackoff hlost hdoubles sent (left + 1)
  have hreply : rested.replyAt 0 = .undelivered := (hspends.replies 0).trans hlast
  have hsent := hspends.trans (rested.spends_request sent)
  have hpause : (rested.request sent).2.pause lost = .error (.overflow .integerTooLarge) := by
    rw [pause, hsent.backoff, pauseAfter_of_not_doubles hbackoff hover]
    rfl
  rw [hattempts, attempts_of_undelivered hreply, if_neg (Nat.succ_ne_zero left), hpause]
  exact ⟨rfl, by simpa using hsent⟩

end Endings

/-- The request that asks for the intent of a message. -/
def requestFor (chat : Chat) (intents : List Intent) (message : String) : ChatRequest where
  model := chat.model
  system := Prompt.text Prompt.shopAssistant intents
  user := .text message

theorem classify_eq {retries : Int} (hretries : retryCount chat.retries = .ok retries)
    (intents : List Intent) (message : String) :
    chat.classify intents (.text message) =
      attempts (chat.requestFor intents message) (retries + 1).toNat 0 chat := by
  rw [classify, hretries]
  rfl

/-- Whatever the client replies, a message is asked about as often and with such pauses as the
retries and the backoff say. -/
theorem asks_classify {retries : Int} (hretries : retryCount chat.retries = .ok retries)
    (hbackoff : chat.backoff.number? = some backoff) (intents : List Intent) (message : String) :
    chat.Asks (chat.requestFor intents message) retries backoff
      (chat.classify intents (.text message)) := by
  rw [classify_eq hretries]
  constructor
  · intro hnegative
    rw [Int.toNat_of_nonpos (by omega)]
    rfl
  · intro lost hle hlost harrived hdoubles
    obtain ⟨left, hleft⟩ : ∃ left, (retries + 1).toNat = left + 1 + lost :=
      ⟨(retries - lost).toNat, by omega⟩
    rw [hleft]
    obtain ⟨hanswer, hspends⟩ := attempts_of_arrival hbackoff hlost hdoubles harrived left
    rw [hanswer]
    exact ⟨yields_answerOf harrived message, hspends⟩
  · intro last hlast hlost hdoubles
    have hall : (retries + 1).toNat = 1 + last := by omega
    rw [hall]
    exact attempts_of_exhaustion hbackoff (fun index hindex => hlost index hindex.le) hdoubles
      (hlost last le_rfl)
  · intro lost hlt hlost hdoubles hover
    obtain ⟨left, hleft⟩ : ∃ left, (retries + 1).toNat = left + 2 + lost :=
      ⟨(retries - lost - 1).toNat, by omega⟩
    rw [hleft]
    exact attempts_of_overflow hbackoff (fun index hindex => hlost index hindex.le) hdoubles
      (hlost lost le_rfl) hover left

/-- A client that is out of reach for two requests and answers the third one. -/
def unsteady (retries : Int) : Chat :=
  ofReplies (.text "modelo") (.int retries) defaultBackoff
    [.undelivered, .undelivered, .content "\x7b\"intent\": \"AYUDA\", \"confidence\": 1\x7d"]

/-- Two retries are enough for the answer, one is not, and less than none sends nothing. -/
theorem asks_classify_unsteady :
    let half : Number := .real (.ofRatio false 1 2)
    let unit : Number := .real (.ofRatio false 1 1)
    let sent := (unsteady 2).requestFor [] "hola"
    let answered := (unsteady 2).classify [] (.text "hola")
    let refused := (unsteady 1).classify [] (.text "hola")
    (answered.1 = .ok (some ⟨.text "AYUDA", .number unit⟩) ∧
        answered.2.requests = [sent, sent, sent] ∧ answered.2.pauses = [half, unit]) ∧
      (refused.1 = .error (.unanswered (.exhausted 2)) ∧
        refused.2.requests = [sent, sent] ∧ refused.2.pauses = [half]) ∧
      (unsteady (-1)).classify [] (.text "hola") =
        (.error (.unanswered .neverTried), unsteady (-1)) := by
  have hlost : ∀ retries : Int, ∀ index < 2, (unsteady retries).replyAt index = .undelivered := by
    intro retries index hindex
    interval_cases index <;> rfl
  have hdoubles : ∀ index < 2, (Number.real (.ofRatio false 1 2)).Doubles index :=
    fun index hindex => hindex.trans (by decide)
  have hasks : ∀ retries : Int, (unsteady retries).Asks _ retries _ _ :=
    fun retries => asks_classify rfl rfl [] "hola"
  refine ⟨?_, ?_, (hasks (-1)).untried (by decide)⟩
  · obtain ⟨hyields, hspends⟩ :=
      (hasks 2).arrived 2 le_rfl (hlost 2) nofun hdoubles
    refine ⟨?_, hspends.requests, ?_⟩
    · rw [hyields.eq_ofAnswer (by decide)]
      decide +kernel
    · rw [hspends.pauses]
      decide +kernel
  · obtain ⟨hanswer, hspends⟩ := (hasks 1).exhausted 1 rfl
      (fun index hindex => hlost 1 index (by omega)) fun index hindex => hdoubles index (by omega)
    refine ⟨hanswer, hspends.requests, ?_⟩
    rw [hspends.pauses]
    decide +kernel

/-- No patience is endless: when a pause, be it of no length, would have to be doubled for the
1024th time, asking fails otherwise than for want of an answer. -/
theorem classify_overflows_on_outage :
    ¬ ∀ (chat : Chat) (retries : Nat) (backoff : Number) (intents : List Intent)
      (message : String), retryCount chat.retries = .ok (retries : Int) →
      chat.backoff.number? = some backoff →
      (∀ index ≤ retries, chat.replyAt index = .undelivered) →
      (chat.classify intents (.text message)).1 =
        .error (.unanswered (.exhausted (retries + 1))) := by
  intro hexhausts
  let outage := ofReplies (.text "modelo") (.int 1025) (.real .zero) [.undelivered]
  have hlost : ∀ index, outage.replyAt index = .undelivered := fun index => rfl
  have hdoubles : ∀ index < 1024, (Number.real .zero).Doubles index := fun _ hindex => hindex
  have hover : ¬ (Number.real .zero).Doubles 1024 := lt_irrefl 1024
  have hexhausted :=
    hexhausts outage 1025 (.real .zero) [] "hola" rfl rfl fun index _ => hlost index
  have hoverflows : (attempts (outage.requestFor [] "hola") (0 + 2 + 1024) 0 outage).1 =
      .error (.overflow .integerTooLarge) :=
    (attempts_of_overflow rfl (fun index _ => hlost index) hdoubles (hlost 1024) hover 0).1
  have hattempts : (1025 + 1 : Int).toNat = 0 + 2 + 1024 := by decide
  rw [classify_eq rfl, hattempts, hoverflows] at hexhausted
  cases hexhausted

end Chat

end Phrasebook
