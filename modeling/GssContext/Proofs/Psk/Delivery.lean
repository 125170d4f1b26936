/-
What becomes of a token on its way.

The sender's tokens are numbered by their index, and the receiver remembers
the largest number it accepted. So a token is accepted exactly if its index is
above that of every token accepted before it, whatever was lost, repeated or
overtaken in between, and whatever else the two parties do meanwhile.

The invariant has one clause for each party and one for the tokens between
them: the sender's next number is the number of tokens it made, each token on
its way is the sender's own with its index as its number, and what is fresh
for the receiver is what lies above everything it accepted. The keys of both
are those they had at the start.
-/
import GssContext.Proofs.Psk.Exchange

set_option autoImplicit false

namespace GssContext.Psk

/-! ## A session under a step

Of a session only the two counters ever change, and each by its own kind of call: a
call that makes tokens moves the next number, a call that takes them moves the last
accepted one. Everything below about keys and directions rests on this, and is proved
from what one step can do, without looking at the operations again. -/

namespace Session

/-- The session with other counters. -/
def withCounters (s : Session) (sendSeq : UInt64) (lastAccepted : Option UInt64) : Session :=
  { s with sendSeq, lastAccepted }

/-- A token that is taken apart has a fresh number. -/
theorem isFresh_of_openHeader {s : Session} {token body : Bytes} {header : MessageHeader}
    (h : s.openHeader token = .ok (header, body)) : s.isFresh header.seq = true := by
  unfold openHeader at h
  split at h
  · cases h
  split at h
  · cases h
  split at h
  · rename_i hfresh
    cases h
    exact hfresh
  · cases h

/-- A session that accepts a token is as before but for the last number, and
that number was fresh. -/
theorem accepted_of_unwrap {s s' : Session} {now : Instant} {token : Bytes} {u : Unwrapped}
    (h : s.unwrap now token = .ok (u, s')) :
    ∃ seq, s.isFresh seq = true ∧ s' = s.accepted seq := by
  simp only [unwrap, bind, Except.bind] at h
  split at h
  · cases h
  split at h
  · cases h
  -- the header is looked at before the body, and it is fresh or nothing else is looked at
  rename_i taken hheader
  have hfresh := isFresh_of_openHeader hheader
  split at h
  · split at h
    · cases h
    · cases h
      exact ⟨_, hfresh, rfl⟩
  · split at h
    · cases h
    · cases h
      exact ⟨_, hfresh, rfl⟩
  · cases h

/-- The same for a code: verifying one moves the last number to that of the code. -/
theorem accepted_of_verifyMic {s s' : Session} {now : Instant} {message token : Bytes}
    (h : s.verifyMic now message token = .ok s') :
    ∃ seq, s.isFresh seq = true ∧ s' = s.accepted seq := by
  simp only [verifyMic, bind, Except.bind] at h
  split at h
  · cases h
  split at h
  · cases h
  rename_i taken hheader
  have hfresh := isFresh_of_openHeader hheader
  split at h
  · cases h
  split at h
  · cases h
    exact ⟨_, hfresh, rfl⟩
  · cases h

variable {s s' : Session} {now : Instant} {call : Call} {answer : Answer}

/-- A call that makes tokens leaves what was accepted. -/
theorem Step.eq_at_of_sends (h : s.Step now call answer s') (hsends : call.sends = true) :
    s' = s.withCounters s'.sendSeq s.lastAccepted := by
  cases h <;> first | rfl | cases hsends

/-- A call that takes tokens leaves the next number, whether it accepts or refuses. -/
theorem Step.eq_at_of_receives (h : s.Step now call answer s') (hreceives : call.sends = false) :
    s' = s.withCounters s.sendSeq s'.lastAccepted := by
  cases h with
  | unwrapped h =>
    obtain ⟨seq, -, rfl⟩ := accepted_of_unwrap h
    rfl
  | verified h =>
    obtain ⟨seq, -, rfl⟩ := accepted_of_verifyMic h
    rfl
  | expired | exhausted | noEntropy | notUnwrapped | notVerified => rfl
  | tooLong | wrapOpen | wrapSealed | getMic => cases hreceives

/-- A token that is refused leaves the session. -/
theorem Step.eq_of_refused {e : Refusal} (h : s.Step now call (.refused e) s')
    (hreceives : call.sends = false) : s' = s := by
  cases h <;> first | rfl | cases hreceives

/-- Only the counters change. This is the two cases above without their difference, for
those who ask only whether the keys are still the same. -/
theorem Step.eq_withCounters (h : s.Step now call answer s') :
    s' = s.withCounters s'.sendSeq s'.lastAccepted := by
  cases hsends : call.sends with
  | true => rw [h.eq_at_of_sends hsends, withCounters, withCounters]
  | false => rw [h.eq_at_of_receives hsends, withCounters, withCounters]

/-- That two sessions mirror each other is a matter of their keys and directions alone,
so it survives whatever the two do with their counters. -/
theorem Mirrors.withCounters {r : Session} (h : s.Mirrors r) (seq seq' : UInt64)
    (last last' : Option UInt64) :
    (s.withCounters seq last).Mirrors (r.withCounters seq' last') where
  mac := h.mac
  enc := h.enc
  macBack := h.macBack
  encBack := h.encBack
  direction := h.direction

/-! ## Tokens of the sender

A token carries its number, and so every token that a session makes can be told by the
session's keys, its direction and a number. That is what the relation below says, and it
mentions nothing of a session that ever changes: the counters can be replaced, so a
token made long ago is still a token of the session as it is now. -/

/-- A delivery of the token with number `seq` that `s` makes for some message. -/
inductive Emits (s : Session) (seq : UInt64) : Delivery → Prop where
  | wrapOpen (message : Bytes) :
      Emits s seq ⟨.unwrap (wrapToken s.sendMac s.outbound seq message),
        .unwrapped ⟨message, false⟩⟩
  | wrapSealed (nonce message token : Bytes) (hnonce : nonce.length = Sealed.nonceSize)
      (htoken : sealedToken? s.sendEnc s.outbound seq nonce message = some token) :
      Emits s seq ⟨.unwrap token, .unwrapped ⟨message, true⟩⟩
  | getMic (message : Bytes) :
      Emits s seq ⟨.verifyMic message (micToken s.sendMac s.outbound seq message), .verified⟩

/-- A token does not depend on the counters of its session. -/
theorem Emits.withCounters {seq : UInt64} {d : Delivery} (h : s.Emits seq d) (seq' : UInt64)
    (last : Option UInt64) : (s.withCounters seq' last).Emits seq d := by
  cases h with
  | wrapOpen message => exact .wrapOpen message
  | wrapSealed nonce message token hnonce htoken =>
    exact .wrapSealed nonce message token hnonce htoken
  | getMic message => exact .getMic message

/-- And back: what a session makes with some counters it makes with its own. -/
theorem Emits.of_withCounters {seq seq' : UInt64} {last : Option UInt64} {d : Delivery}
    (h : (s.withCounters seq' last).Emits seq d) : s.Emits seq d :=
  h.withCounters s.sendSeq s.lastAccepted

/-- A token that was made is the session's with the next number, and takes it. -/
theorem Step.emits {d : Delivery} (h : s.Step now call answer s')
    (hd : Delivery.of? call answer = some d) :
    s.Emits s.sendSeq d ∧ s'.sendSeq.toNat = s.sendSeq.toNat + 1 := by
  cases h with
  | wrapOpen _ hnumber =>
    cases hd
    exact ⟨.wrapOpen _, s.sendSeq_advanced hnumber⟩
  | wrapSealed _ hnumber _ hnonce htoken =>
    cases hd
    exact ⟨.wrapSealed _ _ _ hnonce htoken, s.sendSeq_advanced hnumber⟩
  | getMic _ hnumber =>
    cases hd
    exact ⟨.getMic _, s.sendSeq_advanced hnumber⟩
  | expired | exhausted | noEntropy | tooLong | unwrapped | notUnwrapped | verified
  | notVerified => simp [Delivery.of?] at hd

/-- A call that makes no token uses up no number, if it asks for nothing too
long to be sealed. -/
theorem Step.sendSeq_eq (h : s.Step now call answer s')
    (hfits : ∀ message, call = .wrap message true → message.length ≤ Sealed.maxLength)
    (hnone : Delivery.of? call answer = none) : s'.sendSeq = s.sendSeq := by
  cases h with
  | tooLong hlong => exact absurd (hfits _ rfl) (Nat.not_le_of_lt hlong)
  | unwrapped h =>
    obtain ⟨seq, -, rfl⟩ := accepted_of_unwrap h
    rfl
  | verified h =>
    obtain ⟨seq, -, rfl⟩ := accepted_of_verifyMic h
    rfl
  | wrapOpen | wrapSealed | getMic => simp [Delivery.of?] at hnone
  | expired | exhausted | noEntropy | notUnwrapped | notVerified => rfl

/-- A call that is to make a token makes one while there is time and a number
is left, unless no nonce can be drawn. -/
theorem Step.delivery_of_sends (h : s.Step now call answer s') (hsends : call.sends = true)
    (hlive : s.checkExpiry now = .ok ()) (hnumber : s.HasNumber)
    (hfits : ∀ message, call = .wrap message true → message.length ≤ Sealed.maxLength) :
    (∃ d, Delivery.of? call answer = some d) ∨
      (∃ message e, call = .wrap message true ∧ answer = .refused (.noEntropy e)) := by
  cases h with
  | wrapOpen | wrapSealed | getMic => exact .inl ⟨_, rfl⟩
  | noEntropy _ e => exact .inr ⟨_, e, rfl, rfl⟩
  | expired hover => rw [hlive] at hover; cases hover
  | exhausted _ hnone => exact absurd hnumber hnone
  | tooLong hlong => exact absurd (hfits _ rfl) (Nat.not_le_of_lt hlong)
  | unwrapped | notUnwrapped | verified | notVerified => cases hsends

/-- Unwrapping what opens if its number is fresh. The hypothesis is an equation for
`unwrap`, and leaves two ways for the step to end. Each of the four ways in which a call
of this kind ends is compared with that equation. -/
theorem Step.of_unwrap {seq : UInt64} {token : Bytes} {u : Unwrapped}
    (h : s.Step now (.unwrap token) answer s') (hlive : s.checkExpiry now = .ok ())
    (htaken : s.unwrap now token =
      if s.isFresh seq then .ok (u, s.accepted seq) else .error .replayed) :
    (s.isFresh seq = true ∧ answer = .unwrapped u ∧ s' = s.accepted seq) ∨
      (s.isFresh seq = false ∧ answer = .refused .replayed ∧ s' = s) := by
  -- the step knows of one result, the equation of one for each value of the check, so each
  -- is ruled out by the other
  by_cases hfresh : s.isFresh seq = true
  · rw [if_pos hfresh] at htaken
    cases h with
    | expired hover => rw [hlive] at hover; cases hover
    | exhausted hsends => cases hsends
    | unwrapped hok =>
      rw [htaken] at hok
      cases hok
      exact .inl ⟨hfresh, rfl, rfl⟩
    | notUnwrapped herror => rw [htaken] at herror; cases herror
  · rw [if_neg hfresh] at htaken
    cases h with
    | expired hover => rw [hlive] at hover; cases hover
    | exhausted hsends => cases hsends
    | unwrapped hok => rw [htaken] at hok; cases hok
    | notUnwrapped herror =>
      rw [htaken] at herror
      cases herror
      exact .inr ⟨Bool.eq_false_iff.mpr hfresh, rfl, rfl⟩

/-- The same for a code that verifies if its number is fresh; the message it is for is
part of the call. -/
theorem Step.of_verifyMic {seq : UInt64} {message token : Bytes}
    (h : s.Step now (.verifyMic message token) answer s') (hlive : s.checkExpiry now = .ok ())
    (htaken : s.verifyMic now message token =
      if s.isFresh seq then .ok (s.accepted seq) else .error .replayed) :
    (s.isFresh seq = true ∧ answer = .verified ∧ s' = s.accepted seq) ∨
      (s.isFresh seq = false ∧ answer = .refused .replayed ∧ s' = s) := by
  -- of the steps that a verification can be, the lifetime and the freshness leave one
  by_cases hfresh : s.isFresh seq = true
  · rw [if_pos hfresh] at htaken
    cases h with
    | expired hover => rw [hlive] at hover; cases hover
    | exhausted hsends => cases hsends
    | verified hok =>
      rw [htaken] at hok
      cases hok
      exact .inl ⟨hfresh, rfl, rfl⟩
    | notVerified herror => rw [htaken] at herror; cases herror
  · rw [if_neg hfresh] at htaken
    cases h with
    | expired hover => rw [hlive] at hover; cases hover
    | exhausted hsends => cases hsends
    | verified hok => rw [htaken] at hok; cases hok
    | notVerified herror =>
      rw [htaken] at herror
      cases herror
      exact .inr ⟨Bool.eq_false_iff.mpr hfresh, rfl, rfl⟩

/-- The other side's token is taken exactly if its number is fresh, and then it
gives what is due. -/
theorem Step.of_emits {r r' : Session} {seq : UInt64} {d : Delivery} (hmirrors : s.Mirrors r)
    (hd : s.Emits seq d) (hlive : r.checkExpiry now = .ok ())
    (h : r.Step now d.call answer r') :
    (r.isFresh seq = true ∧ answer = d.due ∧ r' = r.accepted seq) ∨
      (r.isFresh seq = false ∧ answer = .refused .replayed ∧ r' = r) := by
  -- with the sender's keys replaced by the receiver's, the token is one that
  -- the receiver's own lemmas are about
  cases hd with
  | wrapOpen message =>
    rw [hmirrors.mac, hmirrors.direction] at h
    exact h.of_unwrap hlive (unwrap_wrapToken r now seq message hlive)
  | wrapSealed nonce message token hnonce htoken =>
    rw [hmirrors.enc, hmirrors.direction] at htoken
    exact h.of_unwrap hlive (unwrap_sealedToken r now seq nonce message token hlive hnonce htoken)
  | getMic message =>
    rw [hmirrors.mac, hmirrors.direction] at h
    exact h.of_verifyMic hlive (verifyMic_micToken r now seq message hlive)

end Session

/-! ## What a run is asked to be

Three things are required of a run, and each of them can be read off its trace. The
first two are about the parties: they act while there is time, and do not ask for a
message to be sealed that is too long for that. The third is about the world: bytes that
the sender did not make are refused. For a session with keys of its own the third is
what the codes and seals are for; here it is a hypothesis, and what it takes to break it
is another matter. -/

/-- An event asks for nothing that is too long to be sealed. -/
def Event.Fits : Event → Prop
  | .call .sender (.wrap message true) => message.length ≤ Sealed.maxLength
  | _ => True

/-- The receiver is handed bytes by a call of its own. They may be a token of the
sender's all the same; then they are counted as coming from elsewhere, and have to be
refused. -/
def Event.Foreign : Event → Prop
  | .call .receiver k => k.sends = false
  | _ => False

instance : DecidablePred Event.Fits
  | .call .sender (.wrap message true) =>
    inferInstanceAs (Decidable (message.length ≤ Sealed.maxLength))
  | .call .sender (.wrap _ false) | .call .sender (.getMic _) | .call .sender (.unwrap _)
  | .call .sender (.verifyMic ..) | .call .receiver _ | .deliver _ => .isTrue trivial

instance : DecidablePred Event.Foreign
  | .call .receiver k => inferInstanceAs (Decidable (k.sends = false))
  | .call .sender _ | .deliver _ => .isFalse id

/-- A run whose every event is inside the two contexts' time, whose sealed
messages fit, and in which the receiver refuses every token from elsewhere. -/
structure Orderly (s r : Session) (trace : List Entry) : Prop where
  live : ∀ e ∈ trace, match e.event.party with
    | .sender => s.checkExpiry e.now = .ok ()
    | .receiver => r.checkExpiry e.now = .ok ()
  fits : ∀ e ∈ trace, e.event.Fits
  foreign : ∀ e ∈ trace, e.event.Foreign → ∃ refusal, e.answer = .refused refusal

/-- What is required of all entries is required of those at an earlier time. -/
theorem Orderly.of_earlier {s r : Session} {trace trace' : List Entry} (h : Orderly s r trace')
    (hearlier : trace <+: trace') : Orderly s r trace where
  live e he := h.live e (hearlier.subset he)
  fits e he := h.fits e (hearlier.subset he)
  foreign e he := h.foreign e (hearlier.subset he)

/-! ## What is promised

Two promises, one for each end, both about an entry and what was recorded before it. The
sender is promised a token for each call, for as long as there are numbers. The receiver
is promised that freshness is a matter of the index alone. -/

/-- A sender's call makes a token while a number is left, unless no nonce can
be drawn. -/
def MakesToken (before : List Entry) (e : Entry) : Prop :=
  ∀ call, e.event = .call .sender call → call.sends = true →
    (sent before).length < 2 ^ 64 - 1 →
    (∃ d, e.sent? = some d) ∨
      ∃ message error, call = .wrap message true ∧ e.answer = .refused (.noEntropy error)

/-- A token that is handed over is accepted if and only if its index is above
that of every token accepted before; then the answer is the one that is due,
and otherwise the token is refused as a duplicate. -/
def TakesToken (before : List Entry) (e : Entry) : Prop :=
  ∀ index, e.event = .deliver index →
    ∃ d, (sent before)[index]? = some d ∧
      (e.accepted? = some index ↔ ∀ j ∈ accepted before, j < index) ∧
      (e.accepted? = some index → e.answer = d.due) ∧
      (e.accepted? = none → ∃ refusal, e.answer = .refused refusal ∧
        refusal.status = ⟨.duplicateToken, 0⟩)

/-! ## The trace grows by one entry

What was sent and what was accepted are read off the trace, so they grow with it by what
the new entry adds, which is nothing for most entries. -/

section

variable (trace : List Entry) (e : Entry)

theorem sent_append : sent (trace ++ [e]) = sent trace ++ e.sent?.toList := by
  rw [sent, List.filterMap_append]
  cases he : e.sent? <;> simp [sent, he]

theorem accepted_append : accepted (trace ++ [e]) = accepted trace ++ e.accepted?.toList := by
  rw [accepted, List.filterMap_append]
  cases he : e.accepted? <;> simp [accepted, he]

end

/-- The answer that is due is not a refusal, so an entry with it counts as accepted. -/
theorem Session.Emits.accepted?_due {s : Session} {seq : UInt64} {d : Delivery}
    (h : s.Emits seq d) (index : Nat) (now : Instant) :
    Entry.accepted? ⟨.deliver index, now, d.due⟩ = some index := by
  cases h <;> rfl

/-- After a number was accepted, what is above it is fresh. -/
theorem Session.isFresh_accepted (r : Session) (n q : UInt64) :
    (r.accepted n).isFresh q = true ↔ n.toNat < q.toNat := by
  rw [isFresh, accepted]
  exact decide_eq_true_iff.trans UInt64.lt_iff_toNat_lt

namespace Exchange

variable {ε σ : Type}

/-! ## The invariant

The clauses for the two parties say what their counters are in terms of the trace, and
the clause for the tokens says what the trace holds in terms of the sender's session.
With these the two promises follow for the next entry, whichever event it is; so they
are clauses too, and the theorem is read off the invariant in the end. The sessions in
it are those at the start, with other counters. -/

/-- The invariant of an exchange that began with the sessions `s` and `r`. -/
structure Inv (s r : Session) (x : Exchange σ) : Prop where
  /-- The sender's next number is the number of tokens it made. -/
  sender : ∃ seq last, x.sender.phase = .established (s.withCounters seq last) ∧
    seq.toNat = (sent x.trace).length
  /-- Fresh for the receiver is what lies above everything it accepted. -/
  receiver : ∃ seq last, x.receiver.phase = .established (r.withCounters seq last) ∧
    ∀ n, (r.withCounters seq last).isFresh n = true ↔ ∀ j ∈ accepted x.trace, j < n.toNat
  /-- Every token on its way is the sender's, numbered by its index. -/
  tokens : ∀ (i : Nat) (d : Delivery), (sent x.trace)[i]? = some d →
    ∃ n : UInt64, n.toNat = i ∧ s.Emits n d
  made : Throughout MakesToken x.trace
  taken : Throughout TakesToken x.trace

/-- Two fresh sessions, and nothing sent yet. Since nothing was accepted, every number
is fresh. -/
theorem Inv.initial {s r : Session} (hseq : s.sendSeq = 0) (hlast : r.lastAccepted = none)
    {sender receiver : Context} (hsender : sender.phase = .established s)
    (hreceiver : receiver.phase = .established r) (world : σ) :
    Inv s r ⟨world, sender, receiver, []⟩ where
  sender := by
    refine ⟨s.sendSeq, s.lastAccepted, hsender, ?_⟩
    rw [hseq]
    rfl
  receiver := by
    refine ⟨r.sendSeq, r.lastAccepted, hreceiver, fun n => ?_⟩
    rw [Session.withCounters, Session.isFresh, hlast]
    simp [accepted]
  tokens i d hd := by simp [sent] at hd
  made := throughout_nil _
  taken := throughout_nil _

/-- Making a call on an established context is one step of its session, and
leaves the other party alone. -/
theorem make_eq {envs : Party → Environment (Action ε σ)} (hexact : ∀ party, (envs party).Exact)
    (x : Exchange σ) (event : Event) (call : Call) {t : Session}
    (ht : (x.context event.party).phase = .established t) :
    ∃ world now answer t', t.Step now call answer t' ∧
      x.make envs event call =
        { x.withContext ((x.context event.party).withSession t') event.party with
          world
          trace := x.trace ++ [⟨event, now, answer⟩] } := by
  obtain ⟨answer, t', hrun, hstep⟩ := Context.call_run (hexact event.party) ht call x.world
  refine ⟨(((x.context event.party).call (envs event.party) call).run x.world).2, _, answer, t',
    hstep, ?_⟩
  rw [make, hrun]

variable {s r : Session} {x : Exchange σ} {world : σ} {now : Instant} {answer : Answer}

/-- A call of the sender. If it makes a token then it is the next one, with the next
number; otherwise no number is used up. Which of the two is the case can be seen from
the call and its answer, so the cases are those of `Delivery.of?`. -/
theorem Inv.sender_step (h : x.Inv s r) {seq : UInt64} {last : Option UInt64} {call : Call}
    {t : Session} (hseq : seq.toNat = (sent x.trace).length)
    (hstep : (s.withCounters seq last).Step now call answer t)
    (hlive : s.checkExpiry now = .ok ()) (hfits : (Event.call .sender call).Fits) :
    Inv s r { x with
      world
      sender := x.sender.withSession t
      trace := x.trace ++ [⟨.call .sender call, now, answer⟩] } := by
  have hlong : ∀ message, call = .wrap message true → message.length ≤ Sealed.maxLength := by
    rintro message rfl
    exact hfits
  have hsent : sent (x.trace ++ [⟨.call .sender call, now, answer⟩]) =
      sent x.trace ++ (Delivery.of? call answer).toList := sent_append _ _
  have haccepted := accepted_append x.trace ⟨.call .sender call, now, answer⟩
  rw [Entry.accepted?, Option.toList_none, List.append_nil] at haccepted
  -- the goals are the clauses of the invariant, the sender's in two parts
  refine ⟨⟨t.sendSeq, t.lastAccepted, ?_, ?_⟩, ?_, ?_, ?_, ?_⟩
  · rw [Context.withSession, hstep.eq_withCounters]
    rfl
  · rw [hsent]
    cases hd : Delivery.of? call answer with
    | some d =>
      rw [(hstep.emits hd).2, List.length_append, ← hseq]
      rfl
    | none =>
      rw [hstep.sendSeq_eq hlong hd, List.length_append, ← hseq]
      rfl
  · rw [haccepted]
    exact h.receiver
  · intro i d hi
    rw [hsent, List.getElem?_append] at hi
    split at hi
    · exact h.tokens i d hi
    · rename_i hover
      cases hd : Delivery.of? call answer with
      | none => simp [hd] at hi
      | some d' =>
        -- the new token is the last one, so its index is the number it was given
        simp only [hd, Option.toList_some, List.getElem?_singleton] at hi
        split at hi
        · cases hi
          exact ⟨seq, by omega, (hstep.emits hd).1.of_withCounters⟩
        · cases hi
  · refine throughout_append_singleton h.made ?_
    rintro _ ⟨⟩ hsends hleft
    -- the number is left since fewer tokens were made than there are numbers
    refine hstep.delivery_of_sends hsends hlive ?_ hlong
    change seq.toNat + 1 < 2 ^ 64
    omega
  · exact throughout_append_singleton h.taken fun _ hevent => by cases hevent

/-- A call of the receiver's own. Its tokens go the other way, and those it is given
here come from elsewhere and are refused. So nothing was accepted, the last number is as
before, and all that changes is the receiver's own next number. -/
theorem Inv.receiver_step (h : x.Inv s r) {seq : UInt64} {last : Option UInt64} {call : Call}
    {t : Session} (hfresh : ∀ n, (r.withCounters seq last).isFresh n = true ↔
      ∀ j ∈ accepted x.trace, j < n.toNat)
    (hstep : (r.withCounters seq last).Step now call answer t)
    (hforeign : (Event.call .receiver call).Foreign → ∃ refusal, answer = .refused refusal) :
    Inv s r { x with
      world
      receiver := x.receiver.withSession t
      trace := x.trace ++ [⟨.call .receiver call, now, answer⟩] } := by
  have hsent := sent_append x.trace ⟨.call .receiver call, now, answer⟩
  have haccepted := accepted_append x.trace ⟨.call .receiver call, now, answer⟩
  rw [Entry.sent?, Option.toList_none, List.append_nil] at hsent
  rw [Entry.accepted?, Option.toList_none, List.append_nil] at haccepted
  -- what the receiver accepted last is as before: it sends, or it refuses
  have hlast : t = r.withCounters t.sendSeq last := by
    cases hsends : call.sends with
    | true => exact hstep.eq_at_of_sends hsends
    | false =>
      obtain ⟨refusal, rfl⟩ := hforeign hsends
      rw [hstep.eq_of_refused hsends]
      rfl
  refine ⟨?_, ⟨t.sendSeq, last, ?_, ?_⟩, ?_, ?_, ?_⟩
  · rw [hsent]
    exact h.sender
  · rw [← hlast]
    rfl
  · rw [haccepted]
    exact hfresh
  · rw [hsent]
    exact h.tokens
  · exact throughout_append_singleton h.made fun _ hevent => by cases hevent
  · exact throughout_append_singleton h.taken fun _ hevent => by cases hevent

/-- One of the sender's tokens is handed over. It is accepted exactly if its number is
fresh, and then it is what freshness is measured by. The clause for the receiver says
what fresh means in indices, and the clause for the tokens that the number is the index;
together they turn the check on numbers into the promise about indices. -/
theorem Inv.deliver_step (h : x.Inv s r) (hmirrors : s.Mirrors r) {seq : UInt64}
    {last : Option UInt64} {t : Session}
    (hfresh : ∀ n, (r.withCounters seq last).isFresh n = true ↔
      ∀ j ∈ accepted x.trace, j < n.toNat)
    {index : Nat} {d : Delivery} (hd : (sent x.trace)[index]? = some d)
    (hstep : (r.withCounters seq last).Step now d.call answer t)
    (hlive : r.checkExpiry now = .ok ()) :
    Inv s r { x with
      world
      receiver := x.receiver.withSession t
      trace := x.trace ++ [⟨.deliver index, now, answer⟩] } := by
  obtain ⟨n, rfl, hemits⟩ := h.tokens index d hd
  have hsent := sent_append x.trace ⟨.deliver n.toNat, now, answer⟩
  have haccepted := accepted_append x.trace ⟨.deliver n.toNat, now, answer⟩
  rw [Entry.sent?, Option.toList_none, List.append_nil] at hsent
  have hsender := h.sender
  have htokens := h.tokens
  have hmade : Throughout MakesToken (x.trace ++ [⟨.deliver n.toNat, now, answer⟩]) :=
    throughout_append_singleton h.made fun _ hevent => by cases hevent
  rw [← hsent] at hsender htokens
  -- the token is the sender's still, whatever the counters are by now
  rcases Session.Step.of_emits (hmirrors.withCounters s.sendSeq seq s.lastAccepted last)
    (hemits.withCounters _ _) hlive hstep with ⟨hn, rfl, rfl⟩ | ⟨hn, rfl, rfl⟩
  · have hdue := hemits.accepted?_due n.toNat now
    rw [hdue] at haccepted
    refine ⟨hsender, ⟨seq, some n, rfl, fun q => ?_⟩, htokens, hmade, ?_⟩
    · -- the new largest number bounds all the earlier ones
      have hbelow := (hfresh n).mp hn
      refine (Session.isFresh_accepted (r.withCounters seq last) n q).trans ?_
      rw [haccepted]
      constructor
      · intro hq j hj
        rcases List.mem_append.mp hj with hj | hj
        · exact Nat.lt_trans (hbelow j hj) hq
        · rw [List.mem_singleton.mp hj]
          exact hq
      · intro hq
        exact hq n.toNat (List.mem_append_right _ (List.mem_singleton.mpr rfl))
    · refine throughout_append_singleton h.taken ?_
      rintro _ ⟨⟩
      refine ⟨d, hd, ⟨fun _ => (hfresh n).mp hn, fun _ => hdue⟩, fun _ => rfl, ?_⟩
      intro hnone
      rw [hdue] at hnone
      cases hnone
  · -- the token is refused, so nothing changes, and an earlier token is known that it is
    -- not above
    have hnot : ¬ ∀ j ∈ accepted x.trace, j < n.toNat := by
      rw [← hfresh n, hn]
      exact Bool.false_ne_true
    rw [Entry.accepted?, Option.toList_none, List.append_nil] at haccepted
    refine ⟨hsender, ⟨seq, last, rfl, ?_⟩, htokens, hmade, ?_⟩
    · rw [haccepted]
      exact hfresh
    · refine throughout_append_singleton h.taken ?_
      rintro _ ⟨⟩
      refine ⟨d, hd, ⟨fun hsome => ?_, fun hall => absurd hall hnot⟩, fun hsome => ?_, ?_⟩
      · cases hsome
      · cases hsome
      · exact fun _ => ⟨_, rfl, rfl⟩

/-- Every event keeps the invariant. The hypothesis is about the trace after the event,
whose last entry is the one the three step lemmas ask about. -/
theorem Inv.step {envs : Party → Environment (Action ε σ)} (hexact : ∀ party, (envs party).Exact)
    (hmirrors : s.Mirrors r) (h : x.Inv s r) (event : Event)
    (horderly : Orderly s r (x.step envs event).trace) : (x.step envs event).Inv s r := by
  obtain ⟨sendSeq, sendLast, hsender, hseq⟩ := h.sender
  obtain ⟨seq, last, hreceiver, hfresh⟩ := h.receiver
  cases event with
  | call party call =>
    cases party with
    | sender =>
      obtain ⟨w, now, answer, t, hstep, hmake⟩ :=
        make_eq hexact x (.call .sender call) call hsender
      rw [Exchange.step, hmake] at horderly ⊢
      exact h.sender_step hseq hstep (horderly.live _ List.mem_concat_self)
        (horderly.fits _ List.mem_concat_self)
    | receiver =>
      obtain ⟨w, now, answer, t, hstep, hmake⟩ :=
        make_eq hexact x (.call .receiver call) call hreceiver
      rw [Exchange.step, hmake] at horderly ⊢
      exact h.receiver_step hfresh hstep (horderly.foreign _ List.mem_concat_self)
  | deliver index =>
    rw [Exchange.step] at horderly ⊢
    cases hd : (sent x.trace)[index]? with
    | none => exact h
    | some d =>
      -- a delivery is a call of the receiver with a token that was sent
      obtain ⟨w, now, answer, t, hstep, hmake⟩ := make_eq hexact x (.deliver index) d.call hreceiver
      rw [hd] at horderly
      dsimp only at horderly ⊢
      rw [hmake] at horderly ⊢
      exact h.deliver_step hmirrors hfresh hd hstep (horderly.live _ List.mem_concat_self)

/-- So every run does. The induction is on the events, from the front, while the trace
that is required to be orderly is that of the whole run: it begins with the trace after
the first event. -/
theorem Inv.run {envs : Party → Environment (Action ε σ)} (hexact : ∀ party, (envs party).Exact)
    (hmirrors : s.Mirrors r) (events : List Event) (h : x.Inv s r)
    (horderly : Orderly s r (x.run envs events).trace) : (x.run envs events).Inv s r := by
  induction events generalizing x with
  | nil => exact h
  | cons event events ih =>
    have hstep : Orderly s r (x.step envs event).trace :=
      horderly.of_earlier (trace_prefix_run envs (x.step envs event) events)
    exact ih (h.step hexact hmirrors event hstep) horderly

/-- **Delivery without replay.** Two contexts are open, with fresh sessions
that mirror each other. Whatever the parties do, in whatever order the sender's
tokens are handed over, however often or not at all: each call makes its token,
and a token that is handed over is accepted if and only if its index is above
that of every token accepted before. Then it gives the sender's message with
the confidentiality that was reported; otherwise it is refused as a duplicate. -/
theorem delivered_iff_above_accepted {envs : Party → Environment (Action ε σ)}
    (hexact : ∀ party, (envs party).Exact) (hmirrors : s.Mirrors r) (hseq : s.sendSeq = 0)
    (hlast : r.lastAccepted = none) {sender receiver : Context}
    (hsender : sender.phase = .established s) (hreceiver : receiver.phase = .established r)
    (world : σ) (events : List Event)
    (horderly : Orderly s r ((⟨world, sender, receiver, []⟩ : Exchange σ).run envs events).trace) :
    Throughout MakesToken ((⟨world, sender, receiver, []⟩ : Exchange σ).run envs events).trace ∧
      Throughout TakesToken
        ((⟨world, sender, receiver, []⟩ : Exchange σ).run envs events).trace := by
  have hinv := (Inv.initial hseq hlast hsender hreceiver world).run hexact hmirrors events horderly
  exact ⟨hinv.made, hinv.taken⟩

/-- A run with one token of each kind. The second overtakes the first, which is
then refused; the third is handed over twice; and bytes that are no token come
in between. -/
theorem delivered_of_overtaken :
    let keys : SessionKeys := ⟨[1], [2], [3], [4]⟩
    let flags := Flags.of [.confidentiality]
    let s := Session.start keys true flags none
    let r := Session.start keys false flags none
    let x : Exchange Simulated :=
      ⟨.ofSeed 7, ⟨"here", "there", true, flags, .established s⟩,
        ⟨"here", "there", false, flags, .established r⟩, []⟩
    let trace := (x.run (fun _ => (Simulated.environment : Environment (Action Empty Simulated)))
      [.call .sender (.wrap [10] false), .call .sender (.wrap [20] true),
        .call .receiver (.wrap [40] true), .deliver 1, .deliver 0,
        .call .receiver (.unwrap [0]), .call .sender (.getMic [30]), .deliver 2,
        .deliver 2]).trace
    accepted trace = [1, 2] ∧ Throughout MakesToken trace ∧ Throughout TakesToken trace := by
  intro keys flags s r x trace
  have hforeign : ∀ e ∈ trace, e.event.Foreign → e.answer = .refused .malformed := by
    decide +kernel
  refine ⟨by decide +kernel, delivered_iff_above_accepted (fun _ => Simulated.environment_exact)
    (Session.start_mirrors keys flags flags none none) rfl rfl rfl rfl _ _ ⟨?_, ?_, ?_⟩⟩
  · intro e _
    cases e.event.party <;> rfl
  · decide +kernel
  · intro e he he'
    exact ⟨_, hforeign e he he'⟩

end Exchange

end GssContext.Psk
