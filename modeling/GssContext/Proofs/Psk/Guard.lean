/-
The engine's context and the mechanism's go together.

There are two machines. The engine has a state and holds what the mechanism left
with it; the mechanism's context has a phase. They change at different places:
the phase inside of a step or a call, the state around it. `Paired` says which
state goes with which phase. It holds before every round of a negotiation, after
every step that does not complete, in the context that is handed out, and after
every use of that.

It does not hold of the context that a completing step leaves. The mechanism is
open by then, and the engine says that it negotiates until the step's token is
sent: such a context is `Unmarked`. Either the token is sent, and `opened` makes
the two a pair again, or it is not, and then it is this context, with the keys of
a session in it, that the negotiation gives back.

Whoever rejects a token says why, and the engine tells apart by it whether the
token is to blame. For this mechanism that is always so but when the time is
over, whatever the token is and whatever was said before.
-/
import GssContext.Proofs.Client.Authentic
import GssContext.Proofs.Engine
import GssContext.Proofs.Psk.Expiry
import GssContext.Proofs.Rehearsal.Steps

set_option autoImplicit false

namespace GssContext.Psk

open Negotiation

variable {ε σ : Type}

/-! ## States and phases

Three relations say how the two machines may stand to each other. `Paired` is the one
that is to hold, `Underway` is what it comes to before the mechanism is open, and
`Unmarked` is the one place where it fails. They are stated of the engine's context
alone, since that holds the mechanism's. -/

/-- The engine's state fits what it holds of the mechanism. -/
inductive Paired : SecurityContext Context → Prop where
  | notCreated {granted : Flags} : Paired ⟨none, .notCreated, granted⟩
  | negotiating {c : Context} {granted : Flags} (hwaits : Initiator.Awaits c.phase) :
      Paired ⟨some c, .negotiating, granted⟩
  | established {c : Context} {s : Session} {granted : Flags} (hphase : c.phase = .established s) :
      Paired ⟨some c, .established, granted⟩
  | closed {granted : Flags} : Paired ⟨none, .closed, granted⟩

/-- The context of a negotiation that goes on: nothing yet, or the hello is said. -/
inductive Underway : SecurityContext Context → Prop where
  | fresh : Underway .new
  | waiting {c : Context} (hwaits : Initiator.Awaits c.phase) :
      Underway ⟨some c, .negotiating, .empty⟩

/-- While nothing is open yet, the two are a pair. -/
theorem Underway.paired {ctx : SecurityContext Context} (h : Underway ctx) : Paired ctx := by
  cases h with
  | fresh => exact .notCreated
  | waiting hwaits => exact .negotiating hwaits

theorem Underway.early {ctx : SecurityContext Context} (h : Underway ctx) :
    ctx.state = .notCreated ∨ ctx.state = .negotiating := by
  cases h with
  | fresh => exact .inl rfl
  | waiting => exact .inr rfl

/-- A step has completed, and the engine has not marked it yet: what is held is open,
and the state says that it is negotiated. -/
inductive Unmarked : SecurityContext Context → Prop where
  | completed {c : Context} {s : Session} (hphase : c.phase = .established s) :
      Unmarked ⟨some c, .negotiating, .empty⟩

/-- In between the two are no pair. A pair that is negotiating holds a context that
waits for a reply, and the one that is held here waits for nothing any more. -/
theorem Unmarked.not_paired {ctx : SecurityContext Context} (h : Unmarked ctx) :
    ¬ Paired ctx := by
  intro hpaired
  cases h with
  | completed hphase =>
    cases hpaired with
    | negotiating hwaits =>
      obtain ⟨_, _, _, hawaiting⟩ := hwaits
      cases hphase.symm.trans hawaiting

/-- What is held in between has the keys of a session in it. -/
theorem Unmarked.exists_open {ctx : SecurityContext Context} (h : Unmarked ctx) :
    ∃ c s, ctx.handle = some c ∧ c.phase = .established s := by
  cases h with
  | @completed c s hphase => exact ⟨c, s, rfl, hphase⟩

/-- It is the mark that makes them one: the state is all that it changes, and the state
is all that was wrong. -/
theorem Unmarked.paired_opened {ctx : SecurityContext Context} (h : Unmarked ctx)
    (granted : Flags) : Paired (ctx.opened granted) := by
  cases h with
  | completed hphase => exact .established hphase

/-! ## Establishing

A step keeps a context underway or, if it completes, leaves one that is unmarked.
So the contexts before a round are all underway, by induction on the rounds, since
a round that completes leads to no other. What the unmarked context of the last
round becomes is up to the transport alone: the engine sends the token of a step
before it looks at its status. -/

section

variable {env : Environment (Action ε σ)} {config : Config} {transport : Transport (Action ε σ)}
  {request : Request ServiceName}

/-- One step of the mechanism, seen from the engine. The first one never completes,
and one that completes leaves the state to be marked. -/
theorem Underway.took {ctx : SecurityContext Context} (h : Underway ctx) {call : InitCall}
    {step : Step} {after : Option Context}
    (htook : Initiator.Took env config ctx.handle call step after) :
    (step.status = .complete → ctx ≠ .new ∧ Unmarked (ctx.stepped after)) ∧
      (step.status ≠ .complete → Underway (ctx.stepped after)) := by
  cases h with
  | fresh =>
    cases htook with
    | refused status hnot => exact ⟨nofun, fun _ => .fresh⟩
    | greeted world hdraw => exact ⟨nofun, fun _ => .waiting ⟨_, _, _, rfl⟩⟩
  | waiting hwaits =>
    cases htook with
    | refused status hnot => exact ⟨nofun, fun _ => .waiting hwaits⟩
    | finished now hphase hwanted hinput hvouched =>
      exact ⟨fun _ => ⟨nofun, .completed rfl⟩, fun hne => absurd rfl hne⟩

/-- The step of a stage is one of the initiator. -/
theorem took_of_stage (s : Stage Context σ) :
    Initiator.Took env config s.ctx.handle ⟨request.target, request.wanted, request.flags, s.input⟩
      (s.taken (Initiator.mechanism env config) request).1.1
      (s.taken (Initiator.mechanism env config) request).1.2 :=
  Initiator.side_took s.ctx.handle ⟨request.target, request.wanted, request.flags, s.input⟩ s.world

/-- **Every round begins with a pair.** What holds before a round is that nothing is
open yet, and a round leads to another one only if its step did not complete. -/
theorem underway_of_passes {w : σ} {s : Stage Context σ}
    (h : Stage.Passes (Initiator.mechanism env config) transport request (.first request w) s) :
    Underway s.ctx := by
  -- by induction on the rounds before this one; none of them completed
  induction h with
  | refl => exact .fresh
  | tail _ hleads ih =>
    cases hleads with
    | round hleft hmore hstatus hsent hreceived =>
      refine (ih.took (took_of_stage _)).2 ?_
      rw [hstatus]
      exact nofun

/-- **What a step leaves**: an unmarked context if it completes, one underway if not. -/
theorem stepped_of_passes {w : σ} {s : Stage Context σ}
    (h : Stage.Passes (Initiator.mechanism env config) transport request (.first request w) s) :
    ((s.taken (Initiator.mechanism env config) request).1.1.status = .complete →
        s.ctx ≠ .new ∧ Unmarked (s.stepped (Initiator.mechanism env config) request)) ∧
      ((s.taken (Initiator.mechanism env config) request).1.1.status ≠ .complete →
        Underway (s.stepped (Initiator.mechanism env config) request)) :=
  (underway_of_passes h).took (took_of_stage s)

/-- Where a round has led to, another round is left. -/
theorem left_ne_zero_of_passes {w : σ} {s : Stage Context σ}
    (h : Stage.Passes (Initiator.mechanism env config) transport request (.first request w) s)
    (hctx : s.ctx ≠ .new) : s.left ≠ 0 := by
  cases h with
  | refl => exact absurd rfl hctx
  | tail _ hleads =>
    cases hleads with
    | round _ hmore => exact hmore

/-- What holds at a stage. The two are a pair before the step and after a step that
does not complete. One that completes leaves them unmarked, and then it depends on
its token: once that is sent the two are marked and handed out, a pair again, and
nothing is given back; if it cannot be sent, the negotiation ends with the
transport's error, and what it gives back is the context that was never marked. -/
structure PairedAt (env : Environment (Action ε σ)) (config : Config)
    (transport : Transport (Action ε σ)) (request : Request ServiceName)
    (s : Stage Context σ) : Prop where
  before : Paired s.ctx
  early : s.ctx.state = .notCreated ∨ s.ctx.state = .negotiating
  between : (s.taken (Initiator.mechanism env config) request).1.1.status = .complete →
    Unmarked (s.stepped (Initiator.mechanism env config) request)
  complete : (s.taken (Initiator.mechanism env config) request).1.1.status = .complete →
    Paired ((s.stepped (Initiator.mechanism env config) request).opened
      (s.taken (Initiator.mechanism env config) request).1.1.granted)
  sent : (s.taken (Initiator.mechanism env config) request).1.1.status = .complete →
    ∀ w, (sendOutput transport (s.taken (Initiator.mechanism env config) request).1.1.output).run
        (s.taken (Initiator.mechanism env config) request).2 = (.ok (), w) →
      s.rest (Initiator.mechanism env config) transport request =
          (.ok ((s.stepped (Initiator.mechanism env config) request).opened
            (s.taken (Initiator.mechanism env config) request).1.1.granted), w) ∧
        s.releases (Initiator.mechanism env config) transport request = []
  unsent : (s.taken (Initiator.mechanism env config) request).1.1.status = .complete →
    ∀ e w, (sendOutput transport (s.taken (Initiator.mechanism env config) request).1.1.output).run
        (s.taken (Initiator.mechanism env config) request).2 = (.error e, w) →
      (s.rest (Initiator.mechanism env config) transport request).1 = .error (.transport e) ∧
        ∃ c session, (s.stepped (Initiator.mechanism env config) request).handle = some c ∧
          c.phase = .established session ∧
          s.releases (Initiator.mechanism env config) transport request = [.released c]
  incomplete : (s.taken (Initiator.mechanism env config) request).1.1.status ≠ .complete →
    Paired (s.stepped (Initiator.mechanism env config) request)

/-- All of this at every stage. The relations come from the step alone; what becomes of
an unmarked context is read off the two equations of a round, the one for a token that
is sent and the one for a token that is not. -/
theorem pairedAt_of_passes {w : σ} {s : Stage Context σ}
    (h : Stage.Passes (Initiator.mechanism env config) transport request (.first request w) s) :
    PairedAt env config transport request s := by
  have hunderway := underway_of_passes h
  obtain ⟨hcomplete, hincomplete⟩ := stepped_of_passes h
  have hleft : (s.taken (Initiator.mechanism env config) request).1.1.status = .complete →
      ∃ left, s.left = left + 1 := fun hstatus =>
    Nat.exists_eq_succ_of_ne_zero (left_ne_zero_of_passes h (hcomplete hstatus).1)
  refine ⟨hunderway.paired, hunderway.early, fun hstatus => (hcomplete hstatus).2,
    fun hstatus => (hcomplete hstatus).2.paired_opened _, ?_, ?_,
    fun hne => (hincomplete hne).paired⟩
  · intro hstatus w hsent
    obtain ⟨left, hleft⟩ := hleft hstatus
    constructor
    · rw [Stage.rest_of_sent hleft hsent, hstatus]
    · rw [Stage.releases_of_sent hleft hsent, hstatus]
  · intro hstatus e w hsent
    obtain ⟨left, hleft⟩ := hleft hstatus
    refine ⟨Stage.rest_of_unsent hleft hsent, ?_⟩
    -- what is unmarked holds an open context, and that is the one
    obtain ⟨c, session, hhandle, hphase⟩ :=
      (hcomplete hstatus).2.exists_open
    rw [Stage.releases_of_unsent hleft hsent, hhandle]
    exact ⟨c, session, rfl, hphase, rfl⟩

/-- What a negotiation that fails has at its end: a context that is underway, or one
that was never marked since its token could not be sent. -/
theorem exists_releases_of_failed {w : σ} {e : NegotiationError}
    (h : (Stage.rest (Initiator.mechanism env config) transport request (.first request w)).1 =
      .error e) :
    ∃ last, Stage.releases (Initiator.mechanism env config) transport request (.first request w) =
        last.handle.toList.map .released ∧
      (Underway last ∨ Unmarked last ∧ ∃ error, e = .transport error) := by
  obtain ⟨s, hpasses, ⟨-, hreleases⟩ | ⟨hreleases, hunsent⟩⟩ := Stage.exists_last h
  · exact ⟨s.ctx, hreleases, .inl (underway_of_passes hpasses)⟩
  · obtain ⟨hcomplete, hincomplete⟩ := stepped_of_passes hpasses
    refine ⟨_, hreleases, ?_⟩
    by_cases hstatus : (s.taken (Initiator.mechanism env config) request).1.1.status = .complete
    · obtain ⟨error, -, rfl, -⟩ := hunsent hstatus
      exact .inr ⟨(hcomplete hstatus).2, error, rfl⟩
    · exact .inl (hincomplete hstatus)

/-- **A handshake whose last token does not go out.** The hello is sent, and the
reply of an acceptor with the same key comes in. The step on it leaves an open
context under a state that was not marked, and this is what is given back. -/
theorem exists_stepped_of_unsent {acceptor : Acceptor} {target : ServiceName}
    {wanted : Option Oid} {flags : Flags} {left : Nat} {nonce nonce' : Bytes} {now : Instant}
    {last : Step × Context} {e : TransportError} {w w₁ w₂ w₃ w₄ w₅ : σ}
    (hmeeting : Meeting config acceptor target) (haccepts : target.accepts acceptor.name = true)
    (hnonce' : nonce'.length = Handshake.nonceSize) (hwanted : wanted = none ∨ wanted = some .psk)
    (hlast : concluded config acceptor target flags nonce nonce' now = last)
    (hdraw : (env.draw Handshake.nonceSize).run w = (.ok nonce, w₁))
    (hgreeted : (transport.send (greeted config target flags nonce).1.output).run w₁ =
      (.ok (), w₂))
    (hanswered : transport.receive.run w₂ =
      (.ok (answered config acceptor target flags nonce nonce').1.output, w₃))
    (hnow : env.now.run w₃ = (now, w₄))
    (hunsent : (transport.send last.1.output).run w₄ = (.error e, w₅)) :
    let mechanism := Initiator.mechanism env config
    let request : Request ServiceName := ⟨target, wanted, flags, left + 2⟩
    ∃ s, Stage.Passes mechanism transport request (.first request w) s ∧
      s.stepped mechanism request = ⟨some last.2, .negotiating, .empty⟩ ∧
      (s.rest mechanism transport request).1 = .error (.transport e) ∧
      s.releases mechanism transport request = [.released last.2] := by
  intro mechanism request
  subst hlast
  let greeting := greeted config target flags nonce
  let answer := (answered config acceptor target flags nonce nonce').1.output
  let last := concluded config acceptor target flags nonce nonce' now
  let start : Stage Context σ := .first request w
  let s : Stage Context σ :=
    ⟨left + 1, 2, some answer, ⟨some greeting.2, .negotiating, .empty⟩, w₃⟩
  have hgreets : start.taken mechanism request = ((greeting.1, some greeting.2), w₁) :=
    Initiator.run_initStep_greets hwanted hdraw
  have hleads : Stage.Leads mechanism transport request start s := by
    have hstepped : start.stepped mechanism request = ⟨some greeting.2, .negotiating, .empty⟩ := by
      rw [Stage.stepped, hgreets]
      rfl
    have hsaid : (sendOutput transport (start.taken mechanism request).1.1.output).run
        (start.taken mechanism request).2 = (.ok (), w₂) := by
      rw [hgreets]
      exact (run_sendOutput (Cbor.writeRecord_ne_nil _) _).trans hgreeted
    have hround := Stage.Leads.round (s := start) rfl (Nat.succ_ne_zero left) (by rw [hgreets]; rfl)
      hsaid hanswered
    rw [hstepped] at hround
    exact hround
  -- the second step completes, and its context is not marked before its token is sent
  have hfinishes : s.taken mechanism request = ((last.1, some last.2), w₄) := by
    let reply := acceptor.answer (Initiator.hello config target flags nonce)
      (Initiator.hello config target flags nonce).encode nonce'
    have hvouched : Initiator.Vouched config greeting.1.output nonce target answer reply :=
      hmeeting.vouched_reply hnonce' haccepts
    have hlast : Initiator.finished config greeting.2 now nonce flags
        (.of greeting.1.output reply) = last := rfl
    rw [← hlast]
    exact Initiator.run_initStep_finishes hwanted rfl hvouched hnow
  have hstepped : s.stepped mechanism request = ⟨some last.2, .negotiating, .empty⟩ := by
    rw [Stage.stepped, hfinishes]
    rfl
  -- the token is lost, and so the rounds end here and the context is given back as it is
  have hlost : (sendOutput transport (s.taken mechanism request).1.1.output).run
      (s.taken mechanism request).2 = (.error e, w₅) := by
    rw [hfinishes]
    exact (run_sendOutput (Cbor.writeRecord_ne_nil _) _).trans hunsent
  have hrest : (s.rest mechanism transport request).1 = .error (.transport e) :=
    Stage.rest_of_unsent rfl hlost
  have hreleases : s.releases mechanism transport request = [.released last.2] := by
    rw [Stage.releases_of_unsent rfl hlost, hstepped]
    rfl
  refine ⟨s, ?_, ?_, ?_, ?_⟩
  · exact .single hleads
  · exact hstepped
  · exact hrest
  · exact hreleases

/-- A context that is handed out is established, and so is what it holds: it comes of a
stage that completed, and was marked there. -/
theorem paired_of_established {w : σ} {ctx : SecurityContext Context}
    (h : (Stage.rest (Initiator.mechanism env config) transport request (.first request w)).1 =
      .ok ctx) : Paired ctx ∧ ctx.state = .established := by
  obtain ⟨s, hpasses, hcomplete, rfl⟩ := Stage.exists_complete h
  exact ⟨(pairedAt_of_passes hpasses).complete hcomplete, rfl⟩

end

/-! ## What a negotiation makes and gives back

That every context which was made is given back once is a matter of counting deeds. The
engine gives back what it holds at the end, and that is one at most. So it remains to be
seen that the mechanism does not make more than what is held in the end: it makes one in
the first round, and every further round is given that one and keeps it. -/

section

variable {env : Environment (Action ε σ)} {config : Config}

/-- A step keeps what is there. The initiator never drops its context, whether it
refuses or goes on. -/
theorem isSome_of_genuine {taken : Taken ServiceName Context}
    (h : taken.Genuine (Initiator.mechanism env config)) (hbefore : taken.before.isSome = true) :
    taken.after.isSome = true := by
  obtain ⟨before, target, wanted, flags, input, step, after⟩ := taken
  have htook := Initiator.took_of_initStep h
  dsimp only at hbefore htook ⊢
  cases htook with
  | refused => exact hbefore
  | greeted | finished => rfl

/-- The rounds make as many contexts as they leave: none, or one. There are two rounds
at most, since the mechanism asks for an answer only once; so this is no induction, but
three cases. -/
theorem countP_makes_rounds {request : Request ServiceName} {left : Nat} {input : Option Bytes}
    {rounds : List (Round ServiceName Context)}
    {result : Except NegotiationError (SecurityContext Context)}
    (h : Account request left input none rounds result)
    (hgenuine : ∀ r ∈ rounds, r.taken.Genuine (Initiator.mechanism env config)) :
    (rounds.flatMap Round.deeds).countP Deed.makes =
      (held none (rounds.flatMap Round.deeds)).toList.length := by
  have hlength := Initiator.length_rounds_le h hgenuine
  rcases rounds with _ | ⟨r, _ | ⟨r', _ | ⟨r'', rest⟩⟩⟩
  · rfl
  · obtain ⟨-, hbefore⟩ := h.first r rfl
    rw [List.flatMap_singleton, r.countP_makes, r.held_deeds, hbefore]
    cases r.taken.after <;> rfl
  · -- the first round made a context, which the second one was given and kept
    obtain ⟨⟨token, hpassed, -⟩, hnext⟩ := h.next 0 r r' rfl rfl
    obtain ⟨hbefore, c, hafter⟩ := Initiator.of_continueNeeded (hgenuine r (by simp)) hpassed.status
    rw [hafter] at hnext
    obtain ⟨c', hafter'⟩ := Option.isSome_iff_exists.mp
      (isSome_of_genuine (hgenuine r' (by simp)) (hnext ▸ rfl))
    simp only [List.flatMap_cons, List.flatMap_nil, List.append_nil, List.countP_append,
      r.countP_makes, r'.countP_makes, held_append, r'.held_deeds, hbefore, hafter, hnext, hafter']
    rfl
  · simp only [List.length_cons] at hlength
    omega

/-- What a negotiation made and gave back, by how it ended. If it failed, then all was
given back. If not, then nothing was, and the context that is handed out holds what was
made. -/
structure Ledger (result : Except NegotiationError (SecurityContext Context))
    (deeds : List (Deed ServiceName Context)) : Prop where
  made : deeds.countP Deed.makes ≤ 1
  failed : ∀ e, result = .error e → deeds.countP Deed.givesBack = deeds.countP Deed.makes
  established : ∀ ctx, result = .ok ctx →
    deeds.countP Deed.makes = ctx.handle.toList.length ∧ deeds.countP Deed.givesBack = 0

/-- The ledger of some rounds and what comes after them: in the rounds things are made
and in what follows they are given back, so each count comes from one of the two. -/
theorem ledger_of_rounds {request : Request ServiceName} {left : Nat} {input : Option Bytes}
    {rounds : List (Round ServiceName Context)}
    {result : Except NegotiationError (SecurityContext Context)}
    (h : Account request left input none rounds result)
    (hgenuine : ∀ r ∈ rounds, r.taken.Genuine (Initiator.mechanism env config)) :
    Ledger result (rounds.flatMap Round.deeds ++
      givenBack (held none (rounds.flatMap Round.deeds)) result) := by
  have hmakes := countP_makes_rounds h hgenuine
  obtain ⟨hnothing, hgiven⟩ :=
    countP_givenBack (ν := ServiceName) (held none (rounds.flatMap Round.deeds)) result
  refine ⟨?_, ?_, ?_⟩
  · rw [List.countP_append, hmakes, hnothing]
    cases held none (rounds.flatMap Round.deeds) <;> simp
  · rintro e rfl
    rw [List.countP_append, List.countP_append, countP_givesBack_rounds, hmakes, hnothing, hgiven,
      Nat.zero_add, Nat.add_zero]
  · rintro ctx rfl
    rw [List.countP_append, List.countP_append, countP_givesBack_rounds, hmakes, hnothing, hgiven,
      (h.ends.holds none).2]
    exact ⟨rfl, rfl⟩

/-- **A negotiation makes one context at most, and keeps none for itself.** Importing
the name comes before the rounds and does neither. -/
theorem establish_ledger (transport : Transport (Action ε σ)) (maxRounds : Nat) (target : String)
    (requested : Flags) (wanted : Option Oid) :
    (establish (Initiator.mechanism env config).observed transport.observed maxRounds target
      requested wanted).Leaves Ledger := by
  refine .told_bind ?_
  rintro (status | name)
  · exact .pure ⟨Nat.zero_le 1, fun _ _ => rfl, nofun⟩
  · refine .note_bind ((Initiator.rounds_genuinely env config transport _ maxRounds 1 none).mono ?_)
    rintro _ _ ⟨rounds, haccount, hgenuine, rfl⟩
    have hledger := ledger_of_rounds haccount hgenuine
    -- that the name was imported counts for nothing
    exact ⟨hledger.made, hledger.failed, hledger.established⟩

end

/-! ## Using

A use goes to the mechanism only if the engine's state is established, and then, in a
pair, the phase is as well. So both operations on messages work on a session, and for
those it is known what they do. Here this is put into the engine's terms: what is left
of the context, and who is blamed for a code that is not verified. -/

/-- Whoever is at fault by the engine's measure is so by the mechanism's. -/
theorem Refusal.isIntegrityFailure_of_blamesToken {e : Refusal} (h : e.blamesToken = true) :
    e.status.major.isIntegrityFailure = true := by
  cases e with
  | malformed | wrongDirection | replayed | forged => rfl
  | _ => cases h

section

variable {env : Environment (Action ε σ)} {config : Config} {c : Context} {s : Session}

/-- Wrapping leaves an established context established, whatever comes of it. It fails
if the time is over, if no nonce is drawn or if the numbers are used up, and in each
case the session is still there; only its counter may have moved. -/
theorem Context.wrap_stays (env : Environment (Action ε σ)) (hc : c.phase = .established s)
    (w : σ) (message : Bytes) (confidential : Bool) :
    ∃ s', ((c.wrap env message confidential).run w).1.2 = c.withSession s' := by
  cases hlive : s.checkExpiry (env.now.run w).1 with
  | error e =>
    refine ⟨s, ?_⟩
    rw [run_wrap_expired hc w message confidential hlive, withSession_self hc]
  | ok =>
    rw [run_wrap hc w message confidential hlive]
    by_cases hseals : s.seals confidential = true
    · rw [if_pos hseals]
      cases ((env.draw Sealed.nonceSize).run (env.now.run w).2).1 with
      | error e => exact ⟨s, (withSession_self hc).symm⟩
      | ok nonce => exact ⟨_, rfl⟩
    · rw [if_neg hseals]
      cases s.wrapOpen message with
      | error e => exact ⟨s, (withSession_self hc).symm⟩
      | ok wrapped => exact ⟨_, rfl⟩

/-- Verifying through the mechanism is verifying with the session at the time that the
clock shows. A code that is verified moves the session on, and a refusal goes back as its
status and leaves the context as it was. -/
theorem Initiator.verifyMic_cases (hc : c.phase = .established s) {w w' : σ}
    {message token : Bytes} {result : Except Status Unit} {after : Context}
    (h : ((mechanism env config).verifyMic c message token).run w = ((result, after), w')) :
    (∃ s', s.verifyMic (env.now.run w).1 message token = .ok s' ∧ result = .ok () ∧
        after = c.withSession s') ∨
      ∃ e, s.verifyMic (env.now.run w).1 message token = .error e ∧ result = .error e.status ∧
        after = c := by
  have hvalue : (result, after) =
      ((((c.timed env fun now => c.verifyMic now message token).run w).1.1).mapError
        Refusal.status, ((c.timed env fun now => c.verifyMic now message token).run w).1.2) :=
    (congrArg Prod.fst h).symm
  rw [Context.run_timed, Context.verifyMic_eq hc] at hvalue
  cases hverified : s.verifyMic (env.now.run w).1 message token with
  | ok s' =>
    rw [hverified] at hvalue
    obtain ⟨rfl, rfl⟩ := Prod.mk.inj hvalue
    exact .inl ⟨s', rfl, rfl, rfl⟩
  | error e =>
    rw [hverified] at hvalue
    obtain ⟨rfl, rfl⟩ := Prod.mk.inj hvalue
    exact .inr ⟨e, rfl, rfl, rfl⟩

/-- Why a code is not verified: the time is over, or the token is to blame. The time is
looked at first, so nothing is said of a token that comes too late. -/
theorem Session.verifyMic_error {now : Instant} {message token : Bytes} {e : Refusal}
    (h : s.verifyMic now message token = .error e) :
    (s.checkExpiry now = .error .expired ∧ e = .expired) ∨
      (s.checkExpiry now = .ok () ∧ e.blamesToken = true) := by
  cases hlive : s.checkExpiry now with
  | ok => exact .inr ⟨rfl, blamesToken_of_verifyMic hlive h⟩
  | error refusal =>
    have hover : refusal = .expired := by
      unfold checkExpiry at hlive
      split at hlive
      · split at hlive
        · exact (Except.error.inj hlive).symm
        · cases hlive
      · cases hlive
    subst hover
    refine .inl ⟨rfl, ?_⟩
    rw [verifyMic, hlive] at h
    exact (Except.error.inj h).symm

/-- What the engine makes of a code that the mechanism rejects at a time. -/
inductive Judged (s : Session) (now : Instant) (status : Status) : ProtectionError → Prop where
  /-- The time is over. -/
  | expired (hover : s.checkExpiry now = .error .expired)
      (hstatus : status.major = .contextExpired) : Judged s now status (.rejected status)
  /-- The token is to blame. -/
  | blamed (hlive : s.checkExpiry now = .ok ()) (hstatus : status.major ≠ .contextExpired) :
      Judged s now status (.integrityFailed status)

/-- The engine's judgement is right. It sees only the major status, and of the refusals
of a verification it is those on account of the token that have one of an integrity
failure. -/
theorem Session.judged_of_verifyMic {now : Instant} {message token : Bytes} {e : Refusal}
    (h : s.verifyMic now message token = .error e) :
    Judged s now e.status (.ofVerifying e.status) := by
  rcases s.verifyMic_error h with ⟨hover, rfl⟩ | ⟨hlive, hblames⟩
  · exact .expired hover rfl
  · unfold ProtectionError.ofVerifying
    rw [if_pos (Refusal.isIntegrityFailure_of_blamesToken hblames)]
    exact .blamed hlive (Refusal.major_ne_of_blamesToken hblames)

/-! ## What a use keeps

`Keeps` is all that is claimed of one use, in named parts. It is shown from `Used.Does`,
one part after the other, and each by cases of what the use did. Most cases do not
arise: a use that got to the mechanism was let through, and one that was shut out was
not. -/

/-- What holds of a use of a context that is a pair with the mechanism's. It stays one;
only closing changes the state; what is not established gets to the mechanism no more;
and what the mechanism rejects is told as what it is. -/
structure Keeps (env : Environment (Action ε σ)) (config : Config)
    (u : Used ServiceName Context σ) : Prop where
  before : Paired u.before
  after : Paired u.after
  state : u.after.state = if u.use = .release then .closed else u.before.state
  /-- That it is observed changes nothing. -/
  unseen : (u.before.use (Initiator.mechanism env config) u.use).run u.world =
    ((u.returned, u.after), u.later)
  /-- Without an established context the mechanism is not asked. -/
  shut : u.before.state ≠ .established →
    ∀ returned, u.use.shut u.before.state = some returned →
      u.returned = returned ∧ u.after = u.before ∧ u.later = u.world ∧ u.deeds = []
  /-- Under an established one it is, once. -/
  protects : u.before.state = .established →
    ∀ message confidential, u.use = .protect message confidential →
      ∃ c result after, u.before.handle = some c ∧
        u.deeds = [.wrapped c message confidential result after] ∧
        u.returned = .wrapped (result.mapError .rejected)
  verifies : u.before.state = .established →
    ∀ message token, u.use = .verify message token →
      ∃ c s result after, u.before.handle = some c ∧ c.phase = .established s ∧
        u.deeds = [.verified c message token result after] ∧
        match result with
        | .ok () => u.returned = .verified (.ok ())
        | .error status => ∃ e, u.returned = .verified (.error e) ∧
            Judged s (env.now.run u.world).1 status e
  /-- Whatever is wrong with a message that is protected, it is no token. -/
  unblamed : ∀ status, u.returned ≠ .wrapped (.error (.integrityFailed status))
  inquires : u.use = .inquire → u.after = u.before
  closes : u.use = .release → u.deeds = u.before.handle.toList.map .released

/-- In a pair, what the engine lets through is an established context, and every
established context is let through. -/
theorem Paired.openHandle_eq_ok_iff {ctx : SecurityContext Context} (h : Paired ctx) :
    ctx.openHandle = .ok c ↔
      ctx.state = .established ∧ ctx.handle = some c ∧ ∃ s, c.phase = .established s := by
  rw [SecurityContext.openHandle_eq_ok_iff]
  cases h with
  | notCreated | negotiating | closed => exact ⟨fun hc => (nomatch hc.1), fun hc => (nomatch hc.1)⟩
  | @established c' s granted hphase =>
    constructor
    · rintro ⟨-, hhandle⟩
      obtain rfl := Option.some.inj hhandle
      exact ⟨rfl, rfl, s, hphase⟩
    · rintro ⟨-, hhandle, -⟩
      exact ⟨rfl, hhandle⟩

/-- An established context is let through, and it holds one to be let through to. -/
theorem Paired.exists_openHandle {ctx : SecurityContext Context} (h : Paired ctx)
    (hstate : ctx.state = .established) : ∃ c, ctx.openHandle = .ok c := by
  cases h with
  | notCreated | negotiating | closed => cases hstate
  | @established c s granted hphase => exact ⟨c, rfl⟩

theorem Paired.exists_handle {ctx : SecurityContext Context} (h : Paired ctx)
    (hstate : ctx.state = .established) : ∃ c, ctx.handle = some c := by
  obtain ⟨c, hc⟩ := h.exists_openHandle hstate
  exact ⟨c, (h.openHandle_eq_ok_iff.mp hc).2.1⟩

section

variable {u : Used ServiceName Context σ}

/-- A use leaves a pair. Only the operations on messages change what is held, and they
leave it established; closing takes it out and changes the state along with it. -/
theorem Paired.after (hdoes : u.Does (Initiator.mechanism env config)) (h : Paired u.before) :
    Paired u.after := by
  cases hdoes with
  | @wraps ctx handle after w w' message confidential result hopen hwrap =>
    -- what was let through is open, and a wrap only moves its counter
    obtain ⟨hstate, -, s, hphase⟩ := h.openHandle_eq_ok_iff.mp hopen
    obtain ⟨s', hafter⟩ := Context.wrap_stays env hphase w message confidential
    have hwrapped : ((handle.wrap env message confidential).run w).1.2 = after :=
      congrArg (fun done => done.1.2) hwrap
    rw [← hwrapped, hafter, hstate]
    exact .established rfl
  | @verifies ctx handle after w w' message token result hopen hverify =>
    obtain ⟨hstate, -, s, hphase⟩ := h.openHandle_eq_ok_iff.mp hopen
    rw [hstate]
    obtain ⟨s', -, -, rfl⟩ | ⟨e, -, -, rfl⟩ := Initiator.verifyMic_cases hphase hverify
    · exact .established rfl
    · exact .established hphase
  | shut | inquires | unknown => exact h
  | releases => exact .closed

/-- **What every use keeps.** One part of `Keeps` after the other, each by what the use
did. What got to the mechanism was let through, so the state was established; what was
shut out was not, so the state was another one. -/
theorem keeps_of_does (hdoes : u.Does (Initiator.mechanism env config)) (h : Paired u.before)
    (hunseen : (u.before.use (Initiator.mechanism env config) u.use).run u.world =
      ((u.returned, u.after), u.later)) : Keeps env config u where
  before := h
  after := h.after hdoes
  state := hdoes.state_eq
  unseen := hunseen
  shut := by
    intro hstate returned hreturned
    -- what gets to the mechanism is let through, and then the context is established
    cases hdoes with
    | wraps hopen | verifies hopen => exact absurd (h.openHandle_eq_ok_iff.mp hopen).1 hstate
    | shut _ hanswer =>
      obtain rfl := Option.some.inj (hanswer.symm.trans hreturned)
      exact ⟨rfl, rfl, rfl, rfl⟩
    | inquires | unknown | releases => cases hreturned
  protects := by
    intro hstate message confidential huse
    obtain ⟨c, hc⟩ := h.exists_openHandle hstate
    cases hdoes with
    | @wraps ctx handle after w w' _ _ result hopen hwrap =>
      cases huse
      exact ⟨handle, result, after, (h.openHandle_eq_ok_iff.mp hopen).2.1, rfl, rfl⟩
    | shut hshut => cases hc.symm.trans hshut
    | verifies | inquires | unknown | releases => cases huse
  verifies := by
    intro hstate message token huse
    obtain ⟨c, hc⟩ := h.exists_openHandle hstate
    cases hdoes with
    | @verifies ctx handle after w w' _ _ result hopen hverify =>
      cases huse
      obtain ⟨-, hhandle, s, hphase⟩ := h.openHandle_eq_ok_iff.mp hopen
      refine ⟨handle, s, result, after, hhandle, hphase, rfl, ?_⟩
      -- the mechanism's answer is its session's, and the engine's is judged by that
      obtain ⟨s', -, rfl, -⟩ | ⟨e, hrefused, rfl, -⟩ := Initiator.verifyMic_cases hphase hverify
      · rfl
      · exact ⟨_, rfl, s.judged_of_verifyMic hrefused⟩
    | shut hshut => cases hc.symm.trans hshut
    | wraps | inquires | unknown | releases => cases huse
  unblamed := by
    intro status
    cases hdoes with
    | @wraps _ _ _ _ _ _ _ result hopen hwrap => cases result <;> exact nofun
    | @shut ctx use w returned hshut hreturned =>
      cases use with
      | protect message confidential =>
        cases hreturned
        exact nofun
      | verify message token =>
        cases hreturned
        exact nofun
      | inquire | release => cases hreturned
    | verifies | inquires | unknown | releases => exact nofun
  inquires := by
    intro huse
    cases hdoes with
    | wraps | verifies | releases => cases huse
    | shut | inquires | unknown => rfl
  closes := by
    intro huse
    exact (hdoes.closes huse).2

end

/-- Every use of a context that is a pair with the mechanism's, however many there were
before it. A use keeps the pair, which is the invariant, and from the pair comes what is
claimed of the use. -/
theorem keeps_visits {ctx : SecurityContext Context} (h : Paired ctx) (w : σ)
    (occasions : List (Occasion σ)) :
    ∀ u ∈ ctx.visits (Initiator.mechanism env config) w occasions, Keeps env config u := by
  refine SecurityContext.forall_visits (I := Paired) ?_ h w occasions
  intro ctx use w hctx
  have hdoes := ctx.used_does (Initiator.mechanism env config) use w
  have hunseen := congrFun (ctx.run_use_observed (Initiator.mechanism env config) use) w
  exact ⟨hctx.after hdoes, keeps_of_does hdoes hctx hunseen.symm⟩

end

/-! ## A transport that loses a token

What is unmarked can be met with: it takes a transport that fails for one token and for
no other. -/

/-- One token cannot be sent, all others are, and what comes in is always the same. -/
def losing (lost answer : Bytes) (e : TransportError) : Transport (Action ε σ) :=
  ⟨fun token => pure (if token = lost then .error e else .ok ()), pure (.ok answer)⟩

section

variable {lost answer token : Bytes} {e : TransportError}

theorem run_send_lost (w : σ) :
    ((losing lost answer e : Transport (Action ε σ)).send lost).run w = (.error e, w) :=
  congrArg (·, w) (if_pos rfl)

theorem run_send_other (h : token ≠ lost) (w : σ) :
    ((losing lost answer e : Transport (Action ε σ)).send token).run w = (.ok (), w) :=
  congrArg (·, w) (if_neg h)

end

/-! ## The whole course

A negotiation begins with a name, and the rest depends on whether that can be imported.
If it can, everything is about the stages from the first one on; then the context comes
out, and everything is about its uses. -/

/-- What comes of using a context that is established. It makes nothing, every use keeps
the pair, and what is held is given back once: when somebody closes it first, and if
nobody does then when it is dropped. -/
theorem visits_of_established {env : Environment (Action ε σ)} {config : Config}
    {ctx : SecurityContext Context} (hpaired : Paired ctx) (hstate : ctx.state = .established)
    (w : σ) (occasions : List (Occasion σ)) :
    let mechanism := Initiator.mechanism env config
    let uses := ctx.visits mechanism w occasions
    (∀ u ∈ uses, Keeps env config u) ∧
      (uses.Pairwise fun u u' =>
        u.after.state = .closed → u'.before.state = .closed ∧ u'.after.state = .closed) ∧
      (uses.flatMap Used.deeds).countP Deed.makes = 0 ∧
      (uses.flatMap Used.deeds).countP Deed.givesBack =
        (if ∃ occasion ∈ occasions, occasion.use = .release then 1 else 0) ∧
      ((ctx.visits mechanism w (occasions ++ [.drop])).flatMap Used.deeds).countP
        Deed.givesBack = 1 := by
  intro mechanism uses
  obtain ⟨c, hholds⟩ := hpaired.exists_handle hstate
  refine ⟨keeps_visits hpaired w occasions, ctx.pairwise_closed_visits w occasions,
    ctx.countP_makes_visits w occasions, ?_, ?_⟩
  · rw [ctx.countP_givesBack_visits w occasions]
    simp only [hholds, Option.isSome_some, true_and]
  · -- with the drop at the end there is a closing in any case
    rw [ctx.countP_givesBack_visits w (occasions ++ [Occasion.drop]), if_pos]
    exact ⟨by rw [hholds]; rfl, .drop, by simp, rfl⟩

/-- **The engine's context and the mechanism's.**

The two are a pair before every round of a negotiation, after every step that does
not complete, in the context that comes of it, and after every use of that: the
engine holds nothing before the first step and after closing, a context that waits
for the reply while it negotiates, and an open one while it is established. From a
step that completes until its token is sent they are none. A negotiation that fails
gives back what it made, which is one context at most, and if it fails because the
last token could not be sent, then that is the open context of this step.

Of a context that is handed out every use `Keeps` all that is said there, and once
closed it stays closed. What was made is given back once, the first time that
somebody closes it, however often that is done, and if nobody does then when it is
dropped. -/
theorem paired_except_unmarked (env : Environment (Action ε σ)) (config : Config)
    (transport : Transport (Action ε σ)) (maxRounds : Nat) (target : String) (requested : Flags)
    (wanted : Option Oid) (w : σ) :
    let mechanism := Initiator.mechanism env config
    let observed : Action (Deed ServiceName Context) σ _ :=
      establish mechanism.observed transport.observed maxRounds target requested wanted
    let deeds := observed.events w
    observed.run w = (establish mechanism transport maxRounds target requested wanted).run w ∧
    (∀ name, ServiceName.parse target = .ok name →
      let request : Request ServiceName := ⟨name, wanted, requested ||| .of [.replay], maxRounds⟩
      observed.run w = Stage.rest mechanism transport request (.first request w) ∧
        ∀ s, Stage.Passes mechanism transport request (.first request w) s →
          Stage.rest mechanism transport request s = observed.run w ∧
            Stage.releases mechanism transport request s = deeds.filter Deed.givesBack ∧
            PairedAt env config transport request s) ∧
    match (observed.run w).1 with
    | .error e =>
      deeds.countP Deed.givesBack = deeds.countP Deed.makes ∧ deeds.countP Deed.makes ≤ 1 ∧
      ∃ last : SecurityContext Context,
        deeds.filter Deed.givesBack = last.handle.toList.map .released ∧
        (Underway last ∨ Unmarked last ∧ ∃ error, e = .transport error)
    | .ok ctx =>
      Paired ctx ∧ ctx.state = .established ∧
      deeds.countP Deed.makes = 1 ∧ deeds.countP Deed.givesBack = 0 ∧
      ∀ (later : σ) (occasions : List (Occasion σ)),
        let uses := ctx.visits mechanism later occasions
        (∀ u ∈ uses, Keeps env config u) ∧
        (uses.Pairwise fun u u' =>
          u.after.state = .closed → u'.before.state = .closed ∧ u'.after.state = .closed) ∧
        (uses.flatMap Used.deeds).countP Deed.makes = 0 ∧
        (uses.flatMap Used.deeds).countP Deed.givesBack =
          (if ∃ occasion ∈ occasions, occasion.use = .release then 1 else 0) ∧
        ((ctx.visits mechanism later (occasions ++ [.drop])).flatMap Used.deeds).countP
          Deed.givesBack = 1 := by
  intro mechanism observed deeds
  have hunseen : observed.run w =
      (establish mechanism transport maxRounds target requested wanted).run w :=
    congrFun (run_establish_observed mechanism transport ..) w
  have hledger : Ledger (observed.run w).1 deeds :=
    establish_ledger transport maxRounds target requested wanted w
  cases hname : ServiceName.parse target with
  | error status =>
    have himported : (mechanism.importName target).run w = (.error status, w) :=
      congrArg (·, w) hname
    have hresult : (observed.run w).1 = .error (.badName status) := by
      rw [hunseen, run_establish_badName himported]
    -- that the name is refused is the only deed
    have hdeeds : deeds = [.imported target (.error status)] :=
      events_establish_badName mechanism transport himported
    refine ⟨hunseen, nofun, ?_⟩
    rw [hresult, hdeeds]
    exact ⟨rfl, Nat.zero_le 1, .new, rfl, .inl .fresh⟩
  | ok name =>
    have himported : (mechanism.importName target).run w = (.ok name, w) :=
      congrArg (·, w) hname
    obtain ⟨hstarts, hreleases⟩ := Stage.Passes.observed_eq himported .refl
    refine ⟨hunseen, ?_, ?_⟩
    · rintro _ ⟨⟩
      refine ⟨hstarts.symm, ?_⟩
      intro s hpasses
      obtain ⟨hrest, hgiven⟩ := hpasses.observed_eq himported
      exact ⟨hrest, hgiven, pairedAt_of_passes hpasses⟩
    · cases hresult : (observed.run w).1 with
      | error e =>
        have hfailed := (congrArg Prod.fst hstarts).trans hresult
        obtain ⟨last, hgiven, hlast⟩ := exists_releases_of_failed hfailed
        refine ⟨hledger.failed e hresult, hledger.made, last, ?_, hlast⟩
        exact hreleases.symm.trans hgiven
      | ok ctx =>
        obtain ⟨hmade, hgiven⟩ := hledger.established ctx hresult
        obtain ⟨hpaired, hstate⟩ :=
          paired_of_established ((congrArg Prod.fst hstarts).trans hresult)
        obtain ⟨c, hholds⟩ := hpaired.exists_handle hstate
        refine ⟨hpaired, hstate, ?_, hgiven, visits_of_established hpaired hstate⟩
        rw [hmade, hholds]
        rfl

/-- A code that is none is verified, the context is closed, and both are done again.
The first code is to blame; the second one nobody looks at. -/
theorem paired_of_closed_twice :
    let key : PreSharedKey := ⟨List.replicate 16 7, Nat.le_refl 16⟩
    let config : Config := ⟨key, "alice", Config.defaultLifetime⟩
    let service : ServiceName := ⟨"echo", some "host"⟩
    let acceptor : Acceptor := ⟨⟨key, "echo@host", Config.defaultLifetime⟩, service, true⟩
    let env : Environment (Action Empty Simulated) := Simulated.environment
    let nonce : Bytes := List.replicate 32 5
    let world := Simulated.ofSupply nonce
    let reply := (answered config acceptor service (.of [.replay]) nonce nonce).1.output
    let transport : Transport (Action Empty Simulated) :=
      ⟨fun _ => pure (.ok ()), pure (.ok reply)⟩
    let mechanism := Initiator.mechanism env config
    let observed : Action (Deed ServiceName Context) Simulated _ :=
      establish mechanism.observed transport.observed 2 "echo@host" .empty none
    ∃ ctx, (observed.run world).1 = .ok ctx ∧ Paired ctx ∧ ctx.state = .established ∧
      (observed.events world).countP Deed.makes = 1 ∧
      let occasions : List (Occasion Simulated) :=
        [⟨id, .verify [] [1]⟩, ⟨id, .release⟩, ⟨id, .verify [] [1]⟩, ⟨id, .release⟩]
      let uses := ctx.visits mechanism world occasions
      uses.map Used.returned = [
        .verified (.error (.integrityFailed ⟨.defectiveToken, Minor.malformed⟩)), .nothing,
        .verified (.error (.contextNotOpen .closed)), .nothing] ∧
      (uses.flatMap Used.deeds).countP Deed.givesBack = 1 := by
  intro key config service acceptor env nonce world reply transport mechanism observed
  have hmeeting : Meeting config acceptor service :=
    ⟨rfl, by decide +kernel, by decide +kernel, by decide, by decide, by decide⟩
  have hservice : ServiceName.parse? "echo@host" = some service := by decide +kernel
  let last := concluded config acceptor service (.empty ||| .of [.replay]) nonce nonce ⟨.zero⟩
  have hestablished : (establish mechanism transport 2 "echo@host" .empty none).run world =
      (.ok ⟨some last.2, .established, last.1.granted⟩, Simulated.ofSupply []) :=
    Initiator.run_establish_answered hmeeting (ServiceName.accepts_self service) rfl
      (Nat.le_refl 2) (.inl rfl) hservice rfl rfl rfl rfl rfl rfl rfl
  obtain ⟨hunseen, -, hcourse⟩ :=
    paired_except_unmarked env config transport 2 "echo@host" .empty none world
  rw [hestablished] at hunseen
  have hresult : (observed.run world).1 = .ok _ := congrArg Prod.fst hunseen
  rw [hresult] at hcourse
  obtain ⟨hpaired, hstate, hmade, -, huses⟩ := hcourse
  refine ⟨_, hresult, hpaired, hstate, hmade, ?_⟩
  intro occasions uses
  obtain ⟨-, -, -, hgiven, -⟩ := huses world occasions
  rw [if_pos ⟨⟨id, .release⟩, by simp [occasions], rfl⟩] at hgiven
  refine ⟨?_, hgiven⟩
  decide +kernel

/-- The reply comes in and is vouched for, and the last token does not go out. The
engine says that it negotiates, the context that it holds is open, and this is the
one that is given back. -/
theorem unpaired_of_unsent_finish :
    let key : PreSharedKey := ⟨List.replicate 16 7, Nat.le_refl 16⟩
    let config : Config := ⟨key, "alice", Config.defaultLifetime⟩
    let service : ServiceName := ⟨"echo", some "host"⟩
    let acceptor : Acceptor := ⟨⟨key, "echo@host", Config.defaultLifetime⟩, service, true⟩
    let env : Environment (Action Empty Simulated) := Simulated.environment
    let nonce : Bytes := List.replicate 32 5
    let world := Simulated.ofSupply nonce
    let flags : Flags := .of [.replay]
    let reply := (answered config acceptor service flags nonce nonce).1.output
    let finish := (concluded config acceptor service flags nonce nonce ⟨.zero⟩).1.output
    let broken : TransportError := .io (.ofKind .brokenPipe)
    let transport : Transport (Action Empty Simulated) := losing finish reply broken
    let mechanism := Initiator.mechanism env config
    let request : Request ServiceName := ⟨service, none, .empty ||| .of [.replay], 2⟩
    let observed : Action (Deed ServiceName Context) Simulated _ :=
      establish mechanism.observed transport.observed 2 "echo@host" .empty none
    ∃ s, Stage.Passes mechanism transport request (.first request world) s ∧
      ∃ c session, s.stepped mechanism request = ⟨some c, .negotiating, .empty⟩ ∧
        c.phase = .established session ∧ ¬ Paired (s.stepped mechanism request) ∧
        (observed.run world).1 = .error (.transport broken) ∧
        (observed.events world).filter Deed.givesBack = [.released c] := by
  intro key config service acceptor env nonce world flags reply finish broken transport mechanism
    request observed
  have hmeeting : Meeting config acceptor service :=
    ⟨rfl, by decide +kernel, by decide +kernel, by decide, by decide, by decide⟩
  have hservice : ServiceName.parse? "echo@host" = some service := by decide +kernel
  have himported : (mechanism.importName "echo@host").run world = (.ok service, world) :=
    congrArg (·, world) (ServiceName.parse_eq_ok_iff.mpr hservice)
  let last := concluded config acceptor service flags nonce nonce ⟨.zero⟩
  -- the hello goes out, since it is another record than the finish
  have hother : (greeted config service flags nonce).1.output ≠ finish := by
    intro h
    have hheads : some (0xa6 : UInt8) = some 0xa1 := congrArg List.head? h
    cases hheads
  have hfails : ∃ s, Stage.Passes mechanism transport request (.first request world) s ∧
      s.stepped mechanism request = ⟨some last.2, .negotiating, .empty⟩ ∧
      (s.rest mechanism transport request).1 = .error (.transport broken) ∧
      s.releases mechanism transport request = [.released last.2] :=
    exists_stepped_of_unsent hmeeting (ServiceName.accepts_self service) rfl (.inl rfl) rfl rfl
      (run_send_other hother _) rfl rfl (run_send_lost _)
  obtain ⟨s, hpasses, hstepped, hrest, hreleases⟩ := hfails
  obtain ⟨session, hphase⟩ : ∃ session, last.2.phase = .established session := ⟨_, rfl⟩
  obtain ⟨hstarts, hgiven⟩ := hpasses.observed_eq himported
  refine ⟨s, hpasses, last.2, session, hstepped, hphase, ?_, ?_, ?_⟩
  · rw [hstepped]
    exact (Unmarked.completed hphase).not_paired
  · exact (congrArg Prod.fst hstarts).symm.trans hrest
  · exact hgiven.symm.trans hreleases

end GssContext.Psk
