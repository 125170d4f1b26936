/-
The end of a context's time.

Each side counts its lifetime from the moment at which its own last step was taken, and
the end is a moment of the clock or, if the clock does not reach that far, there is none.
No call ever moves the end (`Context.exists_session_ending`), so a run of calls is looked
at in one place only: what a call does when the end is reached, and what it does before.

The time is checked first. So once the end is reached a call looks at the clock and does
nothing else, whatever it was given, and the context is the same for the next call. Before
the end the status of an expired context can only be the counter's, since what is wrong
with a token has a status of its own.
-/
import GssContext.Proofs.Client.Calling
import GssContext.Proofs.Psk.Delivery

set_option autoImplicit false

namespace GssContext

/-! ## The end of a lifetime

A lifetime that reaches beyond the range of the clock has no end: adding it gives no
moment, and the context is recorded without one. So being over is not simply a
comparison of sums. In numbers it is one together with the condition that the sum is in
range, and this condition stands in the theorem. -/

namespace Instant

/-- A lifetime that began at one moment is over at another: its end is a moment of the
clock, and it is reached. -/
def Over (began : Instant) (lifetime : Duration) (now : Instant) : Prop :=
  ∃ deadline, began.plus? lifetime = some deadline ∧ now.reached deadline = true

/-- Adding a lifetime gives a moment exactly if the sum is in the range of the clock,
and it is the sum then. -/
theorem plus?_eq_some_iff {began deadline : Instant} {lifetime : Duration} :
    began.plus? lifetime = some deadline ↔
      Duration.seconds ⟨began.since.nanos + lifetime.nanos⟩ < endOfRange ∧
        deadline = ⟨⟨began.since.nanos + lifetime.nanos⟩⟩ := by
  rw [plus?]
  by_cases hrange : Duration.seconds ⟨began.since.nanos + lifetime.nanos⟩ < endOfRange
  · rw [if_pos hrange, Option.some.injEq, and_iff_right hrange, eq_comm]
  · rw [if_neg hrange]
    exact iff_of_false (Option.some_ne_none deadline).symm fun h => hrange h.1

/-- In numbers: the clock reaches the sum, and it has. -/
theorem over_iff {began now : Instant} {lifetime : Duration} :
    began.Over lifetime now ↔
      Duration.seconds ⟨began.since.nanos + lifetime.nanos⟩ < endOfRange ∧
        began.since.nanos + lifetime.nanos ≤ now.since.nanos := by
  constructor
  · rintro ⟨deadline, hdeadline, hreached⟩
    obtain ⟨hrange, rfl⟩ := plus?_eq_some_iff.mp hdeadline
    exact ⟨hrange, of_decide_eq_true hreached⟩
  · rintro ⟨hrange, hle⟩
    exact ⟨_, plus?_eq_some_iff.mpr ⟨hrange, rfl⟩, decide_eq_true hle⟩

theorem Over.mono {began now later : Instant} {lifetime : Duration}
    (h : began.Over lifetime now) (hle : now.since.nanos ≤ later.since.nanos) :
    began.Over lifetime later :=
  over_iff.mpr ⟨(over_iff.mp h).1, Nat.le_trans (over_iff.mp h).2 hle⟩

end Instant

/-! ## Refusals through the engine

The engine holds the context and passes operations on. Where the mechanism refuses and
gives its context back as it was, the engine has what it had, and only the error is its
own. For a code the error depends on whether the status blames the token. -/

namespace SecurityContext

variable {ε σ ν κ : Type} {mechanism : Mechanism (Action ε σ) ν κ} {ctx : SecurityContext κ}
  {handle : κ} {status : Status} {message : Bytes} {w w' : σ}

theorem openHandle_eq_ok (hopen : ctx.isOpen = true) (hhandle : ctx.handle = some handle) :
    ctx.openHandle = .ok handle := by
  rw [openHandle, hopen, hhandle]

/-- Putting back the handle that was there changes nothing. -/
theorem with_handle_self (hhandle : ctx.handle = some handle) :
    { ctx with handle := some handle } = ctx := by
  rw [← hhandle]

/-- A mechanism that refuses to wrap and leaves its context leaves the engine's too. -/
theorem run_protect_refused (hopen : ctx.isOpen = true) (hhandle : ctx.handle = some handle)
    {confidential : Bool} (hwrap : (mechanism.wrap handle message confidential).run w =
      ((.error status, handle), w')) :
    (ctx.protect mechanism message confidential).run w =
      ((.error (.rejected status), ctx), w') := by
  have hrun := run_protect (openHandle_eq_ok hopen hhandle) hwrap
  rw [with_handle_self hhandle] at hrun
  exact hrun

/-- The same for a code that is not verified; the status tells whether the token is at fault. -/
theorem run_verify_refused (hopen : ctx.isOpen = true) (hhandle : ctx.handle = some handle)
    {token : Bytes} (hverify : (mechanism.verifyMic handle message token).run w =
      ((.error status, handle), w')) :
    (ctx.verify mechanism message token).run w = ((.error (.ofVerifying status), ctx), w') := by
  have hrun := run_verify (openHandle_eq_ok hopen hhandle) hverify
  rw [with_handle_self hhandle] at hrun
  exact hrun

end SecurityContext

namespace Psk

/-! ## What a refusal is about

The causes of a refusal fall into those that blame the token and those that do not. A
token can be blamed for being malformed, forged, replayed, or of the wrong direction,
and each of these has a status that no expired context has. So while there is time, a
status that says the contrary has to come from somewhere else, and what is left is the
counter: numbers that are used up answer like time that is over. -/

/-- Is a refusal about the token that was given? -/
def Refusal.blamesToken : Refusal → Bool
  | malformed | wrongDirection | replayed | forged => true
  | _ => false

/-- A token that is at fault has a status of its own. -/
theorem Refusal.major_ne_of_blamesToken {e : Refusal} (h : e.blamesToken = true) :
    e.status.major ≠ .contextExpired := by
  cases e with
  | malformed | wrongDirection | replayed | forged => exact nofun
  | _ => cases h

namespace Session

variable {s : Session} {now : Instant} {e : Refusal}

/-- The three checks of a header blame the token. -/
theorem blamesToken_of_openHeader {token : Bytes} (h : s.openHeader token = .error e) :
    e.blamesToken = true := by
  unfold openHeader at h
  split at h
  · cases h
    rfl
  · split at h
    · cases h
      rfl
    · split at h
      · cases h
      · cases h
        rfl

/-- So do those of a sealed body. -/
theorem blamesToken_of_unsealBody {head body : Bytes} (h : s.unsealBody head body = .error e) :
    e.blamesToken = true := by
  unfold unsealBody at h
  split at h
  · cases h
    rfl
  · split at h
    · cases h
    · cases h
      rfl

/-- So do those of a body in the open. -/
theorem blamesToken_of_verifyBody {head body : Bytes} (h : s.verifyBody head body = .error e) :
    e.blamesToken = true := by
  unfold verifyBody at h
  split at h
  · cases h
    rfl
  · dsimp only at h
    split at h
    · cases h
    · cases h
      rfl

/-- While there is time, a token is refused for what it is: for its header, for its
body, or since it is no message at all. -/
theorem blamesToken_of_unwrap {token : Bytes} (hlive : s.checkExpiry now = .ok ())
    (h : s.unwrap now token = .error e) : e.blamesToken = true := by
  rw [unwrap, hlive] at h
  simp only [bind, Except.bind] at h
  split at h
  · rename_i hopen
    cases h
    exact blamesToken_of_openHeader hopen
  · split at h
    · split at h
      · rename_i hbody
        cases h
        exact blamesToken_of_unsealBody hbody
      · cases h
    · split at h
      · rename_i hbody
        cases h
        exact blamesToken_of_verifyBody hbody
      · cases h
    · cases h
      rfl

/-- The same for a code: it is the header, the length or the code itself. -/
theorem blamesToken_of_verifyMic {message token : Bytes} (hlive : s.checkExpiry now = .ok ())
    (h : s.verifyMic now message token = .error e) : e.blamesToken = true := by
  rw [verifyMic, hlive] at h
  simp only [bind, Except.bind] at h
  split at h
  · rename_i hopen
    cases h
    exact blamesToken_of_openHeader hopen
  · split at h
    · cases h
      rfl
    · split at h
      · cases h
      · cases h
        rfl

/-- While there is time, the status of an expired context is the counter's. Of the ways
in which a call is refused most have a status of their own, and the ones that take a
token blame it. -/
theorem Step.exhausted_of_contextExpired {s' : Session} {call : Call}
    (h : s.Step now call (.refused e) s') (hlive : s.checkExpiry now = .ok ())
    (hstatus : e.status.major = .contextExpired) :
    e = .numbersUsedUp ∧ call.sends = true ∧ ¬ s.HasNumber := by
  cases h with
  | expired hover =>
    rw [hlive] at hover
    cases hover
  | exhausted hsends hnumber => exact ⟨rfl, hsends, hnumber⟩
  | noEntropy | tooLong => cases hstatus
  | notUnwrapped h =>
    exact absurd hstatus (Refusal.major_ne_of_blamesToken (blamesToken_of_unwrap hlive h))
  | notVerified h =>
    exact absurd hstatus (Refusal.major_ne_of_blamesToken (blamesToken_of_verifyMic hlive h))

/-- A session whose end is that of a lifetime is refused once the lifetime is over. -/
theorem checkExpiry_of_over {began : Instant} {lifetime : Duration}
    (hexpires : s.expiresAt = began.plus? lifetime) (hover : began.Over lifetime now) :
    s.checkExpiry now = .error .expired := by
  obtain ⟨deadline, hdeadline, hreached⟩ := hover
  rw [checkExpiry, hexpires, hdeadline]
  exact if_pos hreached

end Session

/-! ## One call

Every operation asks the clock before it does anything else. So a call on a context
whose time is over is the same action whatever it is a call for, and not only its answer
is known but also what it does to the world. -/

namespace Context

variable {ε σ : Type} {env : Environment (Action ε σ)} {c : Context} {s : Session} {w : σ}

/-- An operation that refuses at the present moment leaves the context, and the world as
it is after a look at the clock. -/
theorem run_timed_refused {α : Type} {operation : Instant → Except Refusal (α × Context)}
    {e : Refusal} (h : operation (env.now.run w).1 = .error e) :
    (c.timed env operation).run w = ((.error e, c), (env.now.run w).2) := by
  rw [timed, Action.run_bind, h]
  rfl

/-- A call on a context whose time is over looks at the clock and does nothing else. -/
theorem run_call_expired (hc : c.phase = .established s) {e : Refusal}
    (hover : s.checkExpiry (env.now.run w).1 = .error e) (call : Call) :
    (c.call env call).run w = ((.refused e, c), (env.now.run w).2) := by
  -- the time is the first thing that each of the four looks at
  cases call with
  | wrap message confidential =>
    rw [Context.call, Action.run_bind, run_wrap_expired hc w message confidential hover]
    rfl
  | getMic message =>
    have hmic : c.getMic (env.now.run w).1 message = .error e := by
      rw [getMic_eq hc, Session.getMic, hover]
      rfl
    rw [Context.call, Action.run_bind, run_timed_refused hmic]
    rfl
  | unwrap token =>
    have hunwrap : c.unwrap (env.now.run w).1 token = .error e := by
      rw [unwrap_eq hc, Session.unwrap, hover]
      rfl
    rw [Context.call, Action.run_bind, run_timed_refused hunwrap]
    rfl
  | verifyMic message token =>
    have hverify : c.verifyMic (env.now.run w).1 message token = .error e := by
      rw [verifyMic_eq hc, Session.verifyMic, hover]
      rfl
    rw [Context.call, Action.run_bind, run_timed_refused hverify]
    rfl

/-! ## A run of calls

Calls do not move the end. That is an induction on the calls, and all that is used of a
call is that it is one of the steps; after it every statement about a later call is a
statement about a single one. -/

/-- The context after a run of calls, each made in a world of its own. The worlds need
not follow from each other, so the clock may be anything at each call. -/
def ending (env : Environment (Action ε σ)) (c : Context) (calls : List (Call × σ)) : Context :=
  calls.foldl (fun c call => ((c.call env call.1).run call.2).1.2) c

/-- The clock does not go back during a run. -/
def Advances (env : Environment (Action ε σ)) (calls : List (Call × σ)) : Prop :=
  calls.Pairwise fun call later =>
    (env.now.run call.2).1.since.nanos ≤ (env.now.run later.2).1.since.nanos

/-- No run of calls moves the end of the context's time. By induction on the calls, each
of which moves the counters of the session and nothing else of it. -/
theorem exists_session_ending (hexact : env.Exact) (hc : c.phase = .established s)
    (calls : List (Call × σ)) :
    ∃ s', (c.ending env calls).phase = .established s' ∧ s'.expiresAt = s.expiresAt := by
  induction calls generalizing c s with
  | nil => exact ⟨s, hc, rfl⟩
  | cons call calls ih =>
    obtain ⟨answer, s', hrun, hstep⟩ := call_run hexact hc call.1 call.2
    have hexpires : s'.expiresAt = s.expiresAt := by
      rw [hstep.eq_withCounters]
      rfl
    obtain ⟨s'', hphase, hsame⟩ := ih (c := c.withSession s') rfl
    refine ⟨s'', ?_, hsame.trans hexpires⟩
    rw [ending, List.foldl_cons, hrun]
    exact hphase

/-- Calls that change nothing leave the context. -/
theorem ending_eq_self {calls : List (Call × σ)}
    (h : ∀ call ∈ calls, ((c.call env call.1).run call.2).1.2 = c) : c.ending env calls = c := by
  induction calls with
  | nil => rfl
  | cons call calls ih =>
    obtain ⟨hcall, hcalls⟩ := List.forall_mem_cons.mp h
    rw [ending, List.foldl_cons, hcall]
    exact ih hcalls

end Context

/-! ## All of it

What expiry means is put into one structure. It is stated of any context and any moment,
so both roles and every run that ends in an open context are covered by the same
theorem. The clock is required not to go back only where it matters: that a context
stays expired. -/

variable {ε σ : Type} {env : Environment (Action ε σ)}

/-- How the end of a lifetime that began at a moment shows on a context, after any run of
calls. -/
structure Context.Expires (env : Environment (Action ε σ)) (c : Context) (began : Instant)
    (lifetime : Duration) : Prop where
  /-- From the first call on that finds the time over, every call is refused. It looks at
  the clock, and nothing else is done or changed. -/
  refuses : ∀ (calls : List (Call × σ)) (first : Call × σ) (later : List (Call × σ)),
    Context.Advances env (first :: later) → began.Over lifetime (env.now.run first.2).1 →
    c.ending env (calls ++ first :: later) = c.ending env calls ∧
      ∀ call ∈ first :: later, ((c.ending env calls).call env call.1).run call.2 =
        ((.refused .expired, c.ending env calls), (env.now.run call.2).2)
  /-- Before that, a context is only expired for a call that finds no number left. -/
  lasts : ∀ (calls : List (Call × σ)) (call : Call) (w : σ),
    began.Lasts lifetime (env.now.run w).1 →
    ∀ e, (((c.ending env calls).call env call).run w).1.1 = .refused e →
      e.status.major = .contextExpired →
      e = .numbersUsedUp ∧ call.sends = true ∧
        ∃ s, (c.ending env calls).phase = .established s ∧ ¬ s.HasNumber
  /-- For the engine the mechanism refused, and no token failed validation. -/
  rejects : ∀ (calls : List (Call × σ)) (config : Config) (ctx : SecurityContext Context) (w : σ),
    ctx.isOpen = true → ctx.handle = some (c.ending env calls) →
    began.Over lifetime (env.now.run w).1 →
    ∀ message, (∀ confidential,
        (ctx.protect (Initiator.mechanism env config) message confidential).run w =
          ((.error (.rejected ⟨.contextExpired, 0⟩), ctx), (env.now.run w).2)) ∧
      ∀ token, (ctx.verify (Initiator.mechanism env config) message token).run w =
        ((.error (.rejected ⟨.contextExpired, 0⟩), ctx), (env.now.run w).2)
  /-- What the context is can be asked at any time. -/
  tells : ∀ (calls : List (Call × σ)) (config : Config) (ctx : SecurityContext Context) (w : σ),
    ctx.handle = some (c.ending env calls) →
    ∃ info, (ctx.inquire (Initiator.mechanism env config)).run w = (.ok info, w) ∧
      info.isOpen = true ∧ info.expiresAt = began.plus? lifetime

namespace Context

variable {c : Context} {s : Session} {began : Instant} {lifetime : Duration}

/-- An established context expires as its session says. For each clause the session at
the call in question is found first, with the end that it always had; then the clause is
about one call. -/
theorem expires_of_established (hexact : env.Exact) (hc : c.phase = .established s)
    (hexpires : s.expiresAt = began.plus? lifetime) : c.Expires env began lifetime where
  refuses calls first later hadvances hover := by
    obtain ⟨s', hc', hs'⟩ := exists_session_ending hexact hc calls
    have hrun : ∀ call ∈ first :: later, ((c.ending env calls).call env call.1).run call.2 =
        ((.refused .expired, c.ending env calls), (env.now.run call.2).2) := by
      intro call hcall
      have hover' : began.Over lifetime (env.now.run call.2).1 := by
        rcases List.mem_cons.mp hcall with rfl | hlater
        · exact hover
        · exact hover.mono (List.rel_of_pairwise_cons hadvances hlater)
      exact run_call_expired hc' (Session.checkExpiry_of_over (hs'.trans hexpires) hover') call.1
    refine ⟨?_, hrun⟩
    have happend : c.ending env (calls ++ first :: later) =
        (c.ending env calls).ending env (first :: later) := List.foldl_append
    rw [happend]
    exact ending_eq_self fun call hcall => by rw [hrun call hcall]
  -- before the end: the call is one of the steps, and among those only one has this status
  lasts calls call w hlasts e hanswer hstatus := by
    obtain ⟨s', hc', hs'⟩ := exists_session_ending hexact hc calls
    obtain ⟨answer, s'', hrun, hstep⟩ := call_run hexact hc' call w
    obtain rfl : answer = .refused e := by
      rw [hrun] at hanswer
      exact hanswer
    obtain ⟨he, hsends, hnumber⟩ := hstep.exhausted_of_contextExpired
      (Session.checkExpiry_of_lasts (hs'.trans hexpires) hlasts) hstatus
    exact ⟨he, hsends, s', hc', hnumber⟩
  rejects calls config ctx w hopen hhandle hover message := by
    obtain ⟨s', hc', hs'⟩ := exists_session_ending hexact hc calls
    have hexpired := Session.checkExpiry_of_over (hs'.trans hexpires) hover
    constructor
    · intro confidential
      have hwrap : ((Initiator.mechanism env config).wrap (c.ending env calls) message
          confidential).run w =
            ((.error Refusal.expired.status, c.ending env calls), (env.now.run w).2) := by
        change ((c.ending env calls).wrap env message confidential >>= _).run w = _
        rw [Action.run_bind_of (run_wrap_expired hc' w message confidential hexpired)]
        rfl
      exact SecurityContext.run_protect_refused hopen hhandle hwrap
    · intro token
      have hrefused : (c.ending env calls).verifyMic (env.now.run w).1 message token =
          .error .expired := by
        rw [verifyMic_eq hc', Session.verifyMic, hexpired]
        rfl
      have hverify : ((Initiator.mechanism env config).verifyMic (c.ending env calls) message
          token).run w =
            ((.error Refusal.expired.status, c.ending env calls), (env.now.run w).2) := by
        change ((c.ending env calls).timed env (fun now =>
          (c.ending env calls).verifyMic now message token) >>= _).run w = _
        rw [Action.run_bind_of (run_timed_refused hrefused)]
        rfl
      exact SecurityContext.run_verify_refused hopen hhandle hverify
  tells calls config ctx w hhandle := by
    obtain ⟨s', hc', hs'⟩ := exists_session_ending hexact hc calls
    refine ⟨(c.ending env calls).info, ?_, ?_, ?_⟩
    · rw [SecurityContext.inquire, hhandle]
      rfl
    · rw [info, isOpen, session?, hc']
      rfl
    · rw [info, session?, hc']
      exact hs'.trans hexpires

end Context

/-! ## Both sides

A step that completes asks the clock once, and what it asks for is put into the session
together with the configured lifetime. In the two roles this is the same, except for
where the lifetime is configured. -/

/-- A step of the initiator that completes reads the clock once, and the session ends a
lifetime after that. -/
theorem Initiator.exists_session_of_complete {config : Config} {before : Option Context}
    {call : InitCall} {w : σ}
    (h : (Initiator.side env config before call w).1.status = .complete) :
    ∃ c s, (Initiator.side env config before call w).2 = some c ∧ c.phase = .established s ∧
      s.expiresAt = (env.now.run w).1.plus? config.lifetime := by
  by_cases hwanted : call.wanted = none ∨ call.wanted = some .psk
  · cases before with
    | none =>
      cases hinput : call.input with
      | some token =>
        rw [side_early call w hwanted hinput] at h
        cases h
      | none =>
        rw [side_first call w hwanted hinput] at h
        cases hdraw : ((env.draw Handshake.nonceSize).run w).1 <;> rw [hdraw] at h <;> cases h
    | some context =>
      rw [side_later context call w hwanted] at h ⊢
      cases hfinish : finish config context call.target call.input (env.now.run w).1 with
      | error e =>
        rw [hfinish] at h
        cases h
      | ok result =>
        obtain ⟨hello, nonce, requested, token, reply, -, -, -, rfl⟩ := finish_eq_ok_iff.mp hfinish
        exact ⟨_, _, rfl, rfl, rfl⟩
  · rw [side_other before call w hwanted] at h
    cases h

/-- The same for the acceptor, whose session begins when the finish has come in. -/
theorem Acceptor.exists_session_of_complete {acceptor : Acceptor} {before : Option Context}
    {input : Bytes} {w : σ} (h : (acceptor.side env before input w).1.status = .complete) :
    ∃ c s, (acceptor.side env before input w).2 = some c ∧ c.phase = .established s ∧
      s.expiresAt = (env.now.run w).1.plus? acceptor.config.lifetime := by
  cases before with
  | none =>
    rw [side_first] at h
    cases hhello : acceptor.readHello input with
    | error e =>
      rw [hhello] at h
      cases h
    | ok hello =>
      rw [hhello] at h
      dsimp only at h
      cases hdraw : ((env.draw Handshake.nonceSize).run w).1 <;> rw [hdraw] at h <;> cases h
  | some context =>
    rw [side_later] at h ⊢
    cases hconfirm : acceptor.confirm context input (env.now.run w).1 with
    | error e =>
      rw [hconfirm] at h
      cases h
    | ok result =>
      obtain ⟨digest, proofKey, finish, -, -, -, rfl⟩ := confirm_eq_ok_iff.mp hconfirm
      exact ⟨_, _, rfl, rfl, rfl⟩

/-- **Each side counts from its own last step.** A step that completes, taken when the clock
shows a moment, leaves a context whose time is over the configured lifetime later, or never,
if the clock does not reach that far. -/
theorem expires_of_complete (hexact : env.Exact) :
    (∀ (config : Config) (before : Option Context) (call : InitCall) (w : σ),
      (Initiator.side env config before call w).1.status = .complete →
      ∃ c, (Initiator.side env config before call w).2 = some c ∧
        c.Expires env (env.now.run w).1 config.lifetime) ∧
    ∀ (acceptor : Acceptor) (before : Option Context) (input : Bytes) (w : σ),
      (acceptor.side env before input w).1.status = .complete →
      ∃ c, (acceptor.side env before input w).2 = some c ∧
        c.Expires env (env.now.run w).1 acceptor.config.lifetime := by
  constructor
  · intro config before call w hcomplete
    obtain ⟨c, s, hafter, hc, hexpires⟩ := Initiator.exists_session_of_complete hcomplete
    exact ⟨c, hafter, Context.expires_of_established hexact hc hexpires⟩
  · intro acceptor before input w hcomplete
    obtain ⟨c, s, hafter, hc, hexpires⟩ := Acceptor.exists_session_of_complete hcomplete
    exact ⟨c, hafter, Context.expires_of_established hexact hc hexpires⟩

/-- An initiator whose context lasts for ten seconds signs after nine, and then no more. -/
theorem expired_of_ten_seconds :
    let key : PreSharedKey := ⟨List.replicate 16 7, Nat.le_refl 16⟩
    let config : Config := ⟨key, "alice", .ofSeconds 10⟩
    let service : ServiceName := ⟨"echo", some "host"⟩
    let acceptor : Acceptor := ⟨⟨key, "echo@host", .ofSeconds 10⟩, service, true⟩
    let env : Environment (Action Empty Simulated) := Simulated.environment
    let nonce : Bytes := List.replicate 32 5
    let world := Simulated.ofSupply []
    let reply := (answered config acceptor service .empty nonce nonce).1
    let last := Initiator.side env config (some (greeted config service .empty nonce).2)
      ⟨service, none, .empty, some reply.output⟩ world
    ∃ c, last.2 = some c ∧
      (∀ e, ((c.call env (.getMic [1])).run (world.advance (.ofSeconds 9))).1.1 = .refused e →
        e.status.major ≠ .contextExpired) ∧
      (c.call env (.getMic [1])).run (world.advance (.ofSeconds 10)) =
        ((.refused .expired, c), world.advance (.ofSeconds 10)) := by
  intro key config service acceptor env nonce world reply
  have hmeeting : Meeting config acceptor service :=
    ⟨rfl, by decide +kernel, by decide +kernel, by decide, by decide, by decide⟩
  -- the step stays written out, since a name for it would be unfolded to compare it
  have hlast : Initiator.side env config (some (greeted config service .empty nonce).2)
      ⟨service, none, .empty, some reply.output⟩ world =
        ((concluded config acceptor service .empty nonce nonce ⟨.zero⟩).1,
          some (concluded config acceptor service .empty nonce nonce ⟨.zero⟩).2) :=
    hmeeting.side_concludes (ServiceName.accepts_self service) rfl _ (.inl rfl) rfl rfl
  have hcomplete : (Initiator.side env config (some (greeted config service .empty nonce).2)
      ⟨service, none, .empty, some reply.output⟩ world).1.status = .complete := by
    rw [hlast]
    rfl
  obtain ⟨c, hafter, hexpires⟩ :=
    (expires_of_complete Simulated.environment_exact).1 config _ _ world hcomplete
  refine ⟨c, hafter, fun e hanswer hstatus => ?_, ?_⟩
  · obtain ⟨-, -, s, hphase, hnumber⟩ :=
      hexpires.lasts [] _ _ (Instant.lasts_of_lt (by decide)) e hanswer hstatus
    rw [hlast] at hafter
    obtain rfl := Option.some.inj hafter
    obtain rfl := Phase.established.inj hphase
    exact hnumber (Session.hasNumber_start _ _ _ _)
  · have hover : (env.now.run world).1.Over config.lifetime
        (env.now.run (world.advance (.ofSeconds 10))).1 :=
      Instant.over_iff.mpr ⟨by decide, by decide⟩
    exact (hexpires.refuses [] (.getMic [1], world.advance (.ofSeconds 10)) []
      (List.pairwise_singleton _ _) hover).2 _ List.mem_cons_self

end Psk

end GssContext
