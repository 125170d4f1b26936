/-
A client with a pre-shared key, all of whose operations succeed.

The client's side of a session needs four things of its surroundings, a nonce for
its hello, the time, the payload and perhaps a nonce to seal it, and five of its
channel: it sends three tokens and receives two. If all of them are given, and
what is received is what the acceptor should send, then the session succeeds. For
each operation of the mechanism there is one equation, and one for the exchange
that is made of them.
-/
import GssContext.Proofs.Client.Success
import GssContext.Proofs.Psk.Honest

set_option autoImplicit false

namespace GssContext

open GssContext.Action

/-! ## Surroundings beside something else

The surroundings of a client and its channel are usually kept in two parts of one state.
An operation on the one part is then run on the whole state, and it has to be known that
the other part is where it was. -/

/-- A clock and randomness beside another part of the state. -/
def Environment.beside {ε σ ν : Type} (env : Environment (Action ε σ)) :
    Environment (Action ε (σ × ν)) := env.hoist onFst

/-- Files and a clock beside another part of the state. -/
def Client.Surroundings.beside {ε σ ν : Type} (surroundings : Surroundings (Action ε σ)) :
    Surroundings (Action ε (σ × ν)) where
  readFile path := onFst (surroundings.readFile path)
  now := onFst surroundings.now

/-- What runs there leaves the other part alone. -/
theorem Action.run_onFst_of {ε σ ν α : Type} {x : Action ε σ α} {a : α} {w w' : σ}
    (h : x.run w = (a, w')) (n : ν) : (onFst x : Action ε (σ × ν) α).run (w, n) = (a, (w', n)) := by
  rw [run_onFst, h]

/-- Loading a payload looks at the files and at nothing else. -/
theorem Client.Payload.run_load_beside {ε σ ν : Type} (surroundings : Surroundings (Action ε σ))
    (payload : Payload) (w : σ) (n : ν) :
    (payload.load surroundings.beside : Action ε (σ × ν) _).run (w, n) =
      (((payload.load surroundings).run w).1, (((payload.load surroundings).run w).2, n)) := by
  cases payload <;> rfl

theorem Environment.Exact.beside {ε σ ν : Type} {env : Environment (Action ε σ)}
    (h : env.Exact) : (env.beside : Environment (Action ε (σ × ν))).Exact :=
  fun count world bytes hdraw => h count world.1 bytes hdraw

/-! ## A context that can be used

A message can be protected as long as the context lasts and has numbers left. Both are
conditions on a session, and for a session that has just begun they come from the
lifetime it was given and from its counters, which are at zero. -/

/-- A lifetime that began at one moment is not over at another. -/
def Instant.Lasts (began : Instant) (lifetime : Duration) (now : Instant) : Prop :=
  ∀ deadline, began.plus? lifetime = some deadline → now.reached deadline = false

/-- What is before the end lasts. -/
theorem Instant.lasts_of_lt {began now : Instant} {lifetime : Duration}
    (h : now.since.nanos < began.since.nanos + lifetime.nanos) : began.Lasts lifetime now := by
  intro deadline hdeadline
  rw [plus?] at hdeadline
  split at hdeadline
  · cases hdeadline
    exact decide_eq_false (Nat.not_le_of_lt h)
  · cases hdeadline

/-- A session whose deadline is not reached passes the check. One whose deadline cannot
be represented has none, and passes at any time. -/
theorem Psk.Session.checkExpiry_of_lasts {s : Session} {began now : Instant}
    {lifetime : Duration} (hexpires : s.expiresAt = began.plus? lifetime)
    (hlasts : began.Lasts lifetime now) : s.checkExpiry now = .ok () := by
  rw [checkExpiry, hexpires]
  cases hdeadline : began.plus? lifetime with
  | none => rfl
  | some deadline =>
    dsimp only
    rw [hlasts deadline hdeadline]
    rfl

theorem Psk.Session.hasNumber_start (keys : SessionKeys) (locallyInitiated : Bool) (flags : Flags)
    (expiresAt : Option Instant) : (start keys locallyInitiated flags expiresAt).HasNumber := by
  have hzero : (0 : UInt64).toNat + 1 < 2 ^ 64 := by decide
  cases locallyInitiated <;> exact hzero

namespace Psk

variable {ε σ : Type} {env : Environment (Action ε σ)} {config : Config}

/-! ## Operations of a context

Each of them is run where all that it needs is given: a time, and a nonce if it seals.
The worlds in between are named, since the clock and the source of randomness may change
them. -/

namespace Context

variable {c : Context} {s s' : Session} {now : Instant} {message nonce token : Bytes}
  {confidential : Bool} {w w₁ w₂ : σ}

theorem run_drawNonce_of {size : Nat} (hdraw : (env.draw size).run w = (.ok nonce, w₁)) :
    (drawNonce env size).run w = (.ok nonce, w₁) := by
  rw [drawNonce, run_bind_of hdraw]
  rfl

/-- A message that is not to be sealed takes only the time. -/
theorem run_wrap_open (hc : c.phase = .established s) (hnow : env.now.run w = (now, w₁))
    (hlive : s.checkExpiry now = .ok ()) (hnumber : s.HasNumber)
    (hopen : s.seals confidential = false) :
    (c.wrap env message confidential).run w =
      ((.ok ⟨Session.wrapToken s.sendMac s.outbound s.sendSeq message, false⟩,
        c.withSession s.advanced), w₁) := by
  rw [wrap, session_of_established hc]
  dsimp only
  rw [run_bind_of hnow, hlive]
  dsimp only
  rw [if_neg (Bool.eq_false_iff.mp hopen), Session.wrapOpen_eq, if_pos hnumber]
  rfl

/-- A message that is to be sealed takes a nonce too. -/
theorem run_wrap_sealed (hc : c.phase = .established s) (hnow : env.now.run w = (now, w₁))
    (hlive : s.checkExpiry now = .ok ()) (hnumber : s.HasNumber)
    (hseals : s.seals confidential = true)
    (hdraw : (env.draw Sealed.nonceSize).run w₁ = (.ok nonce, w₂))
    (htoken : Session.sealedToken? s.sendEnc s.outbound s.sendSeq nonce message = some token) :
    (c.wrap env message confidential).run w =
      ((.ok ⟨token, true⟩, c.withSession s.advanced), w₂) := by
  rw [wrap, session_of_established hc]
  dsimp only
  rw [run_bind_of hnow, hlive]
  dsimp only
  rw [if_pos hseals, run_bind_of (run_drawNonce_of hdraw)]
  dsimp only
  rw [Session.wrapSealed_eq, if_pos hnumber, htoken]
  rfl

/-- An operation that depends on the time is done at the one that the clock shows. -/
theorem run_timed_of {α : Type} {operation : Instant → Except Refusal (α × Context)} {value : α}
    {c' : Context} (hnow : env.now.run w = (now, w₁)) (hdone : operation now = .ok (value, c')) :
    (c.timed env operation).run w = ((.ok value, c'), w₁) := by
  rw [timed, run_bind_of hnow, hdone]
  rfl

end Context

/-! ## Operations of the mechanism

The engine calls the mechanism, and that calls the context. What the mechanism adds is
that a refusal is told as a status; here nothing is refused, so the values are the same. -/

namespace Initiator

variable {target : ServiceName} {wanted : Option Oid} {flags : Flags} {c : Context}
  {s s' : Session} {now : Instant} {said nonce answer message signature : Bytes} {reply : Reply}
  {w w₁ w₂ w₃ w₄ w₅ w₆ w₇ : σ}

theorem run_initStep_greets (hwanted : wanted = none ∨ wanted = some .psk)
    (hdraw : (env.draw Handshake.nonceSize).run w = (.ok nonce, w₁)) :
    ((mechanism env config).initStep none target wanted flags none).run w =
      (((start config target flags nonce).1, some (start config target flags nonce).2), w₁) := by
  change (initStep env config none target wanted flags none).run w = _
  rw [initStep_first hwanted, startStep, run_bind_of (Context.run_drawNonce_of hdraw)]
  rfl

/-- With a reply that is vouched for it finishes. -/
theorem run_initStep_finishes (hwanted : wanted = none ∨ wanted = some .psk)
    (hphase : c.phase = .awaitingReply said nonce flags)
    (hvouched : Vouched config said nonce target answer reply)
    (hnow : env.now.run w = (now, w₁)) :
    ((mechanism env config).initStep (some c) target wanted flags (some answer)).run w =
      (((finished config c now nonce flags (.of said reply)).1,
        some (finished config c now nonce flags (.of said reply)).2), w₁) := by
  have hfinish : finish config c target (some answer) now =
      .ok (finished config c now nonce flags (.of said reply)) :=
    finish_eq_ok_iff.mpr ⟨said, nonce, flags, answer, reply, hphase, rfl, hvouched, rfl⟩
  change (initStep env config (some c) target wanted flags (some answer)).run w = _
  rw [initStep_later hwanted, finishStep, run_bind_of hnow, hfinish]
  rfl

/-- A code that the session accepts is verified. -/
theorem run_verifyMic (hc : c.phase = .established s) (hnow : env.now.run w = (now, w₁))
    (hverified : s.verifyMic now message signature = .ok s') :
    ((mechanism env config).verifyMic c message signature).run w =
      ((.ok (), c.withSession s'), w₁) := by
  have hdone : c.verifyMic now message signature = .ok ((), c.withSession s') := by
    rw [Context.verifyMic_eq hc, hverified]
  change (c.timed env (fun now => c.verifyMic now message signature) >>= _).run w = _
  rw [run_bind_of (Context.run_timed_of hnow hdone)]
  rfl

/-- A message that the context wraps is wrapped. -/
theorem run_wrap {confidential : Bool} {wrapped : Wrapped} {c' : Context}
    (hwrap : (c.wrap env message confidential).run w = ((.ok wrapped, c'), w₁)) :
    ((mechanism env config).wrap c message confidential).run w = ((.ok wrapped, c'), w₁) := by
  change (c.wrap env message confidential >>= _).run w = _
  rw [run_bind_of hwrap]
  rfl

/-! ## The session

Put together: a handshake of two rounds, and an exchange of one message and its
signature. All that the surroundings and the other side give is a hypothesis, one for
each operation, in the order in which they are done. -/

/-- **A handshake that succeeds.** The hello is sent, a reply that is vouched for
comes in, and the finish is sent. -/
theorem run_establish {transport : Transport (Action ε σ)} {maxRounds : Nat} {service : String}
    {requested : Flags} {last : Step × Context} (hrounds : 2 ≤ maxRounds)
    (hwanted : wanted = none ∨ wanted = some .psk)
    (hservice : ServiceName.parse? service = some target)
    (hflags : requested ||| .of [.replay] = flags)
    (hlast : finished config (start config target flags nonce).2 now nonce flags
      (.of (start config target flags nonce).1.output reply) = last)
    (hdraw : (env.draw Handshake.nonceSize).run w = (.ok nonce, w₁))
    (hgreeted : (transport.send (start config target flags nonce).1.output).run w₁ = (.ok (), w₂))
    (hanswered : transport.receive.run w₂ = (.ok answer, w₃))
    (hvouched : Vouched config (start config target flags nonce).1.output nonce target answer
      reply)
    (hnow : env.now.run w₃ = (now, w₄))
    (hfinished : (transport.send last.1.output).run w₄ = (.ok (), w₅)) :
    (Negotiation.establish (mechanism env config) transport maxRounds service requested
      wanted).run w = (.ok ⟨some last.2, .established, last.1.granted⟩, w₅) := by
  subst hlast
  obtain ⟨left, rfl⟩ := Nat.exists_eq_add_of_le' hrounds
  have hname : ((mechanism env config).importName service).run w = (.ok target, w) := by
    change (ServiceName.parse service, w) = _
    rw [ServiceName.parse_eq_ok_iff.mpr hservice]
  rw [Negotiation.run_establish hname, hflags,
    Negotiation.run_rounds_answered (Nat.succ_ne_zero left) (run_initStep_greets hwanted hdraw)
      rfl (Cbor.writeRecord_ne_nil _) hgreeted hanswered,
    Negotiation.run_rounds_completed (run_initStep_finishes hwanted rfl hvouched hnow) rfl
      (Cbor.writeRecord_ne_nil _) hfinished]
  rfl

/-- In particular the reply of an acceptor with the same key is vouched for. -/
theorem run_establish_answered {acceptor : Acceptor} {nonce' : Bytes}
    (hmeeting : Meeting config acceptor target) (haccepts : target.accepts acceptor.name = true)
    (hnonce' : nonce'.length = Handshake.nonceSize) {transport : Transport (Action ε σ)}
    {maxRounds : Nat} {service : String} {requested : Flags} {last : Step × Context}
    (hrounds : 2 ≤ maxRounds) (hwanted : wanted = none ∨ wanted = some .psk)
    (hservice : ServiceName.parse? service = some target)
    (hflags : requested ||| .of [.replay] = flags)
    (hlast : concluded config acceptor target flags nonce nonce' now = last)
    (hdraw : (env.draw Handshake.nonceSize).run w = (.ok nonce, w₁))
    (hgreeted : (transport.send (greeted config target flags nonce).1.output).run w₁ =
      (.ok (), w₂))
    (hanswered : transport.receive.run w₂ =
      (.ok (answered config acceptor target flags nonce nonce').1.output, w₃))
    (hnow : env.now.run w₃ = (now, w₄))
    (hfinished : (transport.send last.1.output).run w₄ = (.ok (), w₅)) :
    (Negotiation.establish (mechanism env config) transport maxRounds service requested
      wanted).run w = (.ok ⟨some last.2, .established, last.1.granted⟩, w₅) := by
  let reply := acceptor.answer (hello config target flags nonce)
    (hello config target flags nonce).encode nonce'
  have hvouched : Vouched config (start config target flags nonce).1.output nonce target
      (answered config acceptor target flags nonce nonce').1.output reply :=
    hmeeting.vouched_reply hnonce' haccepts
  have hlast' : finished config (start config target flags nonce).2 now nonce flags
      (.of (start config target flags nonce).1.output reply) = last := hlast
  exact run_establish hrounds hwanted hservice hflags hlast' hdraw hgreeted hanswered hvouched hnow
    hfinished

/-- **An exchange that succeeds**, once the context is established. The message is
loaded, wrapped and sent, and what comes in verifies over it. -/
theorem run_exchange {surroundings : Client.Surroundings (Action ε σ)}
    {channel : Channel (Action ε σ)} {clientConfig : Client.Config} {request : Client.Request}
    {granted : Flags} {looked : Instant} {wrapped : Wrapped} {c' : Context}
    (hestablished : (Negotiation.establish (mechanism env config) channel.toTransport
      clientConfig.maxRounds request.service request.flags request.wanted).run w =
        (.ok ⟨some c, .established, granted⟩, w₁))
    (hlooked : surroundings.now.run w₁ = (looked, w₂))
    (hloaded : (request.payload.load surroundings : Action ε σ _).run w₂ = (.ok message, w₃))
    (hwrapped : (c.wrap env message request.sealed).run w₃ = ((.ok wrapped, c'), w₄))
    (hsent : (channel.send wrapped.token).run w₄ = (.ok (), w₅))
    (hsigned : channel.receive.run w₅ = (.ok signature, w₆))
    (hc' : c'.phase = .established s) (hnow : env.now.run w₆ = (now, w₇))
    (hverified : s.verifyMic now message signature = .ok s') :
    (Client.Session.exchange surroundings channel (mechanism env config) clientConfig request).run
      w = ((.ok ⟨granted, wrapped.confidential, c.info⟩, .verifying), w₇) := by
  let ctx : SecurityContext Context := ⟨some c, .established, granted⟩
  -- what the mechanism tells about a context changes nothing and fails never
  have hinquired : ((mechanism env config).inquire c).run w₁ = (.ok c.info, w₁) := rfl
  have hnames : ((mechanism env config).namesFor c.info.mechanism).run w₂ =
      (.ok [.hostBasedService, .userName], w₂) := rfl
  have hdescribed : (Client.Session.describe surroundings (mechanism env config) ctx).run w₁ =
      (.ok c.info, w₂) := Client.Session.run_describe rfl hinquired hlooked hnames
  have hsending : (Client.Session.sendMessage channel (mechanism env config) ctx message
      request.sealed).run w₃ =
        ((.ok wrapped.confidential, .protecting, { ctx with handle := some c' }), w₅) :=
    Client.Session.run_sendMessage rfl (run_wrap hwrapped) hsent
  have hreceiving : (Client.Session.receiveSignature channel (mechanism env config)
      { ctx with handle := some c' } message).run w₅ =
        ((.ok (), .verifying, { ctx with handle := some (c'.withSession s') }), w₇) :=
    Client.Session.run_receiveSignature rfl hsigned (run_verifyMic hc' hnow hverified)
  rw [Client.Session.run_exchange hestablished
    (Client.Session.run_converse hdescribed hloaded hsending hreceiving)]
  rfl

end Initiator

end Psk

end GssContext
