/-
A peer with a key, and what it does with the three tokens that are sent to it.

It answers the hello, it takes the finish, and it takes the message and signs it.
Each is one equation for the peer that reads the token: what it writes, and the
peer that waits for the next one. The report at the end is what was read.
-/
import GssContext.Proofs.Client.Calling
import GssContext.Proofs.Psk.Delivery
import GssContext.Proofs.Psk.Honest
import GssContext.Rehearsal.Peer

set_option autoImplicit false

namespace GssContext

open GssContext.Action

/-! ## The acceptor's two steps

The acceptor's side of a handshake, run where it succeeds: one step that answers and one
that settles. -/

namespace Psk.Acceptor

variable {ε σ : Type} {env : Environment (Action ε σ)} {acceptor : Acceptor} {w w' : σ}

/-- A hello that is read is answered, if there is a nonce to do it with. -/
theorem run_acceptStep_answers {input nonce : Bytes} {hello : Hello}
    (hhello : acceptor.readHello input = .ok hello)
    (hdraw : (env.draw Handshake.nonceSize).run w = (.ok nonce, w')) :
    (acceptor.acceptStep env none input).run w =
      (((acceptor.reply hello input nonce).1, some (acceptor.reply hello input nonce).2), w') := by
  rw [acceptStep, replyStep, hhello]
  dsimp only
  rw [run_bind_of (Context.run_drawNonce_of hdraw)]
  rfl

/-- A finish that is confirmed settles it, at the time the clock shows. -/
theorem run_acceptStep_settles {input : Bytes} {context : Context} {now : Instant}
    {result : Step × Context} (hnow : env.now.run w = (now, w'))
    (hconfirm : acceptor.confirm context input now = .ok result) :
    (acceptor.acceptStep env (some context) input).run w = ((result.1, some result.2), w') := by
  rw [acceptStep, confirmStep, run_bind_of hnow, hconfirm]
  rfl

end Psk.Acceptor

/-! ## A message that arrives

Whatever one side of a session emits, the other side takes, if it is in time and the
number was not seen. The message is the same, and so is whether it was sealed. -/

namespace Psk.Session

/-- A message that one side wraps is taken by the other, if its number is fresh. -/
theorem Mirrors.unwrap_of_emits {s r : Session} (h : s.Mirrors r) {seq : UInt64} {token : Bytes}
    {u : Unwrapped} (hemits : s.Emits seq ⟨.unwrap token, .unwrapped u⟩) {now : Instant}
    (hlive : r.checkExpiry now = .ok ()) (hfresh : r.isFresh seq = true) :
    r.unwrap now token = .ok (u, r.accepted seq) := by
  cases hemits with
  | wrapOpen message =>
    rw [h.mac, h.direction, unwrap_wrapToken r now seq message hlive, if_pos hfresh]
  | wrapSealed nonce message _ hnonce htoken =>
    rw [h.enc, h.direction] at htoken
    rw [unwrap_sealedToken r now seq nonce message token hlive hnonce htoken, if_pos hfresh]

end Psk.Session

namespace Rehearsal.PskPeer

open Psk

variable {p : PskPeer} {token : Bytes} {step : Step} {context : Option Context} {env : Simulated}

/-! ## Reading one token

A peer is a state machine, and what it does with a token depends on its phase. For the
handshake that is a step of the acceptor, with its status to go on by; for the message
it is to unwrap and to sign. All of this is run on a state of the peer's own. -/

/-- A step of the acceptor is run on the peer's own surroundings. -/
theorem accept_eq (hrun : (p.acceptor.acceptStep Simulated.environment p.context token :
      Action Empty Simulated _).run p.env = ((step, context), env)) :
    p.accept token = (step, { p with context, env }) := by
  let outcome := (p.acceptor.acceptStep Simulated.environment p.context token :
    Action Empty Simulated _).run p.env
  change (outcome.1.1, { p with context := outcome.1.2, env := outcome.2 }) = _
  rw [show outcome = ((step, context), env) from hrun]

/-- A token of the handshake that is answered. -/
theorem feed_answered (hphase : p.phase = .handshake)
    (hrun : (p.acceptor.acceptStep Simulated.environment p.context token :
      Action Empty Simulated _).run p.env = ((step, context), env))
    (hstatus : step.status = .continueNeeded) (hsome : step.output ≠ []) :
    p.feed token = ({ p with context, env, seen := token :: p.seen }, [step.output]) := by
  rw [feed, hphase]
  dsimp only
  rw [handshakeToken, accept_eq hrun]
  dsimp only
  rw [hstatus, if_neg hsome]
  dsimp only
  rw [hphase]

/-- A token of the handshake that completes it, without an answer. -/
theorem feed_completed (hphase : p.phase = .handshake)
    (hrun : (p.acceptor.acceptStep Simulated.environment p.context token :
      Action Empty Simulated _).run p.env = ((step, context), env))
    (hstatus : step.status = .complete) (hnone : step.output = []) :
    p.feed token = ({ p with context, env, seen := token :: p.seen, phase := .message }, []) := by
  rw [feed, hphase]
  dsimp only
  rw [handshakeToken, accept_eq hrun]
  dsimp only
  rw [hstatus, if_pos hnone]

/-- A message that is taken and signed. The peer unwraps it and signs it at the same
time, so if there was time for the one there was for the other. -/
theorem feed_signed {c : Context} {r r' r'' : Session} {u : Unwrapped} {signature : Bytes}
    (hphase : p.phase = .message) (hcontext : p.context = some c) (hc : c.phase = .established r)
    (hunwrap : r.unwrap p.env.now token = .ok (u, r'))
    (hsigned : r'.getMic p.env.now u.message = .ok (signature, r'')) :
    p.feed token =
      ({ p with
          context := some (c.withSession r'')
          phase := .done ⟨p.seen.reverse, u.message, u.confidential⟩ }, [signature]) := by
  have hunwrap' : c.unwrap p.env.now token = .ok (u, c.withSession r') := by
    rw [Context.unwrap_eq hc, hunwrap]
  have hsigned' : (c.withSession r').getMic p.env.now u.message =
      .ok (signature, (c.withSession r').withSession r'') := by
    rw [Context.getMic_eq rfl, hsigned]
  rw [feed, hphase]
  dsimp only
  rw [messageToken, hcontext]
  dsimp only
  rw [hunwrap']
  dsimp only
  rw [hsigned']
  rfl

end Rehearsal.PskPeer

/-- A peer with a key is one of the peers there are, and reads as such. -/
theorem Rehearsal.Peer.feed_psk {p p' : PskPeer} {token : Bytes} {answers : List Bytes}
    (h : p.feed token = (p', answers)) : (psk p).feed token = (psk p', answers) := by
  rw [feed, h]

/-! ## The three tokens of a client with the same key

Who has the same key sends a hello that is answered and a finish that is taken. Both are
known from handshakes in which every token arrives. -/

namespace Psk.Meeting

open Rehearsal

variable {config : Config} {acceptor : Acceptor} {target : ServiceName} {nonce nonce' : Bytes}
  {env env' : Simulated}

/-- The hello is answered. -/
theorem feed_hello (h : Meeting config acceptor target) (flags : Flags)
    (haccepts : target.accepts acceptor.name = true) (hnonce : nonce.length = Handshake.nonceSize)
    (hdraw : env.draw Handshake.nonceSize = (.ok nonce', env')) :
    PskPeer.feed { acceptor, env } (greeted config target flags nonce).1.output =
      ({ acceptor
         env := env'
         context := some (answered config acceptor target flags nonce nonce').2
         seen := [(greeted config target flags nonce).1.output] },
        [(answered config acceptor target flags nonce nonce').1.output]) := by
  have hhello : acceptor.readHello (Initiator.hello config target flags nonce).encode =
      .ok (Initiator.hello config target flags nonce) := by
    rw [h.readHello_hello hnonce, if_pos haccepts]
  exact PskPeer.feed_answered rfl (Acceptor.run_acceptStep_answers hhello hdraw) rfl
    (Cbor.writeRecord_ne_nil _)

/-- The finish is taken. -/
theorem feed_finish (h : Meeting config acceptor target) (flags : Flags) (nonce nonce' : Bytes)
    (now : Instant) (seen : List Bytes) :
    PskPeer.feed
        { acceptor, env, context := some (answered config acceptor target flags nonce nonce').2,
          seen }
        (concluded config acceptor target flags nonce nonce' now).1.output =
      ({ acceptor
         env
         context := some (settled config acceptor target flags nonce nonce' env.now).2
         seen := (concluded config acceptor target flags nonce nonce' now).1.output :: seen
         phase := .message }, []) :=
  PskPeer.feed_completed rfl (Acceptor.run_acceptStep_settles rfl h.confirm_finish) rfl rfl

end Psk.Meeting

end GssContext
