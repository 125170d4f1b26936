/-
Running a link.

A token that is sent to a link is one step of its acceptor, so sending is run
by the acceptor's side, and the link afterwards is given by the step. The
surroundings of the acceptor are the only part of the link that a step itself
touches.
-/
import GssContext.Proofs.Psk.Turn
import GssContext.Rehearsal.Link

set_option autoImplicit false

namespace GssContext.Rehearsal.Link

open Psk

variable {ε : Type}

/-! ## The acceptor of a link

The acceptor is run on the link itself, with the surroundings that are a part of it. What
it decides comes from its side; what it leaves of the link is everything but these
surroundings. -/

/-- The acceptor of a link draws what its surroundings give. -/
theorem run_draw (count : Nat) (l : Link) :
    (((environment : Environment (Action ε Link)).draw count).run l).1 =
      (l.env.draw count).1 := rfl

/-- Drawing a nonce changes nothing but the acceptor's surroundings. -/
theorem state_drawNonce (size : Nat) (l : Link) :
    ((Context.drawNonce (environment : Environment (Action ε Link)) size).run l).2 =
      { l with env := (l.env.draw size).2 } := by
  rw [Context.drawNonce, Action.run_bind, run_draw]
  cases (l.env.draw size).1 <;> rfl

/-- A step of the acceptor leaves the link but for its surroundings. -/
theorem state_acceptStep (acceptor : Acceptor) (context : Option Context) (token : Bytes)
    (l : Link) : ∃ env,
      ((acceptor.acceptStep (environment : Environment (Action ε Link)) context token).run l).2 =
        { l with env } := by
  cases context with
  | none =>
    rw [Acceptor.acceptStep, Acceptor.replyStep]
    cases acceptor.readHello token with
    | error e => exact ⟨l.env, by cases e <;> rfl⟩
    | ok hello =>
      refine ⟨(l.env.draw Handshake.nonceSize).2, ?_⟩
      dsimp only
      rw [Action.run_bind, ← state_drawNonce (ε := ε)]
      cases ((Context.drawNonce (environment : Environment (Action ε Link))
        Handshake.nonceSize).run l).1 <;> rfl
  | some context =>
    refine ⟨l.env, ?_⟩
    rw [Acceptor.acceptStep, Acceptor.confirmStep, Action.run_bind]
    cases acceptor.confirm context token _ <;> rfl

/-! ## Sending and receiving

A token that is sent is a step, and its output is queued for whoever receives. A step that
fails is recorded, but the sender is not told. -/

/-- The link after a step of its acceptor. -/
def after (l : Link) (env : Simulated) (step : Step) (context : Option Context) : Link :=
  { l with
    env
    context
    replies := if step.output = [] then l.replies else l.replies ++ [step.output]
    failure := match step.status with
      | .failure status => some status
      | _ => l.failure }

/-- Sending a token is a step of the acceptor, and the sender never sees it
fail. -/
theorem run_send {token : Bytes} (hne : token ≠ []) {l : Link} {step : Step}
    {context : Option Context}
    (hstep : l.acceptor.side (environment : Environment (Action ε Link)) l.context token l =
      (step, context)) :
    ∃ env, (send token : Action ε Link _).run l = (.ok (), l.after env step context) := by
  obtain ⟨env, hstate⟩ := state_acceptStep (ε := ε) l.acceptor l.context token l
  refine ⟨env, ?_⟩
  have haccept : (accept token : Action ε Link Step).run l = (step, { l with env, context }) := by
    change ((l.acceptor.side (environment : Environment (Action ε Link)) l.context token l).1,
      { ((l.acceptor.acceptStep (environment : Environment (Action ε Link)) l.context token).run
          l).2 with
        context :=
          (l.acceptor.side (environment : Environment (Action ε Link)) l.context token l).2 }) = _
    rw [hstep, hstate]
  rw [send, if_neg hne, Action.run_bind, haccept]
  dsimp only
  obtain ⟨status, output, granted⟩ := step
  -- the link changes as the step's status and its output say
  by_cases houtput : output = []
  · subst houtput
    cases status <;> rfl
  · have hsends : (Step.mk status output granted).output ≠ [] := houtput
    cases status <;>
      · simp only [after, houtput, if_false, if_pos hsends]
        rfl

/-- Where nothing is queued there is the end. -/
theorem run_receive_nil {l : Link} (h : l.replies = []) :
    (receive : Action ε Link _).run l = (.error (.io (.ofKind .unexpectedEof)), l) := by
  rw [receive, Action.run_bind, Action.run_state, h]
  rfl

theorem run_receive_cons {l : Link} {token : Bytes} {rest : List Bytes}
    (h : l.replies = token :: rest) :
    (receive : Action ε Link _).run l = (.ok token, { l with replies := rest }) := by
  rw [receive, Action.run_bind, Action.run_state, h]
  rfl

end GssContext.Rehearsal.Link
