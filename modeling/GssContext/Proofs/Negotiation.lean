/-
The rounds of a negotiation, one equation for each part.

A round takes the mechanism's step, sends its token, and goes on as the step's
status says. Every part is run by one equation, and `run_rounds_sent` puts them
together: what a round does is a case analysis on what the mechanism and the
transport answered, and nothing of the program is left to unfold.
-/
import GssContext.Negotiation
import GssContext.Proofs.Action

set_option autoImplicit false

namespace GssContext.Negotiation

variable {ε σ ν κ : Type} {mechanism : Mechanism (Action ε σ) ν κ}
  {transport : Transport (Action ε σ)} {request : Request ν}

/-! ## The parts of a round

A round is written with small functions: one takes the step, one sends, one receives,
and three end the negotiation. For each of them it is said here what it returns and what
world it leaves. They also write to the journal, which is why these are not the
operations themselves. -/

theorem run_sendOutput_nil (transport : Transport (Action ε σ)) (s : σ) :
    (sendOutput transport []).run s = (.ok (), s) := rfl

/-- A token that is there is handed to the transport. -/
theorem run_sendOutput {output : Bytes} (hne : output ≠ []) (s : σ) :
    (sendOutput transport output).run s = (transport.send output).run s := by
  rw [sendOutput, if_neg hne]
  rfl

/-- To receive is to ask the transport. What is done apart from that is a line of the
journal. -/
theorem run_receiveInput (s : σ) :
    (receiveInput transport).run s = transport.receive.run s := by
  rw [receiveInput, Action.run_bind]
  cases hreceived : (transport.receive.run s).1 with
  | error e =>
    rw [Prod.ext_iff]
    exact ⟨hreceived.symm, rfl⟩
  | ok token =>
    rw [Prod.ext_iff]
    exact ⟨hreceived.symm, rfl⟩

/-- Whatever ends a negotiation short of success, the context is closed first. -/
theorem run_abandon (ctx : SecurityContext κ) (e : NegotiationError) (s : σ) :
    (abandon mechanism ctx e).run s = (.error e, ((ctx.release mechanism).run s).2) := rfl

/-- The same if it is the rounds that have run out. -/
theorem run_exhausted (ctx : SecurityContext κ) (s : σ) :
    (exhausted mechanism request ctx).run s =
      (.error (.tooManyRounds request.maxRounds), ((ctx.release mechanism).run s).2) := rfl

/-- Success marks the context as open, with the flags that the step granted. -/
theorem run_finished (ctx : SecurityContext κ) (round : Nat) (granted : Flags) (s : σ) :
    (finished request ctx round granted : Action ε σ _).run s = (.ok (ctx.opened granted), s) := by
  rw [finished]
  split <;> rfl

/-- A step of the context is one of the mechanism. -/
theorem run_initStep (ctx : SecurityContext κ) (target : ν) (wanted : Option Oid) (flags : Flags)
    (input : Option Bytes) (s : σ) :
    (ctx.initStep mechanism target wanted flags input).run s =
      ((((mechanism.initStep ctx.handle target wanted flags input).run s).1.1,
        ctx.stepped ((mechanism.initStep ctx.handle target wanted flags input).run s).1.2),
        ((mechanism.initStep ctx.handle target wanted flags input).run s).2) := rfl

/-! ## A round

The recursion is on the rounds that are left, so there are two equations: none is left,
or one is taken. The second one supposes that the token of the step was sent. If it was
not, then nothing else of the round is done, and whoever needs that case says so. -/

theorem run_rounds_zero (round : Nat) (input : Option Bytes) (ctx : SecurityContext κ) (s : σ) :
    (rounds mechanism transport request 0 round input ctx).run s =
      (.error (.tooManyRounds request.maxRounds), ((ctx.release mechanism).run s).2) := rfl

section

variable {left round : Nat} {input : Option Bytes} {ctx : SecurityContext κ} {s s' s'' : σ}
  {step : Step} {handle : Option κ}

/-- A round whose token, if there was one, is sent. The status of the step decides what
comes then, and if it asks for more, the rounds that are left and the transport do. -/
theorem run_rounds_sent
    (hstep : (mechanism.initStep ctx.handle request.target request.wanted request.flags input).run s
      = ((step, handle), s'))
    (hsent : (sendOutput transport step.output).run s' = (.ok (), s'')) :
    (rounds mechanism transport request (left + 1) round input ctx).run s =
      match step.status with
      | .failure status =>
        (.error (.rejected status), (((ctx.stepped handle).release mechanism).run s'').2)
      | .complete => (.ok ((ctx.stepped handle).opened step.granted), s'')
      | .continueNeeded =>
        if left = 0 then
          (.error (.tooManyRounds request.maxRounds),
            (((ctx.stepped handle).release mechanism).run s'').2)
        else
          match transport.receive.run s'' with
          | (.error e, s) =>
            (.error (.transport e), (((ctx.stepped handle).release mechanism).run s).2)
          | (.ok token, s) =>
            (rounds mechanism transport request left (round + 1) (some token)
              (ctx.stepped handle)).run s := by
  rw [rounds, Action.run_bind, run_initStep, hstep]
  dsimp only
  rw [Action.run_bind, Action.run_bind, Action.run_note, hsent]
  dsimp only
  cases step.status with
  | failure status => exact run_abandon _ _ _
  | complete => exact run_finished _ _ _ _
  | continueNeeded =>
    by_cases hleft : left = 0
    · rw [if_pos hleft, if_pos hleft]
      exact run_exhausted _ _
    · rw [if_neg hleft, if_neg hleft, Action.run_bind, run_receiveInput]
      obtain ⟨received, s⟩ := transport.receive.run s''
      cases received <;> rfl

/-- Establishing starts with the first round, once the name is taken. -/
theorem run_establish {maxRounds : Nat} {target : String} {requested : Flags}
    {wanted : Option Oid} {name : ν}
    (hname : (mechanism.importName target).run s = (.ok name, s')) :
    (establish mechanism transport maxRounds target requested wanted).run s =
      (rounds mechanism transport ⟨name, wanted, requested ||| .of [.replay], maxRounds⟩ maxRounds
        1 none .new).run s' := by
  rw [establish, Action.run_bind, hname]
  rfl

/-- A name that is not taken ends it at once. -/
theorem run_establish_badName {maxRounds : Nat} {target : String} {requested : Flags}
    {wanted : Option Oid} {status : Status}
    (hname : (mechanism.importName target).run s = (.error status, s')) :
    (establish mechanism transport maxRounds target requested wanted).run s =
      (.error (.badName status), s') := by
  rw [establish, Action.run_bind, hname]
  rfl

end

end GssContext.Negotiation
