/-
Whole engagements: a context is established, some exercises are done under it,
and it is dropped.

Dropping a context gives the mechanism's context back, if it is still there, so
an engagement ends without anything held, whatever the exercises did.
-/
import GssContext.Negotiation
import GssContext.Psk.Initiator
import GssContext.Rehearsal.Exercise
import GssContext.Rehearsal.Link
import GssContext.Rehearsal.Memory
import GssContext.Rehearsal.Scripted

set_option autoImplicit false

namespace GssContext.Rehearsal

/-! ## Under a context

After a context is established there follows a series of exercises on it, and in
the end it is dropped, which releases it if nobody did. -/

namespace Engagement

variable {m : Type → Type} [Monad m] [Journal m] {ν κ : Type}

/-- Do one exercise under a context. What a context does not do is left to
`besides`. -/
def perform (mechanism : Mechanism m ν κ) (besides : Exercise → m Finding) (_ : Unit)
    (exercise : Exercise) (ctx : SecurityContext κ) :
    m (Finding × SecurityContext κ × SecurityContext κ) := do
  let unchanged (finding : Finding) : Finding × SecurityContext κ × SecurityContext κ :=
    (finding, ctx, ctx)
  match exercise with
  | .wrap message confidential =>
    let (result, ctx) ← ctx.protect mechanism message confidential
    return (.ofProtection .wrapped result, ctx, ctx)
  | .verifyMic message token =>
    let (result, ctx) ← ctx.verify mechanism message token
    return (.ofProtection (fun _ => .verified) result, ctx, ctx)
  | .inquire => return unchanged (.ofStatus .info (← ctx.inquire mechanism))
  | .namesFor wanted => return unchanged (.ofStatus .names (← mechanism.namesFor wanted))
  | .release =>
    let ctx ← ctx.release mechanism
    return (.nothing, ctx, ctx)
  | .showContext => return unchanged (.text ctx.debug)
  | other => return unchanged (← besides other)

/-- What a context does not do is done by nobody. -/
def nothingBesides (_ : Exercise) : m Finding := pure .notOffered

/-- Do exercises under a context and drop it. -/
def spend (mechanism : Mechanism m ν κ) (besides : Exercise → m Finding)
    (turns : List (Turn Unit)) (ctx : SecurityContext κ) :
    m (List (Finding × SecurityContext κ)) := do
  let (findings, ctx) ← series (perform mechanism besides) turns [] ctx
  let _ ← ctx.release mechanism
  return findings

/-- Whom to call, and for what. -/
structure Call where
  target : String
  flags : Flags
  wanted : Option Oid
  maxRounds : Nat

/-- What came of establishing a context, and what was found under it. -/
abbrev Record (κ : Type) :=
  Except NegotiationError (SecurityContext κ) × List (Finding × SecurityContext κ)

/-- Establish a context, do exercises under it and drop it. -/
def run (mechanism : Mechanism m ν κ) (transport : Transport m) (besides : Exercise → m Finding)
    (call : Call) (turns : List (Turn Unit)) : m (Record κ) := do
  match ← Negotiation.establish mechanism transport call.maxRounds call.target call.flags
      call.wanted with
  | .error e => return (.error e, [])
  | .ok ctx => return (.ok ctx, ← spend mechanism besides turns ctx)

end Engagement

/-! ## With a link -/

namespace Link

variable {ε : Type}

def perform : Exercise → Action ε Link Finding
  | .send token => return .ofTransport (fun _ => .sent) (← send token)
  | .receive => return .ofTransport .token (← receive)
  | .unwrap token => return .ofStatus .unwrapped (← unwrap token)
  | .getMic message => return .ofStatus .token (← getMic message)
  | _ => return .notOffered

/-- Do exercises on a link, and show the link after each. -/
def rehearse (turns : List (Turn Unit)) : Action ε Link (List (Finding × Link)) := do
  let (findings, _) ← series (fun _ exercise (_ : Unit) => do
    let finding ← perform exercise
    return (finding, ← Action.state, ())) turns [] ()
  return findings

abbrev Pair := Simulated × Link

/-- What can be done besides: with the link, and with the initiator's clock. -/
def besides : Exercise → Action ε Pair Finding
  | .advance span => do
    Action.update fun s => (s.1.advance span, s.2)
    return .nothing
  | other => Action.onSnd (perform other)

def engage (config : Psk.Config) (call : Engagement.Call) (turns : List (Turn Unit)) :
    Action ε Pair (Engagement.Record Psk.Context) :=
  let transport : Transport (Action ε Pair) :=
    ⟨fun token => Action.onSnd (send token), Action.onSnd receive⟩
  Engagement.run ((Psk.Initiator.mechanism Simulated.environment config).hoist Action.onFst)
    transport besides call turns

end Link

/-! ## With a channel in memory -/

namespace Memory

variable {σ ν κ : Type}

def beside : Channel (Action Event (σ × Memory)) := channel.hoist Action.onSnd

/-- Engage whoever the channel speaks for, after closing it if `closed`. -/
def engage (mechanism : Mechanism (Action Event σ) ν κ) (closed : Bool) (call : Engagement.Call)
    (turns : List (Turn Unit)) : Action Event (σ × Memory) (Engagement.Record κ) := do
  if closed then
    let _ ← beside.close
  Engagement.run (mechanism.hoist Action.onFst) beside.toTransport Engagement.nothingBesides call
    turns

/-- Do exercises under a context that was never established. -/
def idle (mechanism : Mechanism (Action Event σ) ν κ) (closed : Bool) (turns : List (Turn Unit)) :
    Action Event (σ × Memory) (List (Finding × SecurityContext κ)) := do
  if closed then
    let _ ← beside.close
  Engagement.spend (mechanism.hoist Action.onFst) Engagement.nothingBesides turns .new

end Memory

/-! ## With a script -/

namespace Scripted

/-- One exercise on a script alone, with its context if it has one. -/
def perform (_ : Unit) (exercise : Exercise) (context : Option Context) :
    Action Event Scripted (Finding × Option Context × Option Context) := do
  let unchanged (finding : Finding) : Finding × Option Context × Option Context :=
    (finding, context, context)
  match exercise, context with
  | .importName name, _ => return unchanged (.ofStatus .text (← mechanism.importName name))
  | .initStep target wanted flags input, _ =>
    let (step, context) ← mechanism.initStep context target wanted flags input
    return (.step step, context, context)
  | .namesFor wanted, _ => return unchanged (.ofStatus .names (← mechanism.namesFor wanted))
  | .wrap message confidential, some c =>
    let (result, c) ← mechanism.wrap c message confidential
    return (.ofStatus .wrapped result, some c, some c)
  | .verifyMic message token, some c =>
    let (result, c) ← mechanism.verifyMic c message token
    return (.ofStatus (fun _ => .verified) result, some c, some c)
  | .inquire, some c => return unchanged (.ofStatus .info (← mechanism.inquire c))
  | .release, some c =>
    mechanism.release c
    return (.released, none, none)
  | _, _ => return unchanged .noContext

/-- Do exercises on a script, and show its context after each. -/
def rehearse (turns : List (Turn Unit)) :
    Action Event Scripted (List (Finding × Option Context)) := do
  let (findings, _) ← series perform turns [] none
  return findings

end Scripted

end GssContext.Rehearsal
