/-
A transport that ends in an acceptor.

Each token that is sent is the next step of an acceptor in memory, and what
the step answers is queued to be received. The acceptor's refusals do not come
back as errors of the transport: the last one is kept here, and whoever waits
for an answer finds that there is none.
-/
import GssContext.Psk.Acceptor
import GssContext.Token

set_option autoImplicit false

namespace GssContext.Rehearsal

/-- An acceptor with its surroundings, its context, and the answers that wait. -/
structure Link where
  acceptor : Psk.Acceptor
  env : Simulated
  context : Option Psk.Context := none
  replies : List Bytes := []
  /-- The status of the last step that failed. -/
  failure : Option Status := none

namespace Link

variable {ε : Type}

def source : String := "tokenseal_harness::link"

def environment : Environment (Action ε Link) :=
  Simulated.environment.hoist (Action.onPart env fun l env => { l with env })

def accept (token : Bytes) : Action ε Link Step := do
  let link ← Action.state
  let (step, context) ← link.acceptor.acceptStep environment link.context token
  Action.update fun l => { l with context }
  return step

/-- Hand a token to the acceptor and queue what it answers. -/
def send (token : Bytes) : Action ε Link (Except TransportError Unit) := do
  if token = [] then return .error .emptyToken
  else
    let step ← accept token
    if let .failure status := step.status then
      note ⟨.debug, source, "acceptor rejected token", [("status", status.text)]⟩
      Action.update fun l => { l with failure := some status }
    if step.output ≠ [] then
      Action.update fun l => { l with replies := l.replies ++ [step.output] }
    return .ok ()

def receive : Action ε Link (Except TransportError Bytes) := do
  match (← Action.state).replies with
  | [] => return .error (.io (.ofKind .unexpectedEof))
  | token :: rest =>
    Action.update fun l => { l with replies := rest }
    return .ok token

def transport : Transport (Action ε Link) := ⟨send, receive⟩

/-- Run an operation on the acceptor's context, if there is one. -/
def onContext {α : Type} (operation : Psk.Context → Instant → Except Psk.Refusal (α × Psk.Context)) :
    Action ε Link (Except Status α) := do
  match (← Action.state).context with
  | none => return .error Psk.Refusal.noContext.status
  | some context =>
    let (result, context) ← context.timed environment (operation context)
    Action.update fun l => { l with context := some context }
    return result.mapError Psk.Refusal.status

/-- Let the acceptor take a message out of a token. -/
def unwrap (token : Bytes) : Action ε Link (Except Status Unwrapped) :=
  onContext fun context now => context.unwrap now token

def getMic (message : Bytes) : Action ε Link (Except Status Bytes) :=
  onContext fun context now => context.getMic now message

def isOpen (l : Link) : Bool := l.context.any Psk.Context.isOpen

end Link

end GssContext.Rehearsal
