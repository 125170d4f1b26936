/-
Establishing a context.

The two sides take turns. Each step of the mechanism gets the token that came
in last, and its own token, if it has one, is sent before anything else
happens. A step that needs an answer is followed by receiving one, unless it
was the last step the caller allows; a step that completes or fails ends the
negotiation and nothing more is sent or received. Whatever ends it short of
success, the context is closed first.

Protection against replay is always asked for.
-/
import GssContext.Bytes.Hex
import GssContext.SecurityContext
import GssContext.Token

set_option autoImplicit false

namespace GssContext

/-- Why no context was established. -/
inductive NegotiationError where
  /-- The mechanism does not take the name. -/
  | badName (status : Status)
  | rejected (status : Status)
  | tooManyRounds (limit : Nat)
  | transport (error : TransportError)
  deriving DecidableEq

namespace NegotiationError

def message : NegotiationError → String
  | badName status => "parsing name: " ++ status.text
  | rejected status => "initializing context: " ++ status.text
  | tooManyRounds limit => s!"context not established after {limit} rounds"
  | transport error => "exchanging context tokens: " ++ error.message

/-- The mechanism's status, if it is the cause. -/
def status? : NegotiationError → Option Status
  | badName status | rejected status => some status
  | tooManyRounds _ | transport _ => none

end NegotiationError

namespace Negotiation

variable {m : Type → Type} [Monad m] [Journal m] {ν κ : Type}

def source : String := "tokenseal_core::negotiator"

/-- Steps that are allowed where the caller does not say. -/
def defaultMaxRounds : Nat := 100

/-- What stays the same through all rounds. -/
structure Request (ν : Type) where
  target : ν
  wanted : Option Oid
  flags : Flags
  maxRounds : Nat

/-- Send a step's token, if it has one. -/
def sendOutput (transport : Transport m) (output : Bytes) : m (Except TransportError Unit) := do
  if output = [] then return .ok ()
  else
    note ⟨.trace, source, "sending context token", [("token", Hex.encode output)]⟩
    transport.send output

def receiveInput (transport : Transport m) : m (Except TransportError Bytes) := do
  match ← transport.receive with
  | .error e => return .error e
  | .ok token =>
    note ⟨.trace, source, "received context token", [("token", Hex.encode token)]⟩
    return .ok token

/-- Close the context and end with an error. -/
def abandon (mechanism : Mechanism m ν κ) (ctx : SecurityContext κ) (e : NegotiationError) :
    m (Except NegotiationError (SecurityContext κ)) := do
  let _ ← ctx.release mechanism
  return .error e

def exhausted (mechanism : Mechanism m ν κ) (request : Request ν) (ctx : SecurityContext κ) :
    m (Except NegotiationError (SecurityContext κ)) := do
  note ⟨.warn, source, "context not established within round bound",
    [("max_rounds", toString request.maxRounds)]⟩
  abandon mechanism ctx (.tooManyRounds request.maxRounds)

def finished (request : Request ν) (ctx : SecurityContext κ) (round : Nat) (granted : Flags) :
    m (Except NegotiationError (SecurityContext κ)) := do
  let missing := granted.missingFrom request.flags
  if missing ≠ .empty then
    note ⟨.warn, source, "context established without requested flags",
      [("missing", missing.text), ("granted", granted.text)]⟩
  note ⟨.debug, source, "security context established",
    [("rounds", toString round), ("granted", granted.text)]⟩
  return .ok (ctx.opened granted)

/-- The rounds from `round` on, of which `left` are allowed. -/
def rounds (mechanism : Mechanism m ν κ) (transport : Transport m) (request : Request ν) :
    (left round : Nat) → (input : Option Bytes) → SecurityContext κ →
    m (Except NegotiationError (SecurityContext κ))
  | 0, _, _, ctx => exhausted mechanism request ctx
  | left + 1, round, input, ctx => do
    let (step, ctx) ← ctx.initStep mechanism request.target request.wanted request.flags input
    note ⟨.debug, source, "init_sec_context step",
      [("round", toString round), ("status", step.status.debug),
        ("output_len", toString step.output.length)]⟩
    match ← sendOutput transport step.output with
    | .error e => abandon mechanism ctx (.transport e)
    | .ok () =>
      match step.status with
      | .failure status => abandon mechanism ctx (.rejected status)
      | .complete => finished request ctx round step.granted
      | .continueNeeded =>
        if left = 0 then exhausted mechanism request ctx
        else
          match ← receiveInput transport with
          | .error e => abandon mechanism ctx (.transport e)
          | .ok token => rounds mechanism transport request left (round + 1) (some token) ctx

def wantedDebug : Option Oid → String
  | none => "None"
  | some oid => "Some(" ++ oid.debug ++ ")"

/-- Establish a context with a named acceptor in at most `maxRounds` steps. -/
def establish (mechanism : Mechanism m ν κ) (transport : Transport m) (maxRounds : Nat)
    (target : String) (requested : Flags) (wanted : Option Oid) :
    m (Except NegotiationError (SecurityContext κ)) := do
  match ← mechanism.importName target with
  | .error status => return .error (.badName status)
  | .ok name =>
    let flags := requested ||| .of [.replay]
    note ⟨.debug, source, "establishing security context",
      [("target", mechanism.nameText name), ("flags", flags.text),
        ("mechanism", wantedDebug wanted)]⟩
    rounds mechanism transport ⟨name, wanted, flags, maxRounds⟩ maxRounds 1 none .new

end Negotiation

end GssContext
