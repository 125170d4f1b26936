/-
The context of the pre-shared-key mechanism.

A context is in one of three phases: an initiator that said hello awaits the
reply, an acceptor that replied awaits the finish, and either may be
established, with a session for its messages. Each phase holds what the next
step needs and nothing else.
-/
import GssContext.Journal
import GssContext.Psk.Config
import GssContext.Psk.Session

set_option autoImplicit false

namespace GssContext.Psk

/-- How far a handshake has come. -/
inductive Phase where
  /-- The initiator said hello. -/
  | awaitingReply (hello nonce : Bytes) (requested : Flags)
  /-- The acceptor replied. -/
  | awaitingFinish (transcript proofKey : Bytes)
  /-- Messages can be exchanged. -/
  | established (session : Session)
  deriving DecidableEq

def Phase.text : Phase → String
  | awaitingReply .. => "awaiting reply"
  | awaitingFinish .. => "awaiting finish"
  | established _ => "open"

/-- One side's context. -/
structure Context where
  initiator : String
  acceptor : String
  locallyInitiated : Bool
  flags : Flags
  phase : Phase
  deriving DecidableEq

namespace Context

/-- The session, once the context is established. -/
def session? (c : Context) : Option Session :=
  match c.phase with
  | .established session => some session
  | _ => none

def isOpen (c : Context) : Bool := c.session?.isSome

/-- The session, or the refusal of an operation that needs one. -/
def session (c : Context) : Except Refusal Session :=
  match c.session? with
  | some session => .ok session
  | none => .error .noContext

def withSession (c : Context) (session : Session) : Context :=
  { c with phase := .established session }

def info (c : Context) : ContextInfo where
  initiator := c.initiator
  acceptor := c.acceptor
  mechanism := .psk
  flags := c.flags
  expiresAt := c.session?.bind Session.expiresAt
  locallyInitiated := c.locallyInitiated
  isOpen := c.isOpen

def debug (c : Context) : String :=
  "PskContext \x7b initiator: " ++ Text.quoted c.initiator ++
  ", acceptor: " ++ Text.quoted c.acceptor ++
  ", locally_initiated: " ++ toString c.locallyInitiated ++
  ", flags: " ++ c.flags.debug ++ ", phase: " ++ Text.quoted c.phase.text ++ " \x7d"

/-! ## Messages

A context passes messages to its session and keeps what that becomes; without a
session it refuses. The operations that need the time or a nonce draw them here,
once each, so that the session's own functions stay pure. -/

def unwrap (c : Context) (now : Instant) (token : Bytes) :
    Except Refusal (Unwrapped × Context) := do
  let (result, session) ← (← c.session).unwrap now token
  return (result, c.withSession session)

def getMic (c : Context) (now : Instant) (message : Bytes) : Except Refusal (Bytes × Context) := do
  let (token, session) ← (← c.session).getMic now message
  return (token, c.withSession session)

def verifyMic (c : Context) (now : Instant) (message token : Bytes) :
    Except Refusal (Unit × Context) := do
  return ((), c.withSession (← (← c.session).verifyMic now message token))

variable {m : Type → Type} [Monad m] [Journal m]

def source : String := "tokenseal_core::psk::session"

/-- Run an operation that depends on the time. One that is refused leaves the
context as it is. -/
def timed {α : Type} (env : Environment m) (c : Context)
    (operation : Instant → Except Refusal (α × Context)) : m (Except Refusal α × Context) := do
  match operation (← env.now) with
  | .ok (value, c') => return (.ok value, c')
  | .error e => return (.error e, c)

/-- Draw a nonce. A failure is an error worth a line of its own. -/
def drawNonce (env : Environment m) (size : Nat) : m (Except Refusal Bytes) := do
  match ← env.draw size with
  | .ok nonce => return .ok nonce
  | .error e =>
    note ⟨.error, source, "refusing to continue without fresh nonce", [("err", e.message)]⟩
    return .error (.noEntropy e)

/-- Protect a message, sealed if that is asked for and granted. Only sealing
draws a nonce, and only while the context's time is not over. -/
def wrap (env : Environment m) (c : Context) (message : Bytes) (confidential : Bool) :
    m (Except Refusal Wrapped × Context) := do
  match c.session with
  | .error e => return (.error e, c)
  | .ok session =>
    match session.checkExpiry (← env.now) with
    | .error e => return (.error e, c)
    | .ok () =>
      if session.seals confidential then
        match ← drawNonce env Sealed.nonceSize with
        | .error e => return (.error e, c)
        | .ok nonce =>
          let (result, session) := session.wrapSealed nonce message
          return (result, c.withSession session)
      else
        match session.wrapOpen message with
        | .error e => return (.error e, c)
        | .ok (wrapped, session) => return (.ok wrapped, c.withSession session)

end Context

end GssContext.Psk
