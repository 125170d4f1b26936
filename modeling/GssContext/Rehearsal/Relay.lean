/-
A channel to an acceptor that can be tampered with.

Until the acceptor's context is established, tokens go to its handshake. After
that they are messages: the acceptor takes them out of their protection, and
what it signs is queued ahead of any answer of the handshake. Chosen tokens
are changed in one byte on their way, in either direction; the record of the
wire shows them as they were before.
-/
import GssContext.Client.Session
import GssContext.Rehearsal.Link

set_option autoImplicit false

namespace GssContext.Rehearsal

/-! ## Tampering -/

/-- A change to one byte of one token of a direction. -/
structure Tampering where
  index : Nat
  /-- The place of the byte, from the end if it is negative. -/
  place : Int
  mask : UInt8
  deriving DecidableEq

/-- The index that a place means in a token of a length, unless it lies before
its start. -/
def byteIndex? (length : Nat) (place : Int) : Option Nat :=
  let i := if place < 0 then length + place else place
  if i < 0 then none else some i.toNat

/-- Change one byte. A place outside the token changes nothing. -/
def flipAt (token : Bytes) (place : Int) (mask : UInt8) : Bytes :=
  match byteIndex? token.length place with
  | some i => token.modify i (· ^^^ mask)
  | none => token

/-- A token after the changes for its number. -/
def tamper (changes : List Tampering) (index : Nat) (token : Bytes) : Bytes :=
  changes.foldl (fun t c => if c.index = index then flipAt t c.place c.mask else t) token

/-! ## The wire -/

/-- What the wire saw. -/
inductive WireEvent where
  | sent (token : Bytes)
  | acceptorFailed (status : Status)
  | acceptorMessage (unwrapped : Unwrapped)
  | acceptorUnwrapFailed (status : Status)
  | received (token : Bytes)
  | closed
  deriving DecidableEq

/-- A link, what is done to its tokens, and the record of the wire. -/
structure Relay where
  link : Link
  outgoing : List Tampering := []
  incoming : List Tampering := []
  /-- A message to be signed in place of the one that came. -/
  signedInstead : Option Bytes := none
  signatures : List Bytes := []
  sends : Nat := 0
  receives : Nat := 0
  /-- What the wire saw, the last first. -/
  wire : List WireEvent := []

namespace Relay

variable {ε : Type}

def record (event : WireEvent) : Action ε Relay Unit :=
  Action.update fun r => { r with wire := event :: r.wire }

def onLink {α : Type} (x : Action ε Link α) : Action ε Relay α :=
  Action.onPart link (fun r link => { r with link }) x

/-- Let the acceptor read a message and sign it. -/
def deliver (token : Bytes) : Action ε Relay Unit := do
  match ← onLink (Link.unwrap token) with
  | .error status => record (.acceptorUnwrapFailed status)
  | .ok unwrapped =>
    record (.acceptorMessage unwrapped)
    let message := (← Action.state).signedInstead.getD unwrapped.message
    match ← onLink (Link.getMic message) with
    | .error _ => pure ()
    | .ok signature => Action.update fun r => { r with signatures := r.signatures ++ [signature] }

/-- Take one more step of the handshake. -/
def handshake (token : Bytes) : Action ε Relay (Except TransportError Unit) := do
  let result ← onLink (Link.send token)
  if let some status := (← Action.state).link.failure then record (.acceptorFailed status)
  return result

def send (token : Bytes) : Action ε Relay (Except TransportError Unit) := do
  let relay ← Action.state
  record (.sent token)
  Action.update fun r => { r with sends := r.sends + 1 }
  let token := tamper relay.outgoing relay.sends token
  if relay.link.isOpen then
    deliver token
    return .ok ()
  else handshake token

def nextToken : Action ε Relay (Except TransportError Bytes) := do
  match (← Action.state).signatures with
  | signature :: rest =>
    Action.update fun r => { r with signatures := rest }
    return .ok signature
  | [] => onLink Link.receive

def receive : Action ε Relay (Except TransportError Bytes) := do
  let relay ← Action.state
  match ← nextToken with
  | .error e => return .error e
  | .ok token =>
    record (.received token)
    Action.update fun r => { r with receives := r.receives + 1 }
    return .ok (tamper relay.incoming relay.receives token)

def close : Action ε Relay (Except IoError Unit) := do
  record .closed
  return .ok ()

def channel : Channel (Action ε Relay) := ⟨⟨send, receive⟩, close⟩

/-- Connections that always lead to this relay, beside another part of the
state. -/
def connector {σ : Type} : Client.Connector (Action ε (σ × Relay)) where
  connect _ := pure (.ok (channel.hoist Action.onSnd))

end Relay

end GssContext.Rehearsal
