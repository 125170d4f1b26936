/-
A channel in memory.

What the other side will say is known beforehand; what is sent to it is
recorded and goes nowhere. The channel ends when nothing is left to say, and
after it was closed it takes and gives nothing. A send, a receive or the close
can be made to fail, a send or receive by its number.
-/
import GssContext.Client.Session
import GssContext.Rehearsal.Scripted

set_option autoImplicit false

namespace GssContext.Rehearsal

/-- The number of a call that fails, and how. -/
structure Fault where
  call : Nat
  kind : IoKind
  deriving DecidableEq

/-- The failure of a call, if it is the one with the fault. -/
def Fault.hits? (fault : Option Fault) (call : Nat) : Option TransportError :=
  match fault with
  | some f => if f.call = call then some (.io (.ofKind f.kind)) else none
  | none => none

structure Memory where
  inbound : List Bytes
  isClosed : Bool := false
  sendFault : Option Fault := none
  receiveFault : Option Fault := none
  closeFault : Option IoKind := none
  /-- Sends and receives so far, failed ones among them. -/
  sends : Nat := 0
  receives : Nat := 0
  deriving DecidableEq

namespace Memory

def send (token : Bytes) : Action Event Memory (Except TransportError Unit) := do
  let memory ← Action.state
  Action.update fun s => { s with sends := s.sends + 1 }
  match Fault.hits? memory.sendFault memory.sends with
  | some e => return .error e
  | none =>
    if memory.isClosed then return .error (.io (.ofKind .notConnected))
    else if token = [] then return .error .emptyToken
    else
      Action.emit (.sent token)
      return .ok ()

def receive : Action Event Memory (Except TransportError Bytes) := do
  let memory ← Action.state
  Action.update fun s => { s with receives := s.receives + 1 }
  match Fault.hits? memory.receiveFault memory.receives with
  | some e => return .error e
  | none =>
    if memory.isClosed then return .error (.io (.ofKind .notConnected))
    else
      match memory.inbound with
      | [] => return .error (.io (.ofKind .unexpectedEof))
      | token :: rest =>
        Action.update fun s => { s with inbound := rest }
        Action.emit (.received token)
        return .ok token

/-- Close the channel; a second time changes nothing. -/
def close : Action Event Memory (Except IoError Unit) := do
  let memory ← Action.state
  if !memory.isClosed then
    Action.update fun s => { s with isClosed := true }
    Action.emit .closed
  match memory.closeFault with
  | some kind => return .error (.ofKind kind)
  | none => return .ok ()

def channel : Channel (Action Event Memory) := ⟨⟨send, receive⟩, close⟩

end Memory

/-- Connections in memory: what each one finds, or why there is none. -/
structure MemoryDial where
  waiting : Memory
  refusal : Option IoKind := none
  connects : Nat := 0
  current : Memory := { inbound := [] }
  deriving DecidableEq

namespace MemoryDial

/-- Connect: the attempt counts whether or not it succeeds. -/
def connect : Action Event MemoryDial (Except IoError Unit) := do
  Action.update fun d => { d with connects := d.connects + 1 }
  let dial ← Action.state
  match dial.refusal with
  | some kind => return .error (.ofKind kind)
  | none =>
    Action.update fun d => { d with current := d.waiting }
    return .ok ()

def channel : Channel (Action Event MemoryDial) :=
  Memory.channel.hoist (Action.onPart current fun d current => { d with current })

/-- Connections in memory, beside another part of the state. -/
def connector {σ : Type} : Client.Connector (Action Event (σ × MemoryDial)) where
  connect _ := do
    match ← Action.onSnd connect with
    | .error e => return .error e
    | .ok () => return .ok (channel.hoist Action.onSnd)

end MemoryDial

end GssContext.Rehearsal
