/-
A network in memory, with one peer on it.

One address has a peer that listens, if there is a peer at all; every other
address refuses. A peer serves one connection. It reads what the client wrote
as soon as a frame of it is whole, so the client never has to wait: a read
finds what the peer answered, or the end of the stream if the peer has ended,
or it would wait for ever, and then the waiting time passes.
-/
import GssContext.Client.Dialing
import GssContext.Rehearsal.Peer

set_option autoImplicit false

namespace GssContext.Rehearsal

/-- The network, its peer, and the bytes on their way. -/
structure Loopback where
  peer : Option Peer
  port : UInt16
  /-- Bytes of a frame that is not whole yet. -/
  toPeer : Bytes := []
  /-- What the peer wrote and the client has not read. -/
  toClient : Bytes := []

namespace Loopback

variable {ε : Type}

/-! ## The peer's side

The peer reads as soon as a whole frame is there and writes what it answers at
once, so nothing has to be scheduled: all that waits are bytes. -/

/-- The first frame of a byte string, if it is whole. -/
def wholeFrame? (bytes : Bytes) : Option (Bytes × Bytes) :=
  let declared := Bytes.toNatBE (bytes.take Frame.lengthSize)
  if bytes.length < Frame.lengthSize + declared then none
  else some ((bytes.drop Frame.lengthSize).take declared,
    bytes.drop (Frame.lengthSize + declared))

/-- The length of the first frame, if it is known. -/
def declared? (bytes : Bytes) : Option Nat :=
  if bytes.length < Frame.lengthSize then none
  else some (Bytes.toNatBE (bytes.take Frame.lengthSize))

/-- Let the peer read what is whole: at most `fuel` frames. -/
def absorb : (fuel : Nat) → Peer → (unread written : Bytes) → Peer × Bytes × Bytes
  | 0, peer, unread, written => (peer, unread, written)
  | fuel + 1, peer, unread, written =>
    if !peer.phase.isReading then (peer, unread, written)
    else
      match declared? unread with
      | none => (peer, unread, written)
      | some declared =>
        if Frame.defaultBound < declared then
          (peer.fail (.transport (.oversized declared Frame.defaultBound)), unread, written)
        else
          match wholeFrame? unread with
          | none => (peer, unread, written)
          | some (token, rest) =>
            let (peer, answers) := peer.feed token
            absorb fuel peer rest (written ++ answers.flatMap Frame.encode)

def arrive (bytes : Bytes) (l : Loopback) : Loopback :=
  match l.peer with
  | none => l
  | some peer =>
    let unread := l.toPeer ++ bytes
    let (peer, unread, written) := absorb unread.length peer unread l.toClient
    { l with peer := some peer, toPeer := unread, toClient := written }

/-- The client is gone: a peer that still waits for a token gets none. -/
def hangUp (l : Loopback) : Loopback :=
  match l.peer with
  | none => l
  | some peer =>
    if peer.phase.isReading then { l with peer := some (peer.fail (.transport (.io .endOfInput))) }
    else l

/-- How the peer's session ended, once the client is gone. -/
def report? (l : Loopback) : Option (Except PeerError PeerReport) :=
  l.hangUp.peer.bind fun peer =>
    match peer.phase with
    | .done report => some (.ok report)
    | .failed e => some (.error e)
    | .handshake | .message => none

/-! ## The client's side

For the client the network is a stream like any. Where nothing is left to read, a
peer that has ended means the end of the input. One that still waits for a token
itself will never speak, and the read fails as if the waiting time had passed. -/

def read (want : Nat) (l : Loopback) : Except IoError Bytes × Loopback :=
  if l.toClient = [] then
    if l.peer.any fun p => p.phase.isReading then (.error .silence, l) else (.ok [], l)
  else (.ok (l.toClient.take want), { l with toClient := l.toClient.drop want })

def socket : Client.Socket (Action ε Loopback) where
  read want := Action.step (read want)
  write bytes := Action.step fun l => (.ok bytes.length, l.arrive bytes)
  flush := pure (.ok ())
  setTimeout _ := pure (.ok ())
  shutdown := pure (.ok ())

def peerHost : String := "127.0.0.1"

/-- What a host name stands for on this network. -/
def addressesOf (host : String) (port : UInt16) : Except IoError (List Client.Address) :=
  match Client.Address.ofText? host port with
  | some address => .ok [address]
  | none =>
    if '\x00' ∈ host.toList then .error .embeddedNul
    else if host = "localhost" then .ok [⟨"::1", true, port⟩, ⟨peerHost, false, port⟩]
    else if host = "nowhere.test" then .ok []
    else .error .unknownHost

def listensAt (l : Loopback) (address : Client.Address) : Bool :=
  l.peer.isSome && address.host == peerHost && address.port == l.port

def network : Client.Network (Action ε Loopback) where
  lookup host port := pure (addressesOf host port)
  dial address _ := do
    return if (← Action.state).listensAt address then .ok socket else .error .nobodyListens

/-- Connections over this network, beside another part of the state. -/
def connector {σ : Type} : Client.Connector (Action ε (σ × Loopback)) :=
  let beside : Client.Network (Action ε (σ × Loopback)) := network.hoist Action.onSnd
  beside.connector

end Loopback

end GssContext.Rehearsal
