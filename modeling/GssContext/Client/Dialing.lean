/-
Making a connection.

A host may have several addresses; they are tried in order, and the first that
answers is used. If none answers, the reason is that of the last one. Only
then are the waiting times set, so a waiting time that cannot be set is found
out on a connection that exists already.
-/
import GssContext.Client.Address
import GssContext.Client.Session

set_option autoImplicit false

namespace GssContext.Client

/-- A connected stream. -/
structure Socket (m : Type → Type) extends Stream m where
  /-- Bound the time to wait for the other side. -/
  setTimeout : Option Duration → m (Except IoError Unit)
  /-- End the connection in both directions. -/
  shutdown : m (Except IoError Unit)

structure Network (m : Type → Type) where
  lookup : String → UInt16 → m (Except IoError (List Address))
  /-- Connect to an address, within a time if there is one. -/
  dial : Address → Option Duration → m (Except IoError (Socket m))

def Socket.hoist {m n : Type → Type} (lift : {α : Type} → m α → n α) (socket : Socket m) :
    Socket n where
  read want := lift (socket.read want)
  write bytes := lift (socket.write bytes)
  flush := lift socket.flush
  setTimeout timeout := lift (socket.setTimeout timeout)
  shutdown := lift socket.shutdown

namespace Network

def hoist {m n : Type → Type} [Monad n] (lift : {α : Type} → m α → n α) (network : Network m) :
    Network n where
  lookup host port := lift (network.lookup host port)
  dial address timeout := do
    match ← lift (network.dial address timeout) with
    | .error e => return .error e
    | .ok socket => return .ok (socket.hoist lift)

variable {m : Type → Type} [Monad m] [Journal m]

def source : String := "tokenseal_client::connector"

/-- Bound the time to wait; no time at all is not a bound. -/
def boundWaiting (socket : Socket m) (timeout : Option Duration) : m (Except IoError Unit) :=
  if timeout = some .zero then pure (.error .zeroTimeout) else socket.setTimeout timeout

/-- Try addresses in order; `last` is why the one before failed. -/
def dialFirst (network : Network m) (config : Config) (last : IoError) :
    List Address → m (Except IoError (Socket m))
  | [] => pure (.error last)
  | address :: rest => do
    match ← network.dial address config.connectTimeout with
    | .error e =>
      note ⟨.debug, source, "connect attempt failed",
        [("addr", address.text), ("err", e.message)]⟩
      dialFirst network config e rest
    | .ok socket =>
      match ← boundWaiting socket config.ioTimeout with
      | .error e => return .error e
      | .ok () =>
        note ⟨.debug, source, "connected", [("addr", address.text)]⟩
        return .ok socket

/-- A socket as a channel of tokens. That the other side ended the connection
first is no fault of closing it. -/
def channel (socket : Socket m) (bound : Nat) : Channel m where
  send := Frame.send socket.toStream
  receive := Frame.receive socket.toStream bound
  close := do
    match ← socket.shutdown with
    | .error e => return if e.kind = .notConnected then .ok () else .error e
    | .ok () => return .ok ()

def connector (network : Network m) : Connector m where
  connect config := do
    match ← network.lookup config.host config.port with
    | .error e => return .error e
    | .ok addresses =>
      match ← dialFirst network config .noAddress addresses with
      | .error e => return .error e
      | .ok socket => return .ok (channel socket config.maxTokenSize)

end Network

end GssContext.Client
