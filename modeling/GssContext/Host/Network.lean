/-
Connections over the network of the machine the program runs on.

Every request to the system can be bounded in time. One that is not answered in
time is given up, and so is the connection, since nobody can tell afterwards
what came through.
-/
import GssContext.Client.Dialing
import GssContext.Host.Surroundings
import Std.Async.DNS
import Std.Async.TCP
import Std.Async.Timer

set_option autoImplicit false

namespace GssContext.Host

open Std.Async Std.Net

/-! ## Waiting -/

/-- Run a request for no longer than `bound`; a request that takes longer ends
with `late`. -/
def within {α : Type} [Inhabited α] (bound : Option Duration) (late : IoError)
    (request : Async α) : Terminal (Except IoError α) := do
  match bound with
  | none => ask request.block
  | some bound =>
    let clock : Async (Option α) := do
      sleep (.ofNat bound.millis)
      return none
    let answer : Async (Option α) := do return some (← request)
    match ← ask (Async.race answer clock).block with
    | .error e => return .error e
    | .ok none => return .error late
    | .ok (some a) => return .ok a

/-! ## Addresses -/

/-- An address as the program has it. -/
def addressOf (address : IPAddr) (port : UInt16) : Client.Address :=
  match address with
  | .v4 a => ⟨a.toString, false, port⟩
  | .v6 a => ⟨a.toString, true, port⟩

/-- An address as the system takes it. -/
def socketAddress? (a : Client.Address) : Option SocketAddress :=
  if a.isLong then (IPv6Addr.ofString a.host).map fun address => .v6 ⟨address, a.port⟩
  else (IPv4Addr.ofString a.host).map fun address => .v4 ⟨address, a.port⟩

def lookup (host : String) (port : UInt16) : Terminal (Except IoError (List Client.Address)) := do
  match Client.Address.ofText? host port with
  | some address => return .ok [address]
  | none =>
    match ← ask (DNS.getAddrInfo host (toString port.toNat)).block with
    | .error _ => return .error .unknownHost
    | .ok addresses => return .ok (addresses.toList.eraseDups.map fun a => addressOf a port)

/-! ## Connections -/

/-- A connection; `bound` holds how long its requests may take. -/
def socket (client : TCP.Socket.Client) (bound : IO.Ref (Option Duration)) :
    Client.Socket Terminal where
  read want := do
    match ← within (← bound.get) .silence (client.recv? want.toUInt64) with
    | .error e => return .error e
    | .ok bytes => return .ok (bytes.map ByteArray.toList |>.getD [])
  write bytes := do
    match ← within (← bound.get) .silence (client.send ⟨bytes.toArray⟩) with
    | .error e => return .error e
    | .ok () => return .ok bytes.length
  flush := pure (.ok ())
  setTimeout timeout := do
    bound.set timeout
    return .ok ()
  shutdown := ask client.shutdown.block

def dial (address : Client.Address) (timeout : Option Duration) :
    Terminal (Except IoError (Client.Socket Terminal)) := do
  match socketAddress? address with
  | none => return .error .unknownHost
  | some target =>
    match ← ask TCP.Socket.Client.mk with
    | .error e => return .error e
    | .ok client =>
      match ← within timeout (.reported .timedOut "connection timed out") (client.connect target) with
      | .error e => return .error e
      | .ok () => return .ok (socket client (← IO.mkRef none))

def network : Client.Network Terminal := ⟨lookup, dial⟩

end GssContext.Host
