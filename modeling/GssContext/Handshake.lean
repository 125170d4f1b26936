/-
The messages of the handshake.

The initiator says hello: who it is, which service it wants, what it asks for,
and a nonce. The acceptor replies with a nonce of its own, its name, what it
grants, and a proof that it holds the key; the initiator finishes with its own
proof, and that is the last message.

Each message is a record. The three have no tag that tells them apart: a
message is read as what the reader's place in the handshake calls for, and is
refused if a field of that is missing.
-/
import GssContext.Cbor.Record
import GssContext.Flags
import GssContext.Oid.Dotted

set_option autoImplicit false

namespace GssContext

namespace Handshake

def version : UInt8 := 1

def nonceSize : Nat := 32

def readByte : Cbor.Reader UInt8 := do return UInt8.ofNat (← Cbor.natural 255)

/-- Bytes as a list of their values. -/
def readBytes : Cbor.Reader Bytes := do return (← Cbor.naturals 255).map UInt8.ofNat

/-- A set of flags, which is one number. -/
def readFlags : Cbor.Reader Flags := do return ⟨UInt32.ofNat (← Cbor.natural 0xffffffff)⟩

/-- An identifier, which is a list of numbers. It is taken as it comes. -/
def readOid : Cbor.Reader Oid := do
  return ⟨(← Cbor.naturals 0xffffffff).map UInt32.ofNat⟩

def writeFlags (flags : Flags) : Bytes := Cbor.writeNatural flags.bits.toNat

def writeOid (oid : Oid) : Bytes := Cbor.writeNaturals (oid.arcs.map UInt32.toNat)

/-- Read a value from the front of a byte string; what follows it is ignored. -/
def decode {α : Type} (reader : Cbor.Reader α) (bytes : Bytes) : Except Cbor.Error α :=
  match reader bytes with
  | .ok (value, _) => .ok value
  | .error e => .error e

/-- Bytes that are not shown. -/
def redacted (bytes : Bytes) : String := s!"\"<redacted {bytes.length} bytes>\""

end Handshake

open Handshake

/-! ## Hello

The first message carries no proof: the initiator cannot know yet whom it talks
to. What it asks for is protected afterwards, by the transcript. -/

/-- The initiator's first message. -/
structure Hello where
  version : UInt8
  mechanism : Oid
  flags : Flags
  initiator : String
  target : String
  nonce : Bytes
  deriving DecidableEq

namespace Hello

def encode (hello : Hello) : Bytes :=
  Cbor.writeRecord [
    ("version", Cbor.writeNatural hello.version.toNat),
    ("mechanism", writeOid hello.mechanism),
    ("flags", writeFlags hello.flags),
    ("initiator", Cbor.writeText hello.initiator),
    ("target", Cbor.writeText hello.target),
    ("nonce", Cbor.writeByteList hello.nonce)]

structure Fields where
  version : Option UInt8 := none
  mechanism : Option Oid := none
  flags : Option Flags := none
  initiator : Option String := none
  target : Option String := none
  nonce : Option Bytes := none

def record : Cbor.Record Fields Hello where
  start := {}
  field name :=
    if name = Bytes.ofAscii "version" then
      some fun f => Cbor.once f.version readByte fun v => { f with version := some v }
    else if name = Bytes.ofAscii "mechanism" then
      some fun f => Cbor.once f.mechanism readOid fun v => { f with mechanism := some v }
    else if name = Bytes.ofAscii "flags" then
      some fun f => Cbor.once f.flags readFlags fun v => { f with flags := some v }
    else if name = Bytes.ofAscii "initiator" then
      some fun f => Cbor.once f.initiator Cbor.text fun v => { f with initiator := some v }
    else if name = Bytes.ofAscii "target" then
      some fun f => Cbor.once f.target Cbor.text fun v => { f with target := some v }
    else if name = Bytes.ofAscii "nonce" then
      some fun f => Cbor.once f.nonce readBytes fun v => { f with nonce := some v }
    else none
  complete f := do
    return ⟨← f.version, ← f.mechanism, ← f.flags, ← f.initiator, ← f.target, ← f.nonce⟩

def decode (bytes : Bytes) : Except Cbor.Error Hello := Handshake.decode record.read bytes

def debug (hello : Hello) : String :=
  "InitiatorHello \x7b version: " ++ toString hello.version.toNat ++
  ", mechanism: " ++ hello.mechanism.debug ++ ", flags: " ++ hello.flags.debug ++
  ", initiator: " ++ Text.quoted hello.initiator ++ ", target: " ++ Text.quoted hello.target ++
  ", nonce: " ++ redacted hello.nonce ++ " \x7d"

end Hello

/-! ## Reply

The reply repeats nothing of the hello. It proves that its sender holds the key
and heard this hello, since the proof is a code over the transcript. -/

/-- The acceptor's answer. -/
structure Reply where
  nonce : Bytes
  acceptor : String
  granted : Flags
  proof : Bytes
  deriving DecidableEq

namespace Reply

def encode (reply : Reply) : Bytes :=
  Cbor.writeRecord [
    ("nonce", Cbor.writeByteList reply.nonce),
    ("acceptor", Cbor.writeText reply.acceptor),
    ("granted", writeFlags reply.granted),
    ("proof", Cbor.writeByteList reply.proof)]

structure Fields where
  nonce : Option Bytes := none
  acceptor : Option String := none
  granted : Option Flags := none
  proof : Option Bytes := none

def record : Cbor.Record Fields Reply where
  start := {}
  field name :=
    if name = Bytes.ofAscii "nonce" then
      some fun f => Cbor.once f.nonce readBytes fun v => { f with nonce := some v }
    else if name = Bytes.ofAscii "acceptor" then
      some fun f => Cbor.once f.acceptor Cbor.text fun v => { f with acceptor := some v }
    else if name = Bytes.ofAscii "granted" then
      some fun f => Cbor.once f.granted readFlags fun v => { f with granted := some v }
    else if name = Bytes.ofAscii "proof" then
      some fun f => Cbor.once f.proof readBytes fun v => { f with proof := some v }
    else none
  complete f := do return ⟨← f.nonce, ← f.acceptor, ← f.granted, ← f.proof⟩

def decode (bytes : Bytes) : Except Cbor.Error Reply := Handshake.decode record.read bytes

def debug (reply : Reply) : String :=
  "AcceptorReply \x7b nonce: " ++ redacted reply.nonce ++
  ", acceptor: " ++ Text.quoted reply.acceptor ++ ", granted: " ++ reply.granted.debug ++
  ", proof: " ++ redacted reply.proof ++ " \x7d"

end Reply

/-! ## Finish

A proof and nothing else. As a record it has one field, so every record with a
field of this name can be read as one, whatever its other fields are. -/

/-- The initiator's last message. -/
structure Finish where
  proof : Bytes
  deriving DecidableEq

namespace Finish

def encode (finish : Finish) : Bytes :=
  Cbor.writeRecord [("proof", Cbor.writeByteList finish.proof)]

def record : Cbor.Record (Option Bytes) Finish where
  start := none
  field name :=
    if name = Bytes.ofAscii "proof" then some fun before => Cbor.once before readBytes some
    else none
  complete f := f.map Finish.mk

def decode (bytes : Bytes) : Except Cbor.Error Finish := Handshake.decode record.read bytes

def debug (finish : Finish) : String :=
  "InitiatorFinish \x7b proof: " ++ redacted finish.proof ++ " \x7d"

end Finish

end GssContext
