/-
Messages under an established context.

A token starts with a header, and the header is authenticated with the body:

    wrap     header, message, code over header and message
    sealed   header, nonce, message sealed with the header as associated data
    mic      header, code over header and message

Each direction has its own keys and one counter for all three kinds. A side
numbers its tokens from zero without gaps; it accepts a token only if its
number is above that of every token it accepted before, so a token is accepted
once at most, and tokens that overtake others leave those behind for good.

The time and the nonce are arguments. An operation that fails gives no new
session, with one exception that says so.
-/
import GssContext.Cipher.Sealed
import GssContext.KeySchedule
import GssContext.Mechanism
import GssContext.MessageHeader
import GssContext.Psk.Refusal

set_option autoImplicit false

namespace GssContext.Psk

/-- One side of an established context. -/
structure Session where
  sendMac : Bytes
  receiveMac : Bytes
  sendEnc : Bytes
  receiveEnc : Bytes
  /-- The direction of this side's own tokens. -/
  outbound : Direction
  sendSeq : UInt64
  lastAccepted : Option UInt64
  confidentiality : Bool
  expiresAt : Option Instant
  deriving DecidableEq

namespace Session

/-- The initiator's or the acceptor's side, before its first token. -/
def start (keys : SessionKeys) (locallyInitiated : Bool) (flags : Flags)
    (expiresAt : Option Instant) : Session :=
  let fresh : Session :=
    { sendMac := keys.initiatorMac, receiveMac := keys.acceptorMac,
      sendEnc := keys.initiatorEnc, receiveEnc := keys.acceptorEnc,
      outbound := .initiatorToAcceptor, sendSeq := 0, lastAccepted := none,
      confidentiality := flags.has .confidentiality, expiresAt }
  if locallyInitiated then fresh
  else { fresh with
    sendMac := keys.acceptorMac, receiveMac := keys.initiatorMac,
    sendEnc := keys.acceptorEnc, receiveEnc := keys.initiatorEnc,
    outbound := .acceptorToInitiator }

/-- The direction of the other side's tokens. -/
def inbound (s : Session) : Direction := s.outbound.opposite

/-! ## Checks

Nothing is done for a context whose time is over. A token that comes in must have a
header, be of the other side's direction, and have a number that is still fresh.
What is authenticated is checked after that, so the status of a refusal tells how
far a token came. -/

/-- The context's time must not be over. -/
def checkExpiry (s : Session) (now : Instant) : Except Refusal Unit :=
  match s.expiresAt with
  | some deadline => if now.reached deadline then .error .expired else .ok ()
  | none => .ok ()

/-- The header of the next token, and the session after it. The last number
is never used, since the counter could not go past it. -/
def nextHeader (s : Session) (kind : TokenKind) : Except Refusal (MessageHeader × Session) :=
  if s.sendSeq.toNat + 1 < UInt64.size then
    .ok (.of kind s.outbound s.sendSeq, { s with sendSeq := s.sendSeq + 1 })
  else .error .numbersUsedUp

/-- Is a number above that of every accepted token? -/
def isFresh (s : Session) (seq : UInt64) : Bool :=
  match s.lastAccepted with
  | some last => last < seq
  | none => true

/-- Take a token apart: it must have a header, come from the other side, and
be fresh. -/
def openHeader (s : Session) (token : Bytes) : Except Refusal (MessageHeader × Bytes) :=
  match MessageHeader.split? token with
  | none => .error .malformed
  | some (header, body) =>
    if header.direction? ≠ some s.inbound then .error .wrongDirection
    else if s.isFresh header.seq then .ok (header, body)
    else .error .replayed

/-- The session after a token with a number was accepted. -/
def accepted (s : Session) (seq : UInt64) : Session := { s with lastAccepted := some seq }

/-! ## Sending

The number is taken before the token is made. Where making it fails afterwards,
the number is gone all the same: no number is ever given to two messages. -/

def wrapOpen (s : Session) (message : Bytes) : Except Refusal (Wrapped × Session) := do
  let (header, s') ← s.nextHeader .wrap
  let head := header.toBytes
  return (⟨head ++ message ++ Hmac.ofParts s.sendMac [head, message], false⟩, s')

/-- A token with the message sealed under a nonce. A message that is too long
uses up a number, which is why there is a session in any case. -/
def wrapSealed (s : Session) (nonce message : Bytes) : Except Refusal Wrapped × Session :=
  match s.nextHeader .sealed with
  | .error e => (.error e, s)
  | .ok (header, s') =>
    let head := header.toBytes
    match Sealed.seal? s.sendEnc nonce head message with
    | some text => (.ok ⟨head ++ nonce ++ text, true⟩, s')
    | none => (.error .tooLong, s')

/-- Does a request for confidentiality lead to sealing? -/
def seals (s : Session) (confidential : Bool) : Bool := confidential && s.confidentiality

def getMic (s : Session) (now : Instant) (message : Bytes) : Except Refusal (Bytes × Session) := do
  s.checkExpiry now
  let (header, s') ← s.nextHeader .mic
  let head := header.toBytes
  return (head ++ Hmac.ofParts s.sendMac [head, message], s')

/-! ## Receiving

Only a token whose code or seal verifies moves `lastAccepted`. A forged token
with a high number would otherwise lock out every token of the other side. -/

/-- The message in the body of a sealed token. -/
def unsealBody (s : Session) (head body : Bytes) : Except Refusal Bytes :=
  if body.length < Sealed.nonceSize then .error .malformed
  else
    match Sealed.open? s.receiveEnc (body.take Sealed.nonceSize) head
        (body.drop Sealed.nonceSize) with
    | some message => .ok message
    | none => .error .forged

/-- The message in the body of a token in the open. -/
def verifyBody (s : Session) (head body : Bytes) : Except Refusal Bytes :=
  if body.length < Hmac.size then .error .malformed
  else
    let message := body.take (body.length - Hmac.size)
    if Hmac.verifies s.receiveMac [head, message] (body.drop (body.length - Hmac.size)) then
      .ok message
    else .error .forged

/-- Take a message out of a token, in the open or sealed as its header says. The
bytes after the header are looked at only by the kind that is named there. -/
def unwrap (s : Session) (now : Instant) (token : Bytes) :
    Except Refusal (Unwrapped × Session) := do
  s.checkExpiry now
  let (header, body) ← s.openHeader token
  match header.kind? with
  | some .sealed =>
    let message ← s.unsealBody header.toBytes body
    return (⟨message, true⟩, s.accepted header.seq)
  | some .wrap =>
    let message ← s.verifyBody header.toBytes body
    return (⟨message, false⟩, s.accepted header.seq)
  | _ => throw .malformed

/-- Check a code over a message that came by another way. The length of the code is
part of what a token has to look like, so a code that is too long is malformed
and not forged. -/
def verifyMic (s : Session) (now : Instant) (message token : Bytes) : Except Refusal Session := do
  s.checkExpiry now
  let (header, tag) ← s.openHeader token
  if header.kind? ≠ some .mic ∨ tag.length ≠ Hmac.size then throw .malformed
  if Hmac.verifies s.receiveMac [header.toBytes, message] tag then
    return s.accepted header.seq
  else throw .forged

end Session

end GssContext.Psk
