/-
The acceptor's half of the pre-shared-key mechanism.

The first token must be a hello of this version and mechanism, with a nonce of
the right size, for a service that this acceptor is. Only then is a nonce
drawn, so a hello that is refused costs no randomness. The second token must
be the initiator's proof over the handshake as the acceptor saw it, byte for
byte; after it the context is established and nothing more is sent.
-/
import GssContext.Handshake
import GssContext.Psk.Context

set_option autoImplicit false

namespace GssContext.Psk

/-- One side that answers for a service. -/
structure Acceptor where
  config : Config
  name : ServiceName
  confidentiality : Bool

namespace Acceptor

def source : String := "tokenseal_core::psk::acceptor"

/-- The acceptor that goes by the configured name, which must be one. -/
def of (config : Config) (confidentiality : Bool) : Except Status Acceptor := do
  return ⟨config, ← ServiceName.parse config.name, confidentiality⟩

/-! ## The two steps

The acceptor answers the hello as it came, byte for byte. For the step after that it
keeps the digest and the key for the other side's proof; neither the hello nor a
nonce is needed again. -/

/-- A hello that this acceptor answers. -/
def readHello (acceptor : Acceptor) (input : Bytes) : Except Refusal Hello :=
  match Hello.decode input with
  | .error _ => .error .malformed
  | .ok hello =>
    if hello.version ≠ Handshake.version then .error .otherVersion
    else if hello.mechanism ≠ .psk then .error .otherMechanism
    else if hello.nonce.length ≠ Handshake.nonceSize then .error .malformed
    else
      match ServiceName.parse? hello.target with
      | none => .error .badName
      | some target =>
        if target.accepts acceptor.name then .ok hello else .error (.unknownTarget target)

/-- Answer a hello, which came as `input`, under a nonce. -/
def reply (acceptor : Acceptor) (hello : Hello) (input nonce : Bytes) : Step × Context :=
  let granted := grants hello.flags acceptor.confidentiality
  let name := acceptor.name.text
  let digest := transcript input nonce name granted
  let keys := acceptor.config.key.handshakeKeys hello.nonce nonce
  let token : Reply := ⟨nonce, name, granted, Hmac.ofParts keys.acceptor [digest]⟩
  (⟨.continueNeeded, token.encode, granted⟩,
    ⟨hello.initiator, name, false, granted, .awaitingFinish digest keys.initiator⟩)

/-- Check the initiator's proof over the digest that the reply was made for. Only
here does the acceptor learn that the other side holds the key; the flags for an
established context are added at this point and not before. -/
def confirm (acceptor : Acceptor) (context : Context) (input : Bytes) (now : Instant) :
    Except Refusal (Step × Context) := do
  match context.phase with
  | .awaitingFinish digest proofKey =>
    match Finish.decode input with
    | .error _ => throw .malformed
    | .ok finish =>
      if Hmac.verifies proofKey [digest] finish.proof then
        let flags := context.flags ||| onceOpen
        let session := Session.start (acceptor.config.key.sessionKeys digest) false flags
          (now.plus? acceptor.config.lifetime)
        return (⟨.complete, [], flags⟩,
          { context with flags, phase := .established session })
      else throw .badProof
  | _ => throw .outOfTurn

/-! ## Running them

As for the initiator, what is drawn and what is written to the journal is kept out
of the steps. A hello that is refused draws nothing. -/

variable {m : Type → Type} [Monad m] [Journal m]

def replyStep (env : Environment m) (acceptor : Acceptor) (input : Bytes) :
    m (Step × Option Context) := do
  match acceptor.readHello input with
  | .error e =>
    if let .unknownTarget target := e then
      note ⟨.debug, source, "no key for requested service",
        [("target", target.text), ("acceptor", acceptor.name.text)]⟩
    return (.failure e.status, none)
  | .ok hello =>
    match ← Context.drawNonce env Handshake.nonceSize with
    | .error e => return (.failure e.status, none)
    | .ok nonce =>
      let (step, context) := acceptor.reply hello input nonce
      note ⟨.trace, source, "answering PSK hello",
        [("initiator", hello.initiator), ("granted", step.granted.text)]⟩
      return (step, some context)

/-- Check the initiator's proof; a refused one leaves the context as it was. -/
def confirmStep (env : Environment m) (acceptor : Acceptor) (context : Context) (input : Bytes) :
    m (Step × Option Context) := do
  match acceptor.confirm context input (← env.now) with
  | .error e => return (.failure e.status, some context)
  | .ok (step, context) =>
    note ⟨.trace, source, "PSK context accepted", [("initiator", context.initiator)]⟩
    return (step, some context)

def acceptStep (env : Environment m) (acceptor : Acceptor) (context : Option Context)
    (input : Bytes) : m (Step × Option Context) :=
  match context with
  | none => replyStep env acceptor input
  | some context => confirmStep env acceptor context input

end Acceptor

end GssContext.Psk
