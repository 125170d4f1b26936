/-
The initiator's half of the pre-shared-key mechanism.

The first step says hello and awaits a reply. The second checks the reply: it
must be one, its acceptor must be the one that was called, and its proof must
be the code of the whole handshake under a key that only a holder of the
secret can derive. Then the initiator proves the same about itself, and the
context is established.

What the reply grants is cut down to what may be granted at all, so an acceptor
cannot talk the initiator into anything beyond that.
-/
import GssContext.Handshake
import GssContext.Psk.Context

set_option autoImplicit false

namespace GssContext.Psk

namespace Initiator

def source : String := "tokenseal_core::psk::initiator"

/-! ## The two steps

Each step is a pure function of what came in and of what was drawn. The hello is
kept as the bytes that were sent, since it is these bytes, and not the values in
them, that the transcript covers. -/

def hello (config : Config) (target : ServiceName) (flags : Flags) (nonce : Bytes) : Hello :=
  ⟨Handshake.version, .psk, flags, config.name, target.text, nonce⟩

def start (config : Config) (target : ServiceName) (flags : Flags) (nonce : Bytes) :
    Step × Context :=
  let token := (hello config target flags nonce).encode
  (⟨.continueNeeded, token, .empty⟩,
    ⟨config.name, target.text, true, .empty, .awaitingReply token nonce flags⟩)

/-- A reply that can be one: it is well formed and comes from the service that
was called. -/
def readReply (target : ServiceName) (input : Bytes) : Except Refusal Reply :=
  match Reply.decode input with
  | .error _ => .error .malformed
  | .ok reply =>
    if reply.nonce.length ≠ Handshake.nonceSize then .error .malformed
    else
      match ServiceName.parse? reply.acceptor with
      | none => .error .badName
      | some acceptor =>
        if target.accepts acceptor then .ok reply else .error (.otherAcceptor acceptor)

/-- What a reply grants. -/
def granted (requested offered : Flags) : Flags := (offered &&& grantable requested) ||| onceOpen

/-- Check a reply and finish. The keys of the proof depend on both nonces and the
digest on everything that was said, so the proof is compared only after the whole
reply is read. The flags that are recorded are what the reply grants, cut down to
what may be granted. -/
def finish (config : Config) (context : Context) (target : ServiceName) (input : Option Bytes)
    (now : Instant) : Except Refusal (Step × Context) := do
  match context.phase with
  | .awaitingReply hello nonce requested =>
    let some input := input | throw .missingToken
    let reply ← readReply target input
    let keys := config.key.handshakeKeys nonce reply.nonce
    let digest := transcript hello reply.nonce reply.acceptor reply.granted
    if Hmac.verifies keys.acceptor [digest] reply.proof then
      let flags := granted requested reply.granted
      let session := Session.start (config.key.sessionKeys digest) true flags
        (now.plus? config.lifetime)
      let proof : Finish := ⟨Hmac.ofParts keys.initiator [digest]⟩
      return (⟨.complete, proof.encode, flags⟩,
        { context with acceptor := reply.acceptor, flags, phase := .established session })
    else throw .badProof
  | _ => throw .outOfTurn

/-! ## The mechanism

Around the steps stand the clock, the randomness and the journal. A first step
draws a nonce and a later one looks at the clock; a step that is refused for the
mechanism it asks for, or for a token that comes too early, does neither. -/

variable {m : Type → Type} [Monad m] [Journal m]

def startStep (env : Environment m) (config : Config) (target : ServiceName) (flags : Flags) :
    m (Step × Option Context) := do
  match ← Context.drawNonce env Handshake.nonceSize with
  | .error e => return (.failure e.status, none)
  | .ok nonce =>
    let (step, context) := start config target flags nonce
    note ⟨.trace, source, "sending PSK hello",
      [("target", target.text), ("flags", flags.text)]⟩
    return (step, some context)

/-- Check a reply and finish; a refused one leaves the context as it was. -/
def finishStep (env : Environment m) (config : Config) (context : Context) (target : ServiceName)
    (input : Option Bytes) : m (Step × Option Context) := do
  match finish config context target input (← env.now) with
  | .ok (step, context) =>
    note ⟨.trace, source, "PSK handshake verified", [("granted", step.granted.text)]⟩
    return (step, some context)
  | .error e =>
    if let .otherAcceptor acceptor := e then
      note ⟨.debug, source, "acceptor answered for a different service",
        [("target", target.text), ("acceptor", acceptor.text)]⟩
    return (.failure e.status, some context)

def initStep (env : Environment m) (config : Config) (context : Option Context)
    (target : ServiceName) (wanted : Option Oid) (flags : Flags) (input : Option Bytes) :
    m (Step × Option Context) :=
  if wanted.any (· ≠ .psk) then pure (.failure Refusal.otherMechanism.status, context)
  else
    match context, input with
    | none, some _ => pure (.failure Refusal.earlyToken.status, none)
    | none, none => startStep env config target flags
    | some context, input => finishStep env config context target input

def namesFor (wanted : Oid) : Except Refusal (List Oid) :=
  if wanted = .psk then .ok [.hostBasedService, .userName] else .error .otherMechanism

def mechanism (env : Environment m) (config : Config) : Mechanism m ServiceName Context where
  nameText := ServiceName.text
  importName text := pure (ServiceName.parse text)
  initStep := initStep env config
  wrap context message confidential := do
    let (result, context) ← context.wrap env message confidential
    return (result.mapError Refusal.status, context)
  verifyMic context message token := do
    let (result, context) ← context.timed env fun now => context.verifyMic now message token
    return (result.mapError Refusal.status, context)
  inquire context := pure (.ok context.info)
  namesFor wanted := pure ((namesFor wanted).mapError Refusal.status)
  release context :=
    note ⟨.trace, source, "releasing PSK context", [("context", context.debug)]⟩

end Initiator

end GssContext.Psk
