/-
The other side of a session, as a machine.

A peer reads tokens one by one and answers each with some tokens, or none. It
goes through a handshake, then reads one wrapped message and answers with a
signature over it, and ends with a report; or something goes wrong and it ends
with an error. Once it ended it reads nothing more.

Two peers are here: one that follows a script of replies and uses transparent
tokens, and one with a pre-shared key.
-/
import GssContext.Psk.Acceptor
import GssContext.Rehearsal.Scripted
import GssContext.Token

set_option autoImplicit false

namespace GssContext.Rehearsal

/-- What a peer saw in a session that went well. -/
structure PeerReport where
  handshakeTokens : List Bytes
  message : Bytes
  confidential : Bool
  deriving DecidableEq

inductive PeerError where
  | transport (error : TransportError)
  /-- The client does not keep to the protocol. -/
  | protocol (message : String)
  deriving DecidableEq

/-- What a peer is waiting for, or how it ended. -/
inductive PeerPhase where
  | handshake
  | message
  | done (report : PeerReport)
  | failed (error : PeerError)
  deriving DecidableEq

def PeerPhase.isReading : PeerPhase → Bool
  | handshake | message => true
  | done _ | failed _ => false

/-! ## A scripted peer

It gives the replies that are laid down, whatever the tokens of the handshake say,
and its signatures show the message that they are for. -/

/-- The replies that a scripted peer is to give, and how it is to end. -/
structure MockScript where
  replies : List Bytes := []
  /-- Does a last token come after the replies? -/
  finalToken : Bool := false
  corruptMic : Bool := false
  deriving DecidableEq

structure MockPeer where
  script : MockScript
  /-- The tokens of the handshake, the last one first. -/
  seen : List Bytes := []
  phase : PeerPhase
  deriving DecidableEq

namespace MockPeer

def awaits (script : MockScript) : PeerPhase :=
  if script.replies.isEmpty && !script.finalToken then .message else .handshake

def start (script : MockScript) : MockPeer := ⟨script, [], awaits script⟩

def handshakeToken (p : MockPeer) (token : Bytes) : MockPeer × List Bytes :=
  let seen := token :: p.seen
  match p.script.replies with
  | [] => (⟨{ p.script with finalToken := false }, seen, .message⟩, [])
  | [] :: _ => ({ p with seen, phase := .failed (.transport .emptyToken) }, [])
  | reply :: rest =>
    let script := { p.script with replies := rest }
    (⟨script, seen, awaits script⟩, [reply])

def messageToken (p : MockPeer) (token : Bytes) : MockPeer × List Bytes :=
  match transparentUnwrap? token with
  | none => ({ p with phase := .failed (.protocol "wrapped message is malformed") }, [])
  | some unwrapped =>
    let signature := transparentSignature unwrapped.message
    let signature := if p.script.corruptMic then signature ++ [0] else signature
    ({ p with phase := .done ⟨p.seen.reverse, unwrapped.message, unwrapped.confidential⟩ }, [signature])

def feed (p : MockPeer) (token : Bytes) : MockPeer × List Bytes :=
  match p.phase with
  | .handshake => p.handshakeToken token
  | .message => p.messageToken token
  | .done _ | .failed _ => (p, [])

end MockPeer

/-! ## A peer with a key

It runs an acceptor over the tokens that come in. What it reports at the end is
what the client sent: the tokens of the handshake, and the message. -/

/-- A peer that accepts contexts of the pre-shared-key mechanism. -/
structure PskPeer where
  acceptor : Psk.Acceptor
  env : Simulated
  context : Option Psk.Context := none
  /-- The tokens of the handshake, the last one first. -/
  seen : List Bytes := []
  phase : PeerPhase := .handshake

namespace PskPeer

/-- The acceptor's next step, without its journal. -/
def accept (p : PskPeer) (token : Bytes) : Step × PskPeer :=
  let step : Action Empty Simulated (Step × Option Psk.Context) :=
    p.acceptor.acceptStep Simulated.environment p.context token
  let outcome := step p.env
  (outcome.value.1, { p with context := outcome.value.2, env := outcome.state })

def handshakeToken (p : PskPeer) (token : Bytes) : PskPeer × List Bytes :=
  let (step, p) := p.accept token
  let p := { p with seen := token :: p.seen }
  let answers := if step.output = [] then [] else [step.output]
  match step.status with
  | .continueNeeded => (p, answers)
  | .complete => ({ p with phase := .message }, answers)
  | .failure status =>
    ({ p with phase := .failed (.protocol ("accepting context: " ++ status.text)) }, answers)

/-- A peer that ended because a message was refused. -/
def refused (p : PskPeer) (activity : String) (e : Psk.Refusal) : PskPeer :=
  { p with phase := .failed (.protocol (activity ++ ": " ++ e.status.text)) }

def messageToken (p : PskPeer) (token : Bytes) : PskPeer × List Bytes :=
  match p.context with
  | none => ({ p with phase := .failed (.protocol "no context after handshake") }, [])
  | some context =>
    match context.unwrap p.env.now token with
    | .error e => (p.refused "unsealing message" e, [])
    | .ok (unwrapped, context) =>
      match context.getMic p.env.now unwrapped.message with
      | .error e => ({ p with context }.refused "signing message" e, [])
      | .ok (signature, context) =>
        ({ p with
            context, phase := .done ⟨p.seen.reverse, unwrapped.message, unwrapped.confidential⟩ },
          [signature])

def feed (p : PskPeer) (token : Bytes) : PskPeer × List Bytes :=
  match p.phase with
  | .handshake => p.handshakeToken token
  | .message => p.messageToken token
  | .done _ | .failed _ => (p, [])

end PskPeer

/-! ## Either of them

The network carries bytes to a peer without knowing which of the two it is. -/

inductive Peer where
  | mock (peer : MockPeer)
  | psk (peer : PskPeer)

namespace Peer

/-- What the peer is waiting for, or how it ended. -/
def phase : Peer → PeerPhase
  | mock p => p.phase
  | psk p => p.phase

def fail (e : PeerError) : Peer → Peer
  | mock p => mock { p with phase := .failed e }
  | psk p => psk { p with phase := .failed e }

def feed : Peer → Bytes → Peer × List Bytes
  | mock p, token => ((mock (p.feed token).1), (p.feed token).2)
  | psk p, token => ((psk (p.feed token).1), (p.feed token).2)

end Peer

end GssContext.Rehearsal
