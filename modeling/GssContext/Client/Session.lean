/-
A client session: one connection, one context, one protected message.

    idle, connected, negotiating, authenticated, protecting, verifying, closed

The session goes through these states in order and is aborted by the first
thing that fails. Nothing is tried again: the two sides take turns, and a side
that lost its turn cannot find it back. Whatever happens, the context is
released before the connection is closed, and each of the two happens once.
-/
import GssContext.Client.Config
import GssContext.Protection

set_option autoImplicit false

namespace GssContext.Client

/-! ## States

A session goes through its states in one order and leaves it only for the state of
a failure. The states carry no data: what is held in each of them is held by the
run. -/

/-- How far a session has come. -/
inductive SessionState where
  | idle
  | connected
  | negotiating
  | authenticated
  | protecting
  | verifying
  | closed
  | aborted
  deriving DecidableEq

namespace SessionState

def all : List SessionState :=
  [idle, connected, negotiating, authenticated, protecting, verifying, closed, aborted]

def text : SessionState → String
  | idle => "idle"
  | connected => "connected"
  | negotiating => "negotiating"
  | authenticated => "authenticated"
  | protecting => "protecting"
  | verifying => "verifying"
  | closed => "closed"
  | aborted => "aborted"

def name : SessionState → String
  | idle => "Idle"
  | connected => "Connected"
  | negotiating => "Negotiating"
  | authenticated => "Authenticated"
  | protecting => "Protecting"
  | verifying => "Verifying"
  | closed => "Closed"
  | aborted => "Aborted"

def isTerminal : SessionState → Bool
  | closed | aborted => true
  | _ => false

end SessionState

/-! ## Errors

An error of the run aborts the session, and the state it was in goes to the journal.
Only the refusal to run again leaves the session as it is. -/

inductive SessionError where
  | connect (addr : String) (error : IoError)
  | negotiation (error : NegotiationError)
  | protection (error : ProtectionError)
  | sending (error : TransportError)
  | receiving (error : TransportError)
  | payload (path : String) (error : IoError)
  | inquiringContext (status : Status)
  | inquiringNames (status : Status)
  | alreadyRun (state : SessionState)
  deriving DecidableEq

namespace SessionError

def message : SessionError → String
  | connect addr error => s!"connecting to {addr}: {error.message}"
  | negotiation error => error.message
  | protection error => error.message
  | sending error => "sending wrapped message: " ++ error.message
  | receiving error => "receiving signature block: " ++ error.message
  | payload path error => s!"reading payload from {path}: {error.message}"
  | inquiringContext status => "inquiring context: " ++ status.text
  | inquiringNames status => "inquiring mech names: " ++ status.text
  | alreadyRun state => "session already " ++ state.text

/-- The mechanism's status, if it is the cause. -/
def status? : SessionError → Option Status
  | negotiation error => error.status?
  | protection error => error.status?
  | inquiringContext status | inquiringNames status => some status
  | connect .. | sending _ | receiving _ | payload .. | alreadyRun _ => none

end SessionError

structure Achievement where
  granted : Flags
  wasConfidential : Bool
  context : ContextInfo
  deriving DecidableEq

/-! ## Running

A run connects, establishes a context, sends one message and waits for a signature
over it. Whatever happens after the connection is made, the connection is closed
once, and a failure to close it does not change how the run ended. -/

structure Connector (m : Type → Type) where
  connect : Config → m (Except IoError (Channel m))

structure Session where
  config : Config
  request : Request
  state : SessionState := .idle

namespace Session

def debug (s : Session) : String :=
  "Session \x7b config: " ++ s.config.debug ++ ", request: " ++ s.request.debug ++
  ", state: " ++ s.state.name ++ ", .. \x7d"

variable {m : Type → Type} [Monad m] [Journal m] {ν κ : Type}

def source : String := "tokenseal_client::session"

def secondsDebug : Option Nat → String
  | none => "None"
  | some n => "Some(" ++ toString n ++ ")"

/-- One line for each kind of name, counted from zero. -/
def noteNames (names : List Oid) : m Unit :=
  names.zipIdx.forM fun (name, index) =>
    note ⟨.debug, source, "supported name type",
      [("index", toString index), ("name_type", name.text)]⟩

/-- Ask the mechanism about the context, and say what it tells. -/
def describe (surroundings : Surroundings m) (mechanism : Mechanism m ν κ)
    (ctx : SecurityContext κ) : m (Except SessionError ContextInfo) := do
  match ← ctx.inquire mechanism with
  | .error status => return .error (.inquiringContext status)
  | .ok info =>
    let now ← surroundings.now
    let lifetime := info.expiresAt.map fun t => (t.sinceOrZero now).seconds
    note ⟨.info, source, "context established",
      [("initiator", info.initiator), ("acceptor", info.acceptor),
        ("lifetime_secs", secondsDebug lifetime), ("flags", info.flags.text),
        ("locally_initiated", toString info.locallyInitiated),
        ("open", toString info.isOpen)]⟩
    match ← mechanism.namesFor info.mechanism with
    | .error status => return .error (.inquiringNames status)
    | .ok names =>
      note ⟨.info, source, "mechanism name types",
        [("mechanism", info.mechanism.text), ("count", toString names.length)]⟩
      noteNames names
      return .ok info

/-- How a stage of the exchange ended: its result, the state it ended in, and
the context. -/
abbrev Stage (κ α : Type) := Except SessionError α × SessionState × SecurityContext κ

/-- Wait for the signature over the message and check it. -/
def receiveSignature (channel : Channel m) (mechanism : Mechanism m ν κ)
    (ctx : SecurityContext κ) (message : Bytes) : m (Stage κ Unit) := do
  match ← channel.receive with
  | .error e => return (.error (.receiving e), .verifying, ctx)
  | .ok signature =>
    match ← ctx.verify mechanism message signature with
    | (.error e, ctx) => return (.error (.protection e), .verifying, ctx)
    | (.ok (), ctx) =>
      note ⟨.info, source, "signature verified", []⟩
      return (.ok (), .verifying, ctx)

/-- Send the message under its protection, and say whether it is sealed. -/
def sendMessage (channel : Channel m) (mechanism : Mechanism m ν κ) (ctx : SecurityContext κ)
    (message : Bytes) (confidential : Bool) : m (Stage κ Bool) := do
  match ← ctx.protect mechanism message confidential with
  | (.error e, ctx) => return (.error (.protection e), .protecting, ctx)
  | (.ok wrapped, ctx) =>
    match ← channel.send wrapped.token with
    | .error e => return (.error (.sending e), .protecting, ctx)
    | .ok () => return (.ok wrapped.confidential, .protecting, ctx)

/-- The path of a payload, which is what an error about it names. -/
def payloadPath : Payload → String
  | .literal _ => ""
  | .file path => path

/-- What happens under an established context. -/
def converse (surroundings : Surroundings m) (channel : Channel m) (mechanism : Mechanism m ν κ)
    (request : Request) (ctx : SecurityContext κ) : m (Stage κ Achievement) := do
  match ← describe surroundings mechanism ctx with
  | .error e => return (.error e, .authenticated, ctx)
  | .ok info =>
    match ← request.payload.load surroundings with
    | .error e =>
      return (.error (.payload (payloadPath request.payload) e), .authenticated, ctx)
    | .ok message =>
      let (sent, state, ctx') ← sendMessage channel mechanism ctx message request.sealed
      match sent with
      | .error e => return (.error e, state, ctx')
      | .ok wasConfidential =>
        let (verified, state, ctx'') ← receiveSignature channel mechanism ctx' message
        match verified with
        | .error e => return (.error e, state, ctx'')
        | .ok () => return (.ok ⟨ctx.granted, wasConfidential, info⟩, state, ctx'')

/-- Everything between opening a connection and closing it. The context that
was established is released at the end, whatever the end is. -/
def exchange (surroundings : Surroundings m) (channel : Channel m) (mechanism : Mechanism m ν κ)
    (config : Config) (request : Request) : m (Except SessionError Achievement × SessionState) := do
  match ← Negotiation.establish mechanism channel.toTransport config.maxRounds request.service
      request.flags request.wanted with
  | .error e => return (.error (.negotiation e), .negotiating)
  | .ok ctx =>
    note ⟨.info, source, "context flags", [("granted", ctx.granted.text)]⟩
    let (result, state, ctx) ← converse surroundings channel mechanism request ctx
    let _ ← ctx.release mechanism
    return (result, state)

/-- Connect, exchange, and close the connection. That closing failed is noted
and changes nothing. -/
def connectAndExchange (surroundings : Surroundings m) (connector : Connector m)
    (mechanism : Mechanism m ν κ) (config : Config) (request : Request) :
    m (Except SessionError Achievement × SessionState) := do
  match ← connector.connect config with
  | .error e => return (.error (.connect config.addr e), .idle)
  | .ok channel =>
    note ⟨.debug, source, "connection open", [("addr", config.addr)]⟩
    let (result, state) ← exchange surroundings channel mechanism config request
    match ← channel.close with
    | .error e =>
      note ⟨.debug, source, "closing connection", [("addr", config.addr), ("err", e.message)]⟩
    | .ok () => pure ()
    return (result, state)

/-- Run the session. It runs once; after that it only says how it ended. -/
def run (s : Session) (surroundings : Surroundings m) (connector : Connector m)
    (mechanism : Mechanism m ν κ) : m (Except SessionError Achievement × Session) := do
  if s.state ≠ .idle then return (.error (.alreadyRun s.state), s)
  else
    let (result, state) ←
      connectAndExchange surroundings connector mechanism s.config s.request
    match result with
    | .ok achievement => return (.ok achievement, { s with state := .closed })
    | .error e =>
      note ⟨.debug, source, "session aborted", [("state", state.text), ("err", e.message)]⟩
      return (.error e, { s with state := .aborted })

/-- Run the session a number of times, and show it after each. -/
def runTimes (surroundings : Surroundings m) (connector : Connector m)
    (mechanism : Mechanism m ν κ) :
    Nat → Session → m (List (Except SessionError Achievement × Session))
  | 0, _ => pure []
  | n + 1, s => do
    let ended ← s.run surroundings connector mechanism
    return ended :: (← runTimes surroundings connector mechanism n ended.2)

end Session

end GssContext.Client
