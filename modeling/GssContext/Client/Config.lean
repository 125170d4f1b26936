/-
What a client session is told: where to connect, within which bounds, and what
to do there.
-/
import GssContext.Flags
import GssContext.Frame
import GssContext.Negotiation
import GssContext.Oid.Dotted
import GssContext.Text.Utf8

set_option autoImplicit false

namespace GssContext.Client

/-! ## Where and how

The bounds on rounds and on tokens have defaults, so no session is without them. The
two waiting times may be left out. -/

/-- The port of the service where none is given. -/
def defaultPort : UInt16 := 4444

/-- Where to connect, and the bounds of the session. -/
structure Config where
  host : String := "localhost"
  port : UInt16 := defaultPort
  /-- How long to wait for a connection; without it as long as the system does. -/
  connectTimeout : Option Duration := none
  /-- How long to wait for the other side; without it for ever. -/
  ioTimeout : Option Duration := none
  maxRounds : Nat := Negotiation.defaultMaxRounds
  maxTokenSize : Nat := Frame.defaultBound
  deriving DecidableEq

namespace Config

/-- Host and port in one text. -/
def addr (c : Config) : String := s!"{c.host}:{c.port.toNat}"

def timeoutDebug : Option Duration → String
  | none => "None"
  | some d => "Some(" ++ d.debug ++ ")"

def debug (c : Config) : String :=
  "SessionConfig \x7b host: " ++ Text.quoted c.host ++ ", port: " ++ toString c.port.toNat ++
  ", connect_timeout: " ++ timeoutDebug c.connectTimeout ++
  ", io_timeout: " ++ timeoutDebug c.ioTimeout ++
  ", max_rounds: " ++ toString c.maxRounds ++
  ", max_token_size: " ++ toString c.maxTokenSize ++ " \x7d"

end Config

/-! ## What to do -/

/-- Where the message comes from. -/
inductive Payload where
  | literal (text : String)
  | file (path : String)
  deriving DecidableEq

def Payload.debug : Payload → String
  | literal text => "Literal(" ++ Text.quoted text ++ ")"
  | file path => "File(" ++ Text.quoted path ++ ")"

/-- Which service to call, and what to send to it. -/
structure Request where
  service : String
  flags : Flags
  wanted : Option Oid
  payload : Payload
  sealed : Bool
  deriving DecidableEq

def Request.debug (r : Request) : String :=
  "SessionRequest \x7b service: " ++ Text.quoted r.service ++ ", flags: " ++ r.flags.debug ++
  ", mechanism: " ++ Negotiation.wantedDebug r.wanted ++ ", payload: " ++ r.payload.debug ++
  ", seal: " ++ toString r.sealed ++ " \x7d"

/-! ## What a client takes from its surroundings

A file is read at the time at which its bytes are sent, not when the session is
made: a session that fails before that has read nothing. -/

/-- Files and a clock. -/
structure Surroundings (m : Type → Type) where
  readFile : String → m (Except IoError Bytes)
  now : m Instant

def Payload.load {m : Type → Type} [Monad m] (surroundings : Surroundings m) :
    Payload → m (Except IoError Bytes)
  | literal text => pure (.ok (Utf8.encode text))
  | file path => surroundings.readFile path

end GssContext.Client
