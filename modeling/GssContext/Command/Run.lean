/-
One run of the program.

The words decide whether there is anything to do besides telling what is wrong
with them. If there is, the key file is read, a session is run with the key,
and the exit code tells how it ended.
-/
import GssContext.Client.KeyFile
import GssContext.Client.Session
import GssContext.Command.Arguments
import GssContext.Command.LogFilter
import GssContext.Psk.Initiator

set_option autoImplicit false

namespace GssContext.Command

/-- What a run leaves: its exit code, and what it wrote. -/
structure Exit where
  code : UInt32
  output : String := ""
  complaint : String := ""
  deriving DecidableEq

/-! ## Without a session -/

/-- The name and the number of the program. -/
def versionText : String := "tokenseal-client 0.1.0\n"

def helpText : String :=
  "Establish a security context and exchange one protected message\n\n" ++
  "Usage: tokenseal-client [OPTIONS] --psk-file <PSK_FILE> <HOST> <SERVICE> <MESSAGE>\n"

/-- The end when the words do not lead to a session. -/
def Stop.exit : Stop → Exit
  | usage error => { code := 2, complaint := error.text }
  | help => { code := 0, output := helpText }
  | version => { code := 0, output := versionText }

/-- The end when the filter cannot be made, after what was said. -/
def broken (said : List String) : Exit := { code := 101, complaint := String.join said }

/-! ## With a session -/

def verified : Exit := { code := 0, output := "Signature verified.\n" }

def failed : Exit := { code := 1 }

def source : String := "tokenseal_client"

variable {m : Type → Type} [Monad m] [Journal m]

def giveUp (message : String) : m Exit := do
  note ⟨.error, source, message, []⟩
  return failed

def converse (env : Environment m) (surroundings : Client.Surroundings m)
    (connector : Client.Connector m) (side : Psk.Config) (arguments : Arguments) : m Exit := do
  let session : Client.Session := { config := arguments.config, request := arguments.request }
  let (result, _) ← session.run surroundings connector (Psk.Initiator.mechanism env side)
  match result with
  | .error e => giveUp e.message
  | .ok achievement =>
    note ⟨.debug, source, "session closed", [("granted", achievement.granted.text),
      ("confidential", toString achievement.wasConfidential)]⟩
    return verified

/-- Read the key and run a session with it. -/
def perform (env : Environment m) (surroundings : Client.Surroundings m)
    (connector : Client.Connector m) (arguments : Arguments) : m Exit := do
  let content ← surroundings.readFile arguments.keyFile
  match Client.configOfKeyFile arguments.keyFile content arguments.name with
  | .error e => giveUp e.message
  | .ok side => converse env surroundings connector side arguments

end GssContext.Command
