/-
The clock, the randomness and the files of the machine the program runs on, and
the journal written to its terminal.

Nothing is decided here: each operation asks the system, and what goes wrong is
handed back as a value.
-/
import GssContext.Client.Config
import GssContext.Command.LogFilter
import GssContext.Environment

set_option autoImplicit false

namespace GssContext.Host

open GssContext.Command

/-! ## Journal -/

/-- Programs that run on the system and show the lines that a filter passes. -/
abbrev Terminal := ReaderT LogFilter IO

instance : Journal Terminal where
  note line := do
    if (← read).passes line then IO.eprint (lineText ⟨⟨← IO.monoNanosNow⟩⟩ line)

/-! ## Failures -/

/-- The number and the text of a failure, where the system gives them. -/
def number? : IO.Error → Option (UInt32 × String)
  | .alreadyExists _ code text | .noFileOrDirectory _ code text | .interrupted _ code text
  | .invalidArgument _ code text | .permissionDenied _ code text | .resourceExhausted _ code text
  | .inappropriateType _ code text | .noSuchThing _ code text => some (code, text)
  | .otherError code text | .resourceBusy code text | .resourceVanished code text
  | .unsupportedOperation code text | .hardwareFault code text
  | .unsatisfiedConstraints code text | .illegalOperation code text | .protocolError code text
  | .timeExpired code text => some (code, text)
  | .unexpectedEof | .userError _ => none

/-- The number of a failure without its sign: some requests give it negated. -/
def magnitude (code : UInt32) : Nat := if code < 0x80000000 then code.toNat else (-code).toNat

/-- The kind of failure that a number stands for. -/
def kindOf (number : Nat) : IoKind :=
  match number with
  | 1 | 13 => .permissionDenied
  | 2 => .notFound
  | 4 => .interrupted
  | 11 => .wouldBlock
  | 22 => .invalidInput
  | 32 => .brokenPipe
  | 103 => .connectionAborted
  | 104 => .connectionReset
  | 107 => .notConnected
  | 110 => .timedOut
  | 111 => .connectionRefused
  | _ => .other

def failure (e : IO.Error) : IoError :=
  match number? e with
  | none => .reported .other (toString e)
  | some (code, text) =>
    let number := magnitude code
    match number with
    | 2 => .noSuchFile
    | 20 => .notDirectory
    | 21 => .isDirectory
    | 36 => .nameTooLong
    | 40 => .tooManyLinks
    | 111 => .nobodyListens
    | _ => .reported (kindOf number) s!"{text} (os error {number})"

def ask {α : Type} (request : IO α) : Terminal (Except IoError α) := do
  try return .ok (← request) catch e => return .error (failure e)

/-! ## Clock and randomness -/

def source : String := "tokenseal_client::system_env"

def now : Terminal Instant := do return ⟨⟨← IO.monoNanosNow⟩⟩

def draw (count : Nat) : Terminal (Except EntropyError Bytes) := do
  match ← ask (IO.getRandomBytes count.toUSize) with
  | .ok bytes => return .ok bytes.toList
  | .error e =>
    note ⟨.error, source, "getrandom failed", [("err", e.message)]⟩
    return .error ⟨e.message⟩

def environment : Environment Terminal := ⟨now, draw⟩

/-! ## Files -/

def readFile (path : String) : Terminal (Except IoError Bytes) := do
  if '\x00' ∈ path.toList then return .error .embeddedNul
  else return (← ask (IO.FS.readBinFile path)).map ByteArray.toList

def surroundings : Client.Surroundings Terminal := ⟨readFile, now⟩

end GssContext.Host
