/-
What the two sides of the pre-shared-key mechanism bring along, and what they
agree on.

Each side has the key, the name it goes by, and how long its contexts live. Out
of a handshake both have the digest of what was said in it, and both know from
the request what a context may be granted.
-/
import GssContext.Duration
import GssContext.Flags
import GssContext.KeySchedule
import GssContext.Text.Quoted
import GssContext.Text.Utf8

set_option autoImplicit false

namespace GssContext

/-! ## The digest of what was said

A transcript is a list of parts, and each is written with its length in front,
so that moving bytes from one part to the next changes what is hashed. The
stream that is hashed and its digest are two functions: that different lists
have different streams is a fact about the first, and holds whatever the hash. -/

namespace Transcript

/-- The longest part whose length is written exactly. -/
def maxPart : Nat := 0xffffffff

/-- One part after its length in four bytes. -/
def part (bytes : Bytes) : Bytes := Bytes.ofNatBE 4 (min bytes.length maxPart) ++ bytes

def stream (parts : List Bytes) : Bytes := parts.flatMap part

def digest (parts : List Bytes) : Bytes := sha256 (stream parts)

@[simp] theorem stream_nil : stream [] = [] := rfl

theorem stream_cons (bytes : Bytes) (parts : List Bytes) :
    stream (bytes :: parts) = part bytes ++ stream parts := rfl

end Transcript

namespace Psk

/-! ## One side

The key is a secret of sufficient length by its type, so no step of a handshake
has to ask for that again. -/

/-- What one side brings to a handshake. -/
structure Config where
  key : PreSharedKey
  name : String
  lifetime : Duration

namespace Config

/-- How long a context lives where nothing else is said: ten hours. -/
def defaultLifetime : Duration := .ofSeconds (10 * 60 * 60)

def of (key : Bytes) (name : String) : Except CryptoError Config := do
  return ⟨← PreSharedKey.ofBytes key, name, defaultLifetime⟩

/-- The side for diagnostics; the key is not shown. -/
def debug (c : Config) : String :=
  "PskConfig \x7b key: <" ++ toString c.key.bytes.length ++ " bytes>, name: " ++
  Text.quoted c.name ++ ", lifetime: " ++ c.lifetime.debug ++ " \x7d"

end Config

/-! ## What both sides agree on

Both sides compute the same digest from what one of them sent and the other
received. What is granted is a function of the request and of what the acceptor
allows, and a part of the transcript, so it cannot be changed on its way. -/

/-- The parts of a handshake's transcript: the hello as it was sent, the
acceptor's nonce, its name, and what it grants. -/
def transcriptParts (hello nonce : Bytes) (acceptor : String) (granted : Flags) : List Bytes :=
  [hello, nonce, Utf8.encode acceptor, Bytes.ofNatBE 4 granted.bits.toNat]

/-- The digest of a handshake. -/
def transcript (hello nonce : Bytes) (acceptor : String) (granted : Flags) : Bytes :=
  Transcript.digest (transcriptParts hello nonce acceptor granted)

/-- What every context of this mechanism can do. -/
def alwaysGranted : Flags := .of [.replay, .sequence, .integrity]

/-- What an established context can do besides. -/
def onceOpen : Flags := .of [.protReady, .transfer]

/-- What an initiator lets itself be granted. -/
def grantable (requested : Flags) : Flags :=
  requested ||| alwaysGranted ||| .of [.confidentiality]

/-- What an acceptor grants. Of what is requested only mutual authentication
matters; confidentiality is for the acceptor to allow. -/
def grants (requested : Flags) (confidentiality : Bool) : Flags :=
  let base := (requested &&& .of [.mutuality]) ||| alwaysGranted
  if confidentiality then base ||| .of [.confidentiality] else base

end Psk

end GssContext
