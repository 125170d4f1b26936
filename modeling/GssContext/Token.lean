/-
Tokens, and carrying them between two sides.

A token is a byte string that one side's mechanism makes and the other side's
mechanism reads; everybody between them carries it as it is. One without bytes
stands for having nothing to send. Tokens can hold proofs and messages, so
diagnostics show their length only.

A transport sends one token or receives one; a channel is a transport that can
be closed. Whoever talks through them sees no more than this, so an in-memory
queue and a framed connection serve alike.
-/
import GssContext.Bytes
import GssContext.IoError

set_option autoImplicit false

namespace GssContext

/-- A byte string that only the mechanism looks into. -/
abbrev Token := Bytes

namespace Token

/-- Nothing to send. -/
def empty : Token := []

/-- The bytes from `start` up to `stop`; both are clamped to what there is. -/
def part (token : Token) (start stop : Nat) : Token := (token.take (max stop start)).drop start

def debug (token : Token) : String := s!"Token(<{token.length} bytes>)"

end Token

/-! ## Carrying tokens

The errors of carrying are those of the stream below and two of its own: a token
that is too long, and one that would say nothing. -/

/-- Why a token was not carried. -/
inductive TransportError where
  | io (error : IoError)
  | oversized (declared bound : Nat)
  | emptyToken
  deriving DecidableEq

namespace TransportError

def message : TransportError → String
  | io error => "token I/O failed: " ++ error.message
  | oversized declared bound => s!"token of {declared} bytes exceeds limit of {bound} bytes"
  | emptyToken => "refusing to send an empty token"

/-- Did the other side end the stream before a whole token came? -/
def isEof : TransportError → Bool
  | io error => error.kind == .unexpectedEof
  | _ => false

end TransportError

/-- A way to send and to receive tokens. -/
structure Transport (m : Type → Type) where
  send : Bytes → m (Except TransportError Unit)
  receive : m (Except TransportError Bytes)

/-- A transport that can be closed. -/
structure Channel (m : Type → Type) extends Transport m where
  close : m (Except IoError Unit)

def Channel.hoist {m n : Type → Type} (lift : {α : Type} → m α → n α) (channel : Channel m) :
    Channel n where
  send token := lift (channel.send token)
  receive := lift channel.receive
  close := lift channel.close

end GssContext
