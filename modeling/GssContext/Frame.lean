/-
Tokens in a byte stream.

A stream has no marks between tokens, so each is preceded by its length in
four bytes, network order. A receiver bounds the length before it makes room
for the token: one that is declared too long is refused with only its four
bytes consumed. A token without bytes is never sent, since its frame would
say nothing.

A stream reads and writes as many bytes as it likes at a time; an interrupted
attempt is repeated below this interface. What a frame is does not depend on
how the stream cut it.
-/
import GssContext.Token

set_option autoImplicit false

namespace GssContext

/-! ## Streams

An attempt to read or to write may move fewer bytes than it was asked for, so both
are repeated until nothing is left to do. Every round moves at least one byte, or
ends: a read of nothing is the end of the input, and a write of nothing an error.
Each recursion is on the bytes that are left. -/

/-- A stream of bytes in both directions. -/
structure Stream (m : Type → Type) where
  /-- Some bytes, at most as many as asked for; none where the input ends. -/
  read : Nat → m (Except IoError Bytes)
  /-- Write some of the bytes, and say how many. -/
  write : Bytes → m (Except IoError Nat)
  /-- Pass on what was written. -/
  flush : m (Except IoError Unit)

namespace Stream

variable {m : Type → Type} [Monad m]

/-- Exactly `count` bytes. Where the input ends first, what there was is lost. -/
def readExact (stream : Stream m) (count : Nat) : m (Except IoError Bytes) :=
  if count = 0 then pure (.ok [])
  else do
    match ← stream.read count with
    | .error e => return .error e
    | .ok [] => return .error .endOfInput
    | .ok (b :: more) =>
      let got := b :: more.take (count - 1)
      match ← readExact stream (count - (b :: more.take (count - 1)).length) with
      | .error e => return .error e
      | .ok rest => return .ok (got ++ rest)
termination_by count
decreasing_by simp only [List.length_cons]; omega

def writeAll (stream : Stream m) (bytes : Bytes) : m (Except IoError Unit) :=
  match bytes with
  | [] => pure (.ok ())
  | b :: more => do
    match ← stream.write (b :: more) with
    | .error e => return .error e
    | .ok 0 => return .error .outputFull
    | .ok (n + 1) => writeAll stream (more.drop n)
termination_by bytes.length
decreasing_by simp only [List.length_cons, List.length_drop]; omega

end Stream

/-! ## Frames

Sending writes the length, then the token, and flushes once at the end; nothing is
written for a token without a frame. Receiving decides about the length before it
asks for the token. -/

namespace Frame

/-- Bytes in front of a token. -/
def lengthSize : Nat := 4

/-- The longest token whose length can be written. -/
def maxSendable : Nat := 0xffffffff

/-- The bound on received tokens where none is given, sixteen mebibytes: room
for wrapped files, and no more than that for a peer that only declares. -/
def defaultBound : Nat := 16 * 1024 * 1024

/-- A token after its length. -/
def encode (token : Bytes) : Bytes := Bytes.ofNatBE lengthSize token.length ++ token

@[simp] theorem length_encode (token : Bytes) :
    (encode token).length = lengthSize + token.length := by
  simp [encode, lengthSize]

variable {m : Type → Type} [Monad m]

def send (stream : Stream m) (token : Bytes) : m (Except TransportError Unit) := do
  if token = [] then return .error .emptyToken
  if maxSendable < token.length then return .error (.oversized token.length maxSendable)
  match ← stream.writeAll (Bytes.ofNatBE lengthSize token.length) with
  | .error e => return .error (.io e)
  | .ok () =>
    match ← stream.writeAll token with
    | .error e => return .error (.io e)
    | .ok () =>
      match ← stream.flush with
      | .error e => return .error (.io e)
      | .ok () => return .ok ()

/-- Read one frame of at most `bound` bytes. -/
def receive (stream : Stream m) (bound : Nat) : m (Except TransportError Bytes) := do
  match ← stream.readExact lengthSize with
  | .error e => return .error (.io e)
  | .ok length =>
    let declared := Bytes.toNatBE length
    if bound < declared then return .error (.oversized declared bound)
    match ← stream.readExact declared with
    | .error e => return .error (.io e)
    | .ok token => return .ok token

/-- Read frames until one fails, at most `count` of them. Each result is
followed by what `mark` says after it. -/
def receiveMany {α : Type} (stream : Stream m) (bound : Nat) (mark : m α) :
    (count : Nat) → m (List (Except TransportError Bytes × α))
  | 0 => pure []
  | count + 1 => do
    let result ← receive stream bound
    let place ← mark
    match result with
    | .error _ => return [(result, place)]
    | .ok _ =>
      let rest ← receiveMany stream bound mark count
      return (result, place) :: rest

def transport (stream : Stream m) (bound : Nat) : Transport m where
  send := send stream
  receive := receive stream bound

end Frame

end GssContext
