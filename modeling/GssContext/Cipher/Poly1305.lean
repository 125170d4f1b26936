/-
Poly1305: a one-time authenticator.

The message is cut into pieces of sixteen bytes, each read as a number with a
one bit above its last byte, and the pieces are the coefficients of a
polynomial that is evaluated at a secret point modulo `2^130 - 5`. A second
secret is added at the end, modulo `2^128`. Both secrets come from a key that
is used once.
-/
import GssContext.Bytes

set_option autoImplicit false

namespace GssContext.Poly1305

def tagSize : Nat := 16

/-- The prime. -/
def modulus : Nat := (1 <<< 130) - 5

/-- The bits that a point may have. -/
def pointMask : Nat := 0x0ffffffc0ffffffc0ffffffc0fffffff

def coefficient (piece : Bytes) : Nat := Bytes.toNatLE (piece ++ [1])

def evaluate (point : Nat) (message : Bytes) : Nat :=
  (Bytes.pieces 16 message).foldl (fun acc piece => (acc + coefficient piece) * point % modulus) 0

/-- The tag of a message under a key of thirty-two bytes. -/
def tag (key message : Bytes) : Bytes :=
  let point := Bytes.toNatLE (key.take 16) &&& pointMask
  Bytes.ofNatLE tagSize (evaluate point message + Bytes.toNatLE (key.drop 16))

@[simp] theorem length_tag (key message : Bytes) : (tag key message).length = tagSize := by
  simp [tag]

end GssContext.Poly1305
