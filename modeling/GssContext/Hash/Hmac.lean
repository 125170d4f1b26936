/-
HMAC-SHA256: the code that authenticates a message under a shared key.

A key of any length is accepted; one longer than a block is hashed first. The
message is given as parts, and what is authenticated is their concatenation,
so callers that must keep parts apart have to give them fixed lengths or
write the lengths themselves.

A tag is accepted when it equals the code, all of it: a truncated tag differs
in length and is refused.
-/
import GssContext.Hash.Sha256

set_option autoImplicit false

namespace GssContext.Hmac

def size : Nat := Sha256.digestSize

/-- The key as one block: hashed if it is longer than that, then filled up
with zeros. -/
def blockKey (key : Bytes) : Bytes :=
  let key := if key.length ≤ Sha256.blockSize then key else sha256 key
  key ++ List.replicate (Sha256.blockSize - key.length) 0

def code (key message : Bytes) : Bytes :=
  let key := blockKey key
  let inner := sha256 (key.map (· ^^^ 0x36) ++ message)
  sha256 (key.map (· ^^^ 0x5c) ++ inner)

@[simp] theorem length_code (key message : Bytes) : (code key message).length = size := by
  simp [code, size]

/-- The code of parts, which is that of their concatenation. -/
def ofParts (key : Bytes) (parts : List Bytes) : Bytes := code key parts.flatten

@[simp] theorem length_ofParts (key : Bytes) (parts : List Bytes) :
    (ofParts key parts).length = size := by
  simp [ofParts]

def verifies (key : Bytes) (parts : List Bytes) (tag : Bytes) : Bool := tag == ofParts key parts

/-- The code verifies, and nothing else does. -/
@[simp] theorem verifies_iff {key : Bytes} {parts : List Bytes} {tag : Bytes} :
    verifies key parts tag = true ↔ tag = ofParts key parts := by
  simp [verifies]

end GssContext.Hmac
