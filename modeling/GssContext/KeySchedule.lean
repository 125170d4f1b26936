/-
The keys that follow from a pre-shared key.

The two sides share one secret. Two sets of keys come from it, at two moments:
once both nonces are known, the keys under which each side proves that it
holds the secret; once the handshake's transcript is fixed, the keys under
which messages are protected, separate for each direction and for each use.
All of them are derived with HKDF over HMAC-SHA256.

A key shorter than the least size cannot be built, so no derivation can fail:
the check is made once, where the secret enters.
-/
import GssContext.Hash.Hmac

set_option autoImplicit false

namespace GssContext

/-! ## Failures

Two of the causes say that the other side failed to prove something: a tag did
not match. The caller answers those with a different status than the rest,
which are about this side's own material. -/

inductive CryptoError where
  | weakKey (length least : Nat)
  /-- A message is too long to be sealed. -/
  | encryption
  | decryption
  | macMismatch
  deriving DecidableEq

namespace CryptoError

def message : CryptoError → String
  | weakKey length least => s!"pre-shared key of {length} bytes is shorter than {least} bytes"
  | encryption => "encryption failed"
  | decryption => "decryption failed: authentication tag mismatch"
  | macMismatch => "MAC mismatch"

/-- Did the other side fail to authenticate something? -/
def isAuthenticationFailure : CryptoError → Bool
  | decryption | macMismatch => true
  | weakKey .. | encryption => false

end CryptoError

/-! ## Keys from a secret

Extraction condenses a secret and a salt into one pseudo-random key; expansion
stretches that key into as many bytes as are asked for, a different string for
each label. Keys here have the size of one digest, so expansion is a single
block whose counter byte is one. -/

namespace Hkdf

/-- The pseudo-random key of a secret under a salt. -/
def extract (salt secret : Bytes) : Bytes := Hmac.code salt secret

/-- One key's worth of bytes for a label. -/
def expandKey (pseudoRandomKey label : Bytes) : Bytes := Hmac.code pseudoRandomKey (label ++ [1])

end Hkdf

/-! ## The secret

What is too short is no secret: the only way to make one checks its length, and
its type carries the proof. That is why no derivation below can fail. -/

/-- Bytes that a pre-shared key has at least. -/
def PreSharedKey.leastSize : Nat := 16

/-- A secret that both sides hold, long enough to be used. -/
structure PreSharedKey where
  bytes : Bytes
  strong : PreSharedKey.leastSize ≤ bytes.length

/-- Take a byte string as a secret. -/
def PreSharedKey.ofBytes (bytes : Bytes) : Except CryptoError PreSharedKey :=
  if strong : leastSize ≤ bytes.length then .ok ⟨bytes, strong⟩
  else .error (.weakKey bytes.length leastSize)

namespace KeySchedule

def keySize : Nat := Hmac.size

/-- What precedes the purpose in every label. -/
def labelHead : String := "tokenseal psk v1 "

/-- The key for one purpose. -/
def keyFor (pseudoRandomKey : Bytes) (purpose : String) : Bytes :=
  Hkdf.expandKey pseudoRandomKey (Bytes.ofAscii (labelHead ++ purpose))

end KeySchedule

open KeySchedule

/-! ## Proofs of possession

The salt is the initiator's nonce and then the acceptor's, in that order on both
sides. The two labels differ, so a proof of one side cannot be sent back to it as
the other side's. -/

/-- The keys under which the two sides prove that they hold the secret. -/
structure HandshakeKeys where
  initiator : Bytes
  acceptor : Bytes
  deriving DecidableEq

/-- The proof keys of a secret and both sides' nonces. -/
def PreSharedKey.handshakeKeys (key : PreSharedKey) (initiatorNonce acceptorNonce : Bytes) :
    HandshakeKeys :=
  let root := Hkdf.extract (initiatorNonce ++ acceptorNonce) key.bytes
  ⟨keyFor root "initiator proof", keyFor root "acceptor proof"⟩

/-- Keys are not shown. -/
def HandshakeKeys.debug (_ : HandshakeKeys) : String := "HandshakeKeys(<redacted>)"

/-! ## Messages

Four keys, named by the side that sends under them. A side takes its own pair for
what it sends and the other pair for what comes in. -/

/-- The keys that protect messages, by the side that uses them to send. -/
structure SessionKeys where
  initiatorMac : Bytes
  acceptorMac : Bytes
  initiatorEnc : Bytes
  acceptorEnc : Bytes
  deriving DecidableEq

/-- The message keys of a secret and the digest of a handshake. -/
def PreSharedKey.sessionKeys (key : PreSharedKey) (transcript : Bytes) : SessionKeys :=
  let root := Hkdf.extract transcript key.bytes
  ⟨keyFor root "initiator mac", keyFor root "acceptor mac",
    keyFor root "initiator enc", keyFor root "acceptor enc"⟩

/-- Keys are not shown. -/
def SessionKeys.debug (_ : SessionKeys) : String := "SessionKeys(<redacted>)"

end GssContext
