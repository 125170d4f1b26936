/-
XChaCha20-Poly1305: confidentiality and authenticity of one message under a
key and a nonce that is used once.

A nonce of twenty-four bytes is long enough to be drawn at random. Its first
sixteen bytes select a subkey, the last eight a stream under it; block zero of
the stream keys the authenticator and the message is masked from block one.
The tag covers the associated data and the ciphertext, each padded to sixteen
bytes, and both lengths, and it follows the ciphertext.

Opening checks the tag before it unmasks, so of two strings that differ only
one can be opened under a given key, nonce and associated data.
-/
import GssContext.Cipher.ChaCha20
import GssContext.Cipher.Poly1305

set_option autoImplicit false

namespace GssContext.Sealed

def nonceSize : Nat := 24

/-- Bytes by which a sealed message is longer than the message. -/
def tagSize : Nat := Poly1305.tagSize

/-- The longest message. The counter has `2^32` values, the first of which is
not for the message, and a message may not fill what is left. -/
def maxLength : Nat := 0xffffffff * ChaCha20.blockSize - 1

/-- The nonce of the stream under the subkey. -/
def streamNonce (nonce : Bytes) : Bytes := [0, 0, 0, 0] ++ nonce.drop 16

/-- The one-time key of the authenticator. -/
def tagKey (key nonce : Bytes) : Bytes :=
  (ChaCha20.block (ChaCha20.subkey key nonce) (ChaCha20.messageTail (streamNonce nonce) 0)).take 32

def mask (key nonce text : Bytes) : Bytes :=
  Bytes.xor text
    (ChaCha20.keystream (ChaCha20.subkey key nonce) (streamNonce nonce) 1 text.length)

@[simp] theorem length_mask (key nonce text : Bytes) :
    (mask key nonce text).length = text.length := by
  have := ChaCha20.le_length_keystream (ChaCha20.subkey key nonce) (streamNonce nonce) 1 text.length
  simp [mask]; omega

theorem mask_mask (key nonce text : Bytes) : mask key nonce (mask key nonce text) = text := by
  unfold mask
  rw [show (Bytes.xor text _).length = text.length from length_mask key nonce text]
  exact Bytes.xor_xor_cancel _ _ (ChaCha20.le_length_keystream ..)

/-- What the tag covers. -/
def authenticated (associated ciphertext : Bytes) : Bytes :=
  associated ++ Bytes.padding16 associated.length ++
  ciphertext ++ Bytes.padding16 ciphertext.length ++
  Bytes.ofNatLE 8 associated.length ++ Bytes.ofNatLE 8 ciphertext.length

def tag (key nonce associated ciphertext : Bytes) : Bytes :=
  Poly1305.tag (tagKey key nonce) (authenticated associated ciphertext)

@[simp] theorem length_tag (key nonce associated ciphertext : Bytes) :
    (tag key nonce associated ciphertext).length = tagSize := by
  simp [tag, tagSize]

/-- Seal a message; one that is too long for the keystream is refused. -/
def seal? (key nonce associated message : Bytes) : Option Bytes :=
  if message.length ≤ maxLength then
    let ciphertext := mask key nonce message
    some (ciphertext ++ tag key nonce associated ciphertext)
  else none

/-- Open what was sealed; a wrong tag, or a text too short to hold one, is
refused. -/
def open? (key nonce associated text : Bytes) : Option Bytes :=
  let length := text.length - tagSize
  let ciphertext := text.take length
  if text.length < tagSize ∨ maxLength < length ∨
      text.drop length ≠ tag key nonce associated ciphertext then none
  else some (mask key nonce ciphertext)

/-- Opening what was sealed gives the message back. -/
theorem open?_seal? {key nonce associated message text : Bytes}
    (h : seal? key nonce associated message = some text) :
    open? key nonce associated text = some message := by
  unfold seal? at h
  split at h
  · next fits =>
    cases h
    have cut : (mask key nonce message ++
        tag key nonce associated (mask key nonce message)).length - tagSize = message.length := by
      simp
    rw [open?, cut, List.take_left' (length_mask ..), List.drop_left' (length_mask ..)]
    simp [mask_mask]
    omega
  · simp at h

/-- Only what sealing produces can be opened. -/
theorem seal?_of_open? {key nonce associated message text : Bytes}
    (h : open? key nonce associated text = some message) :
    seal? key nonce associated message = some text := by
  simp only [open?] at h
  split at h
  · simp at h
  · next ok =>
    simp only [not_or, Nat.not_lt, ne_eq, Decidable.not_not] at ok
    obtain ⟨long, fits, tagged⟩ := ok
    cases h
    rw [seal?, if_pos (by simp; omega), mask_mask]
    simp only
    rw [← tagged, List.take_append_drop]

end GssContext.Sealed
