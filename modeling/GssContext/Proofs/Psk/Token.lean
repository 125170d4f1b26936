/-
The tokens of an established context, as byte strings.

`Psk.Session` makes and takes tokens step by step. Here each of the three
kinds is one function of what determines it: the key, the direction, the
number, the message, and for a sealed one the nonce. Sending is then "the
token of the next number", and receiving a token of this form is decided by
the number alone: the header reads back, the code verifies, so only freshness
is left to ask.
-/
import GssContext.Psk.Session
import Mathlib.Algebra.Group.Nat.Defs

set_option autoImplicit false

namespace GssContext.Psk.Session

/-! ## The three kinds of token

All three begin with a header and end with something that authenticates it, and differ
in what is in between. They are functions of keys and a number, not of a session, since
the same bytes are looked at from two sides: by the session that makes them, and by one
that takes them and has these keys under other names. -/

/-- A message in the open, with its code. -/
def wrapToken (key : Bytes) (direction : Direction) (seq : UInt64) (message : Bytes) : Bytes :=
  let head := (MessageHeader.of .wrap direction seq).toBytes
  head ++ message ++ Hmac.ofParts key [head, message]

/-- A code over a message that the other side has. -/
def micToken (key : Bytes) (direction : Direction) (seq : UInt64) (message : Bytes) : Bytes :=
  let head := (MessageHeader.of .mic direction seq).toBytes
  head ++ Hmac.ofParts key [head, message]

/-- A sealed message; one that is too long has none. -/
def sealedToken? (key : Bytes) (direction : Direction) (seq : UInt64) (nonce message : Bytes) :
    Option Bytes :=
  let head := (MessageHeader.of .sealed direction seq).toBytes
  (Sealed.seal? key nonce head message).map fun text => head ++ nonce ++ text

/-- A message that is not too long can be sealed. -/
theorem sealedToken?_isSome (key : Bytes) (direction : Direction) (seq : UInt64)
    (nonce message : Bytes) (hfits : message.length ≤ Sealed.maxLength) :
    (sealedToken? key direction seq nonce message).isSome := by
  simp only [sealedToken?, Option.isSome_map, Sealed.seal?, if_pos hfits, Option.isSome_some]

/-! ## Sending

Each operation that makes a token asks for a number first. So its result is a case
distinction on whether there is one, and in the good case the token of that number. The
equations have the same shape for all three, for the sake of those who argue about all
of them at once. -/

/-- The session once a number is used up. -/
def advanced (s : Session) : Session := { s with sendSeq := s.sendSeq + 1 }

/-- A number is left for the next token. -/
def HasNumber (s : Session) : Prop := s.sendSeq.toNat + 1 < 2 ^ 64

instance (s : Session) : Decidable s.HasNumber := inferInstanceAs (Decidable (_ < _))

theorem sendSeq_advanced (s : Session) (h : s.HasNumber) :
    s.advanced.sendSeq.toNat = s.sendSeq.toNat + 1 := by
  rw [advanced, UInt64.toNat_add]
  exact Nat.mod_eq_of_lt h

/-- The header of the next token names the kind, this side's direction, and the next
number. -/
theorem nextHeader_eq (s : Session) (kind : TokenKind) :
    s.nextHeader kind = if s.HasNumber then .ok (.of kind s.outbound s.sendSeq, s.advanced)
      else .error .numbersUsedUp := rfl

/-- A message in the open needs a number and nothing else. -/
theorem wrapOpen_eq (s : Session) (message : Bytes) :
    s.wrapOpen message =
      if s.HasNumber then
        .ok (⟨wrapToken s.sendMac s.outbound s.sendSeq message, false⟩, s.advanced)
      else .error .numbersUsedUp := by
  rw [wrapOpen, nextHeader_eq]
  split <;> rfl

/-- A sealed message needs a number and has to fit. Where it does not the number is used
up nevertheless. -/
theorem wrapSealed_eq (s : Session) (nonce message : Bytes) :
    s.wrapSealed nonce message =
      if s.HasNumber then
        match sealedToken? s.sendEnc s.outbound s.sendSeq nonce message with
        | some token => (.ok ⟨token, true⟩, s.advanced)
        | none => (.error .tooLong, s.advanced)
      else (.error .numbersUsedUp, s) := by
  rw [wrapSealed, nextHeader_eq]
  by_cases hnumber : s.HasNumber
  · rw [if_pos hnumber, if_pos hnumber]
    simp only [sealedToken?]
    cases Sealed.seal? s.sendEnc nonce (MessageHeader.of .sealed s.outbound s.sendSeq).toBytes
      message <;> rfl
  · rw [if_neg hnumber, if_neg hnumber]

/-- A code needs a number, as a message in the open does; the time is asked here since
the session's own function asks it too. -/
theorem getMic_eq (s : Session) (now : Instant) (message : Bytes)
    (hlive : s.checkExpiry now = .ok ()) :
    s.getMic now message =
      if s.HasNumber then .ok (micToken s.sendMac s.outbound s.sendSeq message, s.advanced)
      else .error .numbersUsedUp := by
  rw [getMic, hlive, nextHeader_eq]
  split <;> rfl

/-! ## Receiving

A token of the other side, written with the keys of the one that takes it, passes every
check but one. The header reads back and names the other direction, the code or the seal
verifies, and so the result depends on freshness alone. Each equation goes through the
checks in the order in which the session makes them. -/

@[simp] theorem kind?_of (kind : TokenKind) (direction : Direction) (seq : UInt64) :
    (MessageHeader.of kind direction seq).kind? = some kind :=
  TokenKind.ofByte?_eq_some_iff.mpr rfl

@[simp] theorem direction?_of (kind : TokenKind) (direction : Direction) (seq : UInt64) :
    (MessageHeader.of kind direction seq).direction? = some direction :=
  Direction.ofByte?_eq_some_iff.mpr rfl

/-- What starts with a header of the other side is opened, unless its number is
not fresh. -/
theorem openHeader_append (s : Session) (kind : TokenKind) (seq : UInt64) (body : Bytes) :
    s.openHeader ((MessageHeader.of kind s.inbound seq).toBytes ++ body) =
      if s.isFresh seq then .ok (.of kind s.inbound seq, body) else .error .replayed := by
  rw [openHeader, MessageHeader.split?_toBytes_append]
  simp only [direction?_of, ne_eq, not_true_eq_false, if_false]
  rfl

/-- The code at the end of a body is told from the message before it. -/
theorem verifyBody_append (s : Session) (head message : Bytes) :
    s.verifyBody head (message ++ Hmac.ofParts s.receiveMac [head, message]) = .ok message := by
  have hlong : ¬ (message ++ Hmac.ofParts s.receiveMac [head, message]).length < Hmac.size := by
    rw [List.length_append, Hmac.length_ofParts]
    omega
  have hcut : (message ++ Hmac.ofParts s.receiveMac [head, message]).length - Hmac.size =
      message.length := by
    rw [List.length_append, Hmac.length_ofParts]
    omega
  rw [verifyBody, if_neg hlong, hcut]
  simp only [List.take_left', List.drop_left']
  rw [if_pos (Hmac.verifies_iff.mpr rfl)]

/-- A sealed body opens to the message that was sealed. -/
theorem unsealBody_append (s : Session) (head nonce message text : Bytes)
    (hnonce : nonce.length = Sealed.nonceSize)
    (hseal : Sealed.seal? s.receiveEnc nonce head message = some text) :
    s.unsealBody head (nonce ++ text) = .ok message := by
  have hlong : ¬ (nonce ++ text).length < Sealed.nonceSize := by
    rw [List.length_append, hnonce]
    omega
  rw [unsealBody, if_neg hlong, List.take_left' hnonce, List.drop_left' hnonce,
    Sealed.open?_seal? hseal]

/-- A token in the open gives its message, if its number is fresh, and then that number
is the last one accepted. -/
theorem unwrap_wrapToken (s : Session) (now : Instant) (seq : UInt64) (message : Bytes)
    (hlive : s.checkExpiry now = .ok ()) :
    s.unwrap now (wrapToken s.receiveMac s.inbound seq message) =
      if s.isFresh seq then .ok (⟨message, false⟩, s.accepted seq) else .error .replayed := by
  rw [unwrap, hlive, wrapToken, List.append_assoc, openHeader_append]
  by_cases hfresh : s.isFresh seq = true
  · rw [if_pos hfresh, if_pos hfresh]
    simp only [bind, Except.bind, kind?_of, verifyBody_append]
    rfl
  · rw [if_neg hfresh, if_neg hfresh]
    rfl

/-- The same for a sealed one. The nonce has to have its size, since it is told from the
ciphertext by that. -/
theorem unwrap_sealedToken (s : Session) (now : Instant) (seq : UInt64)
    (nonce message token : Bytes) (hlive : s.checkExpiry now = .ok ())
    (hnonce : nonce.length = Sealed.nonceSize)
    (htoken : sealedToken? s.receiveEnc s.inbound seq nonce message = some token) :
    s.unwrap now token =
      if s.isFresh seq then .ok (⟨message, true⟩, s.accepted seq) else .error .replayed := by
  obtain ⟨text, hseal, rfl⟩ := Option.map_eq_some_iff.mp htoken
  rw [unwrap, hlive, List.append_assoc, openHeader_append]
  by_cases hfresh : s.isFresh seq = true
  · rw [if_pos hfresh, if_pos hfresh]
    simp only [bind, Except.bind, kind?_of, unsealBody_append s _ _ _ _ hnonce hseal]
    rfl
  · rw [if_neg hfresh, if_neg hfresh]
    rfl

/-- The same for a code over its own message. -/
theorem verifyMic_micToken (s : Session) (now : Instant) (seq : UInt64) (message : Bytes)
    (hlive : s.checkExpiry now = .ok ()) :
    s.verifyMic now message (micToken s.receiveMac s.inbound seq message) =
      if s.isFresh seq then .ok (s.accepted seq) else .error .replayed := by
  rw [verifyMic, hlive, micToken, openHeader_append]
  by_cases hfresh : s.isFresh seq = true
  · rw [if_pos hfresh, if_pos hfresh]
    simp [bind, Except.bind]
    rfl
  · rw [if_neg hfresh, if_neg hfresh]
    rfl

/-! ## Two sides of one conversation

Sessions come from one handshake in pairs, and every statement about a token on its way
is about such a pair. What it needs of them is only that the keys and the direction of
one are those that the other expects, in both directions. It does not matter where the
keys come from, nor how far the two counters are. -/

/-- Two sessions whose keys and directions fit each other: what one sends with the other
receives with, and the other way around. -/
structure Mirrors (s r : Session) : Prop where
  mac : s.sendMac = r.receiveMac
  enc : s.sendEnc = r.receiveEnc
  macBack : r.sendMac = s.receiveMac
  encBack : r.sendEnc = s.receiveEnc
  direction : s.outbound = r.inbound

theorem Mirrors.symm {s r : Session} (h : s.Mirrors r) : r.Mirrors s where
  mac := h.macBack
  enc := h.encBack
  macBack := h.mac
  encBack := h.enc
  direction := by rw [inbound, h.direction, inbound, Direction.opposite_opposite]

/-- The two sessions of one handshake fit each other. -/
theorem start_mirrors (keys : SessionKeys) (flags flags' : Flags)
    (expiresAt expiresAt' : Option Instant) :
    (start keys true flags expiresAt).Mirrors (start keys false flags' expiresAt') :=
  ⟨rfl, rfl, rfl, rfl, rfl⟩

end GssContext.Psk.Session
