/-
UTF-8.

Text travels as UTF-8 and a reader must refuse bytes that are not. Two
questions are asked of a byte string: which characters does it begin with, and
what is left where the first malformed or unfinished character stands. A text
that arrives in pieces may be cut inside a character, so the remainder is data
and not merely an error.

An encoding is accepted only in its shortest form and only for code points
that are characters; the surrogates are none.
-/
import GssContext.Bytes

set_option autoImplicit false

namespace GssContext.Utf8

/-! ## Writing

A character takes one byte to four, by the size of its number. -/

def encodeChar (c : Char) : Bytes :=
  let n := c.toNat
  if n < 0x80 then [UInt8.ofNat n]
  else if n < 0x800 then [UInt8.ofNat (0xc0 + n / 64), UInt8.ofNat (0x80 + n % 64)]
  else if n < 0x10000 then
    [UInt8.ofNat (0xe0 + n / 4096), UInt8.ofNat (0x80 + n / 64 % 64), UInt8.ofNat (0x80 + n % 64)]
  else
    [UInt8.ofNat (0xf0 + n / 262144), UInt8.ofNat (0x80 + n / 4096 % 64),
      UInt8.ofNat (0x80 + n / 64 % 64), UInt8.ofNat (0x80 + n % 64)]

def encode (text : String) : Bytes := text.toList.flatMap encodeChar

/-! ## Reading

A lead byte tells how many bytes follow. Refused are bytes that are not in their
place, numbers that are no characters, and forms that are longer than they need to
be; so each text has one encoding. -/

/-- The payload of a continuation byte. -/
def continuation? (b : UInt8) : Option Nat :=
  if b.toNat / 64 = 2 then some (b.toNat % 64) else none

/-- The character of a code point that is at least `least`. -/
def scalar? (least n : Nat) : Option Char :=
  if least ≤ n ∧ n.isValidChar then some (Char.ofNat n) else none

/-- The first character of a byte string and the bytes after it. -/
def next? : Bytes → Option (Char × Bytes)
  | [] => none
  | a :: rest =>
    let n := a.toNat
    if n < 0x80 then some (Char.ofNat n, rest)
    else if n < 0xc0 then none
    else if n < 0xe0 then
      match rest with
      | b :: rest => do
        let b ← continuation? b
        let c ← scalar? 0x80 ((n - 0xc0) * 64 + b)
        return (c, rest)
      | _ => none
    else if n < 0xf0 then
      match rest with
      | b :: c :: rest => do
        let b ← continuation? b
        let c ← continuation? c
        let c ← scalar? 0x800 (((n - 0xe0) * 64 + b) * 64 + c)
        return (c, rest)
      | _ => none
    else
      match rest with
      | b :: c :: d :: rest => do
        let b ← continuation? b
        let c ← continuation? c
        let d ← continuation? d
        let c ← scalar? 0x10000 ((((n - 0xf0) * 64 + b) * 64 + c) * 64 + d)
        return (c, rest)
      | _ => none

/-- A character takes at least one byte. -/
theorem length_lt_of_next? {bytes rest : Bytes} {c : Char} (h : next? bytes = some (c, rest)) :
    rest.length < bytes.length := by
  cases bytes with
  | nil => simp [next?] at h
  | cons a tail =>
    simp only [next?] at h
    split at h
    · simp at h; simp [h.2]
    split at h
    · simp at h
    split at h
    · split at h
      · simp [Option.bind_eq_some_iff] at h
        obtain ⟨_, _, _, _, _, rfl⟩ := h
        simp only [List.length_cons]; omega
      · simp at h
    split at h
    · split at h
      · simp [Option.bind_eq_some_iff] at h
        obtain ⟨_, _, _, _, _, _, _, rfl⟩ := h
        simp only [List.length_cons]; omega
      · simp at h
    · split at h
      · simp [Option.bind_eq_some_iff] at h
        obtain ⟨_, _, _, _, _, _, _, _, _, rfl⟩ := h
        simp only [List.length_cons]; omega
      · simp at h

/-- The longest run of whole characters at the start, and the bytes after it. -/
def split (bytes : Bytes) : List Char × Bytes :=
  match h : next? bytes with
  | none => ([], bytes)
  | some (c, rest) =>
    have := length_lt_of_next? h
    let (chars, left) := split rest
    (c :: chars, left)
termination_by bytes.length

/-- The text a byte string encodes, if it encodes one. -/
def decode? (bytes : Bytes) : Option String :=
  match split bytes with
  | (chars, []) => some (String.ofList chars)
  | _ => none

end GssContext.Utf8
