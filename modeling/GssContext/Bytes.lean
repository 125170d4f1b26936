/-
Byte strings and fixed-width integers inside them.

Everything this library puts on a wire or feeds to a hash is a list of bytes.
A list and not a packed array: every parser below is a recursion on what is
left of the input, and every statement about it ("what was written, followed
by anything, reads back") is a statement about `++`.

Two readings of an integer are needed. Network order (big-endian) is used by
frames, headers and transcripts; the stream cipher works on little-endian
words. Each reading has one writer of a given width and one reader that takes
any width, and the pair is the identity on the integers that fit.
-/

set_option autoImplicit false

namespace GssContext

abbrev Bytes := List UInt8

namespace Bytes

/-! ## Network order -/

/-- The `width` low-order bytes of `n`, most significant first. -/
def ofNatBE : (width n : Nat) → Bytes
  | 0, _ => []
  | width + 1, n => ofNatBE width (n / 256) ++ [UInt8.ofNat n]

/-- The number a byte string denotes in network order. -/
def toNatBE (bytes : Bytes) : Nat :=
  bytes.foldl (fun acc b => acc * 256 + b.toNat) 0

@[simp] theorem length_ofNatBE (width n : Nat) : (ofNatBE width n).length = width := by
  induction width generalizing n with
  | zero => rfl
  | succ width ih => simp [ofNatBE, ih]

@[simp] theorem toNatBE_nil : toNatBE [] = 0 := rfl

theorem toNatBE_append_singleton (bytes : Bytes) (b : UInt8) :
    toNatBE (bytes ++ [b]) = toNatBE bytes * 256 + b.toNat := by
  simp [toNatBE]

/-- Writing `n` in `width` bytes keeps it up to the width's range. -/
theorem toNatBE_ofNatBE (width n : Nat) :
    toNatBE (ofNatBE width n) = n % Nat.pow 256 width := by
  induction width generalizing n with
  | zero => simp [ofNatBE, Nat.mod_one]
  | succ width ih =>
    have byte : (UInt8.ofNat n).toNat = n % 256 := by simp
    have more : Nat.pow 256 (width + 1) = 256 * Nat.pow 256 width :=
      Nat.mul_comm (Nat.pow 256 width) 256
    rw [ofNatBE, toNatBE_append_singleton, ih, byte, more, Nat.mod_mul]
    omega

/-- Every byte string is the writing of the number that it denotes. -/
theorem ofNatBE_toNatBE (bytes : Bytes) : ofNatBE bytes.length (toNatBE bytes) = bytes := by
  induction hlength : bytes.length generalizing bytes with
  | zero => rw [List.length_eq_zero_iff.mp hlength, ofNatBE]
  | succ width ih =>
    -- the last byte is written last, so it is the last one that is taken off
    rcases List.eq_nil_or_concat bytes with rfl | ⟨front, last, rfl⟩
    · cases hlength
    · rw [List.concat_eq_append] at hlength ⊢
      have hfront : front.length = width := by
        rw [List.length_append, List.length_singleton] at hlength
        omega
      have hdiv : (toNatBE front * 256 + last.toNat) / 256 = toNatBE front := by
        have := last.toNat_lt
        omega
      have hlast : UInt8.ofNat (toNatBE front * 256 + last.toNat) = last := by
        rw [← UInt8.toNat_inj, UInt8.toNat_ofNat']
        have := last.toNat_lt
        omega
      rw [toNatBE_append_singleton, ofNatBE, hdiv, hlast, ih front hfront]

/-- A byte string denotes a number that fits its width. -/
theorem toNatBE_lt (bytes : Bytes) : toNatBE bytes < Nat.pow 256 bytes.length := by
  have hmod := toNatBE_ofNatBE bytes.length (toNatBE bytes)
  rw [ofNatBE_toNatBE] at hmod
  rw [hmod]
  exact Nat.mod_lt _ (Nat.pow_pos (by decide))

/-! ## Little-endian words -/

/-- The `width` low-order bytes of `n`, least significant first. -/
def ofNatLE : (width n : Nat) → Bytes
  | 0, _ => []
  | width + 1, n => UInt8.ofNat n :: ofNatLE width (n / 256)

/-- The number a byte string denotes with its least significant byte first. -/
def toNatLE : Bytes → Nat
  | [] => 0
  | b :: rest => b.toNat + 256 * toNatLE rest

@[simp] theorem length_ofNatLE (width n : Nat) : (ofNatLE width n).length = width := by
  induction width generalizing n with
  | zero => rfl
  | succ width ih => simp [ofNatLE, ih]

/-! ## Cutting -/

/-- Cut a byte string into pieces of `size` bytes; the last one may be shorter.
A size of zero is read as one, so that every piece makes progress. -/
def pieces (size : Nat) (bytes : Bytes) : List Bytes :=
  match bytes with
  | [] => []
  | b :: rest => (b :: rest.take (size - 1)) :: pieces size (rest.drop (size - 1))
termination_by bytes.length
decreasing_by simp only [List.length_cons, List.length_drop]; omega

/-- Zero bytes that fill `length` up to a multiple of sixteen. -/
def padding16 (length : Nat) : Bytes := List.replicate ((16 - length % 16) % 16) 0

/-- The bytes of `a` and `b` combined one by one; the longer tail is dropped. -/
def xor (a b : Bytes) : Bytes := List.zipWith (· ^^^ ·) a b

/-- Masking twice with the same long enough mask is the identity. -/
theorem xor_xor_cancel (bytes mask : Bytes) (h : bytes.length ≤ mask.length) :
    xor (xor bytes mask) mask = bytes := by
  induction bytes generalizing mask with
  | nil => simp [xor]
  | cons b bytes ih =>
    cases mask with
    | nil => simp at h
    | cons c mask =>
      have := ih mask (by simpa using h)
      simp only [xor, List.zipWith_cons_cons] at this ⊢
      rw [this, UInt8.xor_assoc, UInt8.xor_self, UInt8.xor_zero]

@[simp] theorem length_xor (a b : Bytes) : (xor a b).length = min a.length b.length := by
  simp [xor]

/-! ## Text that is plain ASCII -/

/-- The bytes of a text whose characters are all ASCII, such as a label. -/
def ofAscii (text : String) : Bytes := text.toList.map fun c => UInt8.ofNat c.toNat

end Bytes

end GssContext
