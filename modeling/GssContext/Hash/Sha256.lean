/-
SHA-256.

The message is padded to whole blocks of sixty-four bytes, and each block is
folded into a chaining state of eight words. A block first becomes sixty-four
words: the sixteen it consists of, then each further word from four of the
sixteen before it, so a window of sixteen words that slides by one is all the
schedule has to remember. Nothing downstream looks inside the function; what
is used of it is that a digest has thirty-two bytes.
-/
import GssContext.Bytes

set_option autoImplicit false

namespace GssContext.Sha256

def digestSize : Nat := 32

def blockSize : Nat := 64

/-! ## Words

The mixing functions on words of thirty-two bits, and the constants. -/

def rotateRight (x : UInt32) (n : UInt32) : UInt32 := (x >>> n) ||| (x <<< (32 - n))

def sigma0 (x : UInt32) : UInt32 := rotateRight x 7 ^^^ rotateRight x 18 ^^^ (x >>> 3)

def sigma1 (x : UInt32) : UInt32 := rotateRight x 17 ^^^ rotateRight x 19 ^^^ (x >>> 10)

def sum0 (x : UInt32) : UInt32 := rotateRight x 2 ^^^ rotateRight x 13 ^^^ rotateRight x 22

def sum1 (x : UInt32) : UInt32 := rotateRight x 6 ^^^ rotateRight x 11 ^^^ rotateRight x 25

/-- Take each bit from `y` or from `z` as the bit of `x` says. -/
def choose (x y z : UInt32) : UInt32 := (x &&& y) ^^^ (~~~x &&& z)

/-- The bit most of the three words have. -/
def majority (x y z : UInt32) : UInt32 := (x &&& y) ^^^ (x &&& z) ^^^ (y &&& z)

/-- The first thirty-two bits of the fractional parts of the cube roots of the
first sixty-four primes. -/
def roundConstants : List UInt32 := [
  0x428a2f98, 0x71374491, 0xb5c0fbcf, 0xe9b5dba5, 0x3956c25b, 0x59f111f1, 0x923f82a4, 0xab1c5ed5,
  0xd807aa98, 0x12835b01, 0x243185be, 0x550c7dc3, 0x72be5d74, 0x80deb1fe, 0x9bdc06a7, 0xc19bf174,
  0xe49b69c1, 0xefbe4786, 0x0fc19dc6, 0x240ca1cc, 0x2de92c6f, 0x4a7484aa, 0x5cb0a9dc, 0x76f988da,
  0x983e5152, 0xa831c66d, 0xb00327c8, 0xbf597fc7, 0xc6e00bf3, 0xd5a79147, 0x06ca6351, 0x14292967,
  0x27b70a85, 0x2e1b2138, 0x4d2c6dfc, 0x53380d13, 0x650a7354, 0x766a0abb, 0x81c2c92e, 0x92722c85,
  0xa2bfe8a1, 0xa81a664b, 0xc24b8b70, 0xc76c51a3, 0xd192e819, 0xd6990624, 0xf40e3585, 0x106aa070,
  0x19a4c116, 0x1e376c08, 0x2748774c, 0x34b0bcb5, 0x391c0cb3, 0x4ed8aa4a, 0x5b9cca4f, 0x682e6ff3,
  0x748f82ee, 0x78a5636f, 0x84c87814, 0x8cc70208, 0x90befffa, 0xa4506ceb, 0xbef9a3f7, 0xc67178f2]

/-! ## The chaining state

A digest is a state that was folded over the blocks of a message, written out. -/

/-- Eight working words. -/
structure State where
  a : UInt32
  b : UInt32
  c : UInt32
  d : UInt32
  e : UInt32
  f : UInt32
  g : UInt32
  h : UInt32
  deriving DecidableEq

namespace State

/-- The first thirty-two bits of the fractional parts of the square roots of
the first eight primes. -/
def initial : State :=
  ⟨0x6a09e667, 0xbb67ae85, 0x3c6ef372, 0xa54ff53a, 0x510e527f, 0x9b05688c, 0x1f83d9ab, 0x5be0cd19⟩

/-- One round with a schedule word and its constant. -/
def round (s : State) (word constant : UInt32) : State :=
  let t := s.h + sum1 s.e + choose s.e s.f s.g + constant + word
  ⟨t + sum0 s.a + majority s.a s.b s.c, s.a, s.b, s.c, s.d + t, s.e, s.f, s.g⟩

def add (s t : State) : State :=
  ⟨s.a + t.a, s.b + t.b, s.c + t.c, s.d + t.d, s.e + t.e, s.f + t.f, s.g + t.g, s.h + t.h⟩

def toBytes (s : State) : Bytes :=
  [s.a, s.b, s.c, s.d, s.e, s.f, s.g, s.h].flatMap fun w => Bytes.ofNatBE 4 w.toNat

@[simp] theorem length_toBytes (s : State) : s.toBytes.length = digestSize := by
  simp [toBytes, digestSize]

end State

/-! ## Blocks

A message is padded to whole blocks with a one, zeros, and its length in bits. The
length stands in eight bytes, which bounds what can be hashed in principle. -/

def wordsOf (block : Bytes) : List UInt32 :=
  (Bytes.pieces 4 block).map fun w => UInt32.ofNat (Bytes.toNatBE w)

/-- The next `count` schedule words, the first sixteen of which are the window. -/
def schedule : (count : Nat) → (window : List UInt32) → List UInt32
  | 0, _ => []
  | _, [] => []
  | count + 1, w :: rest =>
    let next := w + sigma0 (rest.getD 0 0) + rest.getD 8 0 + sigma1 (rest.getD 13 0)
    w :: schedule count (rest ++ [next])

/-- Fold one block into the state. -/
def compress (s : State) (block : Bytes) : State :=
  s.add ((List.zip (schedule 64 (wordsOf block)) roundConstants).foldl
    (fun s (word, constant) => s.round word constant) s)

/-- A closing one bit, zeros up to eight bytes before a block's end, and the
length of the message in bits. -/
def padding (length : Nat) : Bytes :=
  0x80 :: List.replicate ((119 - length % 64) % 64) 0 ++ Bytes.ofNatBE 8 (8 * length)

end Sha256

def sha256 (message : Bytes) : Bytes :=
  ((Bytes.pieces Sha256.blockSize (message ++ Sha256.padding message.length)).foldl
    Sha256.compress .initial).toBytes

@[simp] theorem length_sha256 (message : Bytes) : (sha256 message).length = Sha256.digestSize := by
  simp [sha256]

end GssContext
