/-
The ChaCha20 block function.

The state is a square of sixteen words, kept as four rows: the constants, the
two halves of the key, and the tail that says which block of which stream is
wanted. A quarter round acts on the four columns at once, as an operation on
rows; turning row `i` by `i` places makes the diagonals into columns, so a
double round is one column round, a turn, another column round, and the turn
back.

Three uses share the block. A keystream block adds the input back in after
ten double rounds; a subkey does not, and keeps the first and the last row;
and the tail is laid out for a 32-bit counter before a 96-bit nonce or for a
64-bit counter before a 64-bit stream number.
-/
import GssContext.Bytes

set_option autoImplicit false

namespace GssContext.ChaCha20

def keySize : Nat := 32

def blockSize : Nat := 64

/-! ## Rows

The square of sixteen words is kept by rows, since a round works on all four
columns alike and a diagonal is a column once the rows are turned. -/

/-- Four words. -/
structure Row where
  w0 : UInt32
  w1 : UInt32
  w2 : UInt32
  w3 : UInt32
  deriving DecidableEq

namespace Row

def add (x y : Row) : Row := ⟨x.w0 + y.w0, x.w1 + y.w1, x.w2 + y.w2, x.w3 + y.w3⟩

def xor (x y : Row) : Row := ⟨x.w0 ^^^ y.w0, x.w1 ^^^ y.w1, x.w2 ^^^ y.w2, x.w3 ^^^ y.w3⟩

def rotateWord (n x : UInt32) : UInt32 := (x <<< n) ||| (x >>> (32 - n))

def rotateWords (n : UInt32) (x : Row) : Row :=
  ⟨rotateWord n x.w0, rotateWord n x.w1, rotateWord n x.w2, rotateWord n x.w3⟩

def turn (x : Row) : Row := ⟨x.w1, x.w2, x.w3, x.w0⟩

/-- Four words read from sixteen bytes, each with its lowest byte first. -/
def ofBytes (bytes : Bytes) : Row :=
  let word (i : Nat) := UInt32.ofNat (Bytes.toNatLE ((bytes.drop (4 * i)).take 4))
  ⟨word 0, word 1, word 2, word 3⟩

def toBytes (x : Row) : Bytes :=
  [x.w0, x.w1, x.w2, x.w3].flatMap fun w => Bytes.ofNatLE 4 w.toNat

@[simp] theorem length_toBytes (x : Row) : x.toBytes.length = 16 := by simp [toBytes]

end Row

/-! ## The state

Ten double rounds scramble the square. Whether the square that they began with is
added afterwards depends on the use. -/

/-- The square, row by row. -/
structure State where
  constants : Row
  low : Row
  high : Row
  tail : Row
  deriving DecidableEq

namespace State

/-- The words of "expand 32-byte k". -/
def expand32 : Row := ⟨0x61707865, 0x3320646e, 0x79622d32, 0x6b206574⟩

def initial (key : Bytes) (tail : Row) : State :=
  ⟨expand32, Row.ofBytes key, Row.ofBytes (key.drop 16), tail⟩

def columnRound (s : State) : State :=
  let a := s.constants.add s.low
  let d := (s.tail.xor a).rotateWords 16
  let c := s.high.add d
  let b := (s.low.xor c).rotateWords 12
  let a := a.add b
  let d := (d.xor a).rotateWords 8
  let c := c.add d
  let b := (b.xor c).rotateWords 7
  ⟨a, b, c, d⟩

/-- Turn the rows so that the diagonals become columns. -/
def diagonalise (s : State) : State :=
  ⟨s.constants, s.low.turn, s.high.turn.turn, s.tail.turn.turn.turn⟩

def undiagonalise (s : State) : State :=
  ⟨s.constants, s.low.turn.turn.turn, s.high.turn.turn, s.tail.turn⟩

/-- A round on the columns and one on the diagonals. -/
def doubleRound (s : State) : State := s.columnRound.diagonalise.columnRound.undiagonalise

def doubleRounds : (count : Nat) → State → State
  | 0, s => s
  | count + 1, s => doubleRounds count s.doubleRound

/-- The twenty rounds. -/
def scramble (s : State) : State := doubleRounds 10 s

def add (s t : State) : State :=
  ⟨s.constants.add t.constants, s.low.add t.low, s.high.add t.high, s.tail.add t.tail⟩

def toBytes (s : State) : Bytes :=
  s.constants.toBytes ++ s.low.toBytes ++ s.high.toBytes ++ s.tail.toBytes

@[simp] theorem length_toBytes (s : State) : s.toBytes.length = blockSize := by
  simp [toBytes, blockSize]

end State

/-! ## Uses

The same rounds make a keystream for messages, a key from a long nonce, and a
stream of simulated random words. They differ in what stands in the last row. -/

def block (key : Bytes) (tail : Row) : Bytes :=
  let s := State.initial key tail
  (s.scramble.add s).toBytes

@[simp] theorem length_block (key : Bytes) (tail : Row) : (block key tail).length = blockSize := by
  simp [block]

/-- The key that a key and sixteen bytes of nonce determine. -/
def subkey (key nonce : Bytes) : Bytes :=
  let s := (State.initial key (Row.ofBytes nonce)).scramble
  s.constants.toBytes ++ s.tail.toBytes

/-- The tail for a 32-bit counter and twelve bytes of nonce. -/
def messageTail (nonce : Bytes) (counter : Nat) : Row :=
  Row.ofBytes (Bytes.ofNatLE 4 counter ++ nonce)

/-- The tail for a 64-bit counter in stream number zero. -/
def streamTail (counter : Nat) : Row := Row.ofBytes (Bytes.ofNatLE 8 counter ++ Bytes.ofNatLE 8 0)

/-- The blocks `counter`, `counter + 1`, … that cover `length` bytes of a message. -/
def keystream (key nonce : Bytes) (counter length : Nat) : Bytes :=
  (List.range ((length + blockSize - 1) / blockSize)).flatMap fun i =>
    block key (messageTail nonce (counter + i))

theorem le_length_keystream (key nonce : Bytes) (counter length : Nat) :
    length ≤ (keystream key nonce counter length).length := by
  have blocks (xs : List Nat) :
      (xs.flatMap fun i => block key (messageTail nonce (counter + i))).length =
        blockSize * xs.length := by
    induction xs with
    | nil => simp
    | cons x xs ih => simp [ih, Nat.mul_add, Nat.add_comm]
  rw [keystream, blocks, List.length_range]
  simp [blockSize]; omega

end GssContext.ChaCha20
