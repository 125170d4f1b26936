/-
What a mechanism takes from its surroundings: the time, and bytes that nobody
can predict.

Both are given as operations, so that a run can be repeated exactly: a
simulated environment has a clock that moves only when it is told to, and its
bytes come from a stream that a seed determines, or from a finite supply.
-/
import GssContext.Cipher.ChaCha20
import GssContext.Duration
import GssContext.Journal

set_option autoImplicit false

namespace GssContext

structure EntropyError where
  reason : String
  deriving DecidableEq

def EntropyError.message (e : EntropyError) : String := "entropy source failed: " ++ e.reason

/-- A clock and a source of random bytes. -/
structure Environment (m : Type → Type) where
  /-- The present moment; it never goes back. -/
  now : m Instant
  /-- As many fresh random bytes as asked for, or none of them. -/
  draw : Nat → m (Except EntropyError Bytes)

/-- An environment whose operations run in another monad. -/
def Environment.hoist {m n : Type → Type} (lift : {α : Type} → m α → n α)
    (env : Environment m) : Environment n where
  now := lift env.now
  draw count := lift (env.draw count)

/-! ## A stream of random words

The generator of simulated sides. It is a stream of thirty-two bit words, and a
draw that ends inside a word throws the rest of it away, so what a draw gives
depends on the sizes of the draws before it. -/

/-- The words of a keystream, and how many of them are used up. Every draw
starts at a whole word. -/
structure WordStream where
  key : Bytes
  used : Nat
  deriving DecidableEq

namespace WordStream

/-- The step of the generator that spreads a seed. -/
def advanceSeed (state : UInt64) : UInt64 := state * 6364136223846793005 + 11634580027462260723

/-- The word that a state of that generator gives. -/
def seedWord (state : UInt64) : UInt32 :=
  let x := (((state >>> 18) ^^^ state) >>> 27).toUInt32
  let turn := (state >>> 59).toUInt32
  (x >>> turn) ||| (x <<< ((32 - turn) % 32))

/-- `count` words from a seed, as little-endian bytes. -/
def spreadSeed : (count : Nat) → UInt64 → Bytes
  | 0, _ => []
  | count + 1, state =>
    let state := advanceSeed state
    Bytes.ofNatLE 4 (seedWord state).toNat ++ spreadSeed count state

def ofSeed (seed : UInt64) : WordStream := ⟨spreadSeed 8 seed, 0⟩

/-- `count` bytes of the keystream from word `start` on. -/
def bytesFrom (key : Bytes) (start count : Nat) : Bytes :=
  let first := start / 16
  let last := (start + (count + 3) / 4 + 15) / 16
  let blocks := (List.range (last - first)).flatMap fun i =>
    ChaCha20.block key (ChaCha20.streamTail (first + i))
  (blocks.drop (4 * (start % 16))).take count

/-- Draw bytes; what is left of the last word is lost. -/
def draw (count : Nat) (s : WordStream) : Bytes × WordStream :=
  (bytesFrom s.key s.used count, { s with used := s.used + (count + 3) / 4 })

end WordStream

/-! ## A simulated environment

Bytes come from the stream of a seed, which never ends, or from a supply that can
run out. The clock moves only when it is told to. -/

/-- Where simulated random bytes come from. -/
inductive Entropy where
  /-- The endless stream of a seed. -/
  | stream (words : WordStream)
  /-- A supply that can run out. -/
  | supply (bytes : Bytes)
  deriving DecidableEq

/-- Draw bytes. A supply that is too small is left as it is. -/
def Entropy.draw (count : Nat) : Entropy → Except EntropyError Bytes × Entropy
  | stream words =>
    let (bytes, words) := words.draw count
    (.ok bytes, stream words)
  | supply bytes =>
    if bytes.length < count then (.error ⟨"entropy exhausted"⟩, supply bytes)
    else (.ok (bytes.take count), supply (bytes.drop count))

/-- A source of bytes and a clock that stands still between advances. -/
structure Simulated where
  entropy : Entropy
  /-- By how much the clock was moved. -/
  elapsed : Duration := .zero
  started : Instant := ⟨.zero⟩
  deriving DecidableEq

namespace Simulated

/-- The environment of a seed, its clock at zero. -/
def ofSeed (seed : UInt64) : Simulated := { entropy := .stream (.ofSeed seed) }

/-- The environment of a supply, its clock at zero. -/
def ofSupply (bytes : Bytes) : Simulated := { entropy := .supply bytes }

def advance (span : Duration) (s : Simulated) : Simulated :=
  { s with elapsed := ⟨s.elapsed.nanos + span.nanos⟩ }

def now (s : Simulated) : Instant := ⟨⟨s.started.since.nanos + s.elapsed.nanos⟩⟩

def draw (count : Nat) (s : Simulated) : Except EntropyError Bytes × Simulated :=
  let (bytes, entropy) := s.entropy.draw count
  (bytes, { s with entropy })

def environment {ε : Type} : Environment (Action ε Simulated) where
  now := do return (← Action.state).now
  draw count := Action.step (draw count)

end Simulated

end GssContext
