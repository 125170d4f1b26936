/-
The stream that random bytes come from.

An environment gives bytes that nobody can predict, but it does not give any
bytes: they stand one after the other on a stream, and what was given is behind
for good. `Environment.Streams` says that, with the part of the stream that is
used up as a list of bytes that only grows. It does not ask that the next bytes
are the next ones on the stream: some may be skipped, and what a failing source
read is lost.

Both kinds of simulated entropy are such a stream. With a seed it is the
keystream of the seed's key, of which every draw uses up whole words; with a
supply it is the supply.
-/
import GssContext.Proofs.Action
import Mathlib.Data.List.GetD

set_option autoImplicit false

namespace GssContext

variable {ε σ : Type}

/-- The environment takes its bytes from a stream, of which in the state `w` the
part `p` is used up if `past w p`. -/
structure Environment.Streams (env : Environment (Action ε σ)) (past : σ → Bytes → Prop) :
    Prop where
  /-- Looking at the clock takes nothing. -/
  now : ∀ {w p}, past w p → past (env.now.run w).2 p
  /-- What is given was not used up before, and it is now. -/
  drawn : ∀ {count w p bytes w'}, past w p → (env.draw count).run w = (.ok bytes, w') →
    ∃ skipped lost, past w' (p ++ (skipped ++ bytes ++ lost))
  failed : ∀ {count w p e w'}, past w p → (env.draw count).run w = (.error e, w') →
    ∃ lost, past w' (p ++ lost)

/-! ## Places on a stream

That two pieces of randomness are different pieces of the stream is a matter of places:
each stands somewhere, and the one ends before the other begins. Whether their bytes
differ is another matter, on which nothing is said here. -/

/-- Bytes at a place. -/
structure Stretch where
  start : Nat
  bytes : Bytes
  deriving DecidableEq

namespace Stretch

/-- The place after the last byte. -/
def stop (s : Stretch) : Nat := s.start + s.bytes.length

/-- The bytes stand at their place on a stream. -/
def On (s : Stretch) (stream : Bytes) : Prop :=
  ∃ before after, before.length = s.start ∧ stream = before ++ s.bytes ++ after

end Stretch

/-- The pieces stand on a stream from `start` on, each after the end of the one
before it. -/
def Laid (stream : Bytes) (start : Nat) (pieces : List Bytes) : Prop :=
  ∃ stretches : List Stretch, stretches.map Stretch.bytes = pieces ∧
    (∀ s ∈ stretches, start ≤ s.start ∧ s.On stream) ∧
    stretches.Pairwise fun s t => s.stop ≤ t.start

theorem laid_nil (stream : Bytes) (start : Nat) : Laid stream start [] :=
  ⟨[], rfl, (fun _ hs => nomatch hs), .nil⟩

/-- Pieces from a place on are pieces from any earlier place on. -/
theorem Laid.mono {stream : Bytes} {start start' : Nat} {pieces : List Bytes}
    (h : Laid stream start' pieces) (hle : start ≤ start') : Laid stream start pieces := by
  obtain ⟨stretches, hpieces, hon, hpairwise⟩ := h
  exact ⟨stretches, hpieces, fun s hs => ⟨Nat.le_trans hle (hon s hs).1, (hon s hs).2⟩, hpairwise⟩

/-- A piece that ends before the others begin can be put in front of them. Its place is
given by what stands before it on the stream. -/
theorem Laid.cons {front piece back : Bytes} {stop : Nat} {pieces : List Bytes}
    (h : Laid (front ++ piece ++ back) stop pieces) (hstop : front.length + piece.length ≤ stop) :
    Laid (front ++ piece ++ back) front.length (piece :: pieces) := by
  obtain ⟨stretches, hpieces, hon, hpairwise⟩ := h
  refine ⟨⟨front.length, piece⟩ :: stretches, ?_, ?_, ?_⟩
  · rw [List.map_cons, hpieces]
  · intro s hs
    rcases List.mem_cons.mp hs with rfl | hs
    · exact ⟨Nat.le_refl _, front, back, rfl, rfl⟩
    · have hle : front.length ≤ stop := Nat.le_trans (Nat.le_add_right _ _) hstop
      exact ⟨Nat.le_trans hle (hon s hs).1, (hon s hs).2⟩
  · rw [List.pairwise_cons]
    exact ⟨fun s hs => Nat.le_trans hstop (hon s hs).1, hpairwise⟩

/-! ## The keystream of a seed

The generator works in blocks of 64 bytes, is asked for bytes, and counts words of four.
All three are put into terms of single bytes: the keystream is a function of a place,
and whatever is drawn is a range of it. -/

namespace WordStream

/-- A byte of the keystream. -/
def byteAt (key : Bytes) (n : Nat) : UInt8 :=
  (ChaCha20.block key (ChaCha20.streamTail (n / 64))).getD (n % 64) 0

/-- A block is a range of the keystream. -/
theorem block_eq (key : Bytes) (i : Nat) :
    ChaCha20.block key (ChaCha20.streamTail i) = (List.range' (64 * i) 64).map (byteAt key) := by
  have hlength : (ChaCha20.block key (ChaCha20.streamTail i)).length = 64 :=
    ChaCha20.length_block _ _
  apply List.ext_getElem
  · rw [hlength, List.length_map, List.length_range']
  · intro k hk _
    rw [hlength] at hk
    have hdiv : (64 * i + k) / 64 = i := by omega
    have hmod : (64 * i + k) % 64 = k := by omega
    rw [List.getElem_map, List.getElem_range', Nat.one_mul, byteAt, hdiv, hmod,
      List.getD_eq_getElem]

/-- Blocks one after the other are a range as well, by induction on their number. -/
theorem flatMap_block_eq (key : Bytes) (first n : Nat) :
    ((List.range n).flatMap fun i =>
      ChaCha20.block key (ChaCha20.streamTail (first + i))) =
        (List.range' (64 * first) (64 * n)).map (byteAt key) := by
  induction n with
  | zero => rfl
  | succ n ih =>
    have hsplit : List.range' (64 * first) (64 * (n + 1)) =
        List.range' (64 * first) (64 * n) ++ List.range' (64 * (first + n)) 64 := by
      rw [Nat.mul_succ, Nat.mul_add, List.range'_append_1]
    rw [List.range_succ, List.flatMap_append, ih, List.flatMap_singleton, block_eq, hsplit,
      List.map_append]

/-- What is drawn is a stretch of the keystream, from the first word that is not
used up. -/
theorem bytesFrom_eq (key : Bytes) (start count : Nat) :
    bytesFrom key start count = (List.range' (4 * start) count).map (byteAt key) := by
  -- the stretch begins inside the first block, and the blocks reach at least to its end
  have hstart : 64 * (start / 16) + 4 * (start % 16) * 1 = 4 * start := by omega
  obtain ⟨spare, hspare⟩ : ∃ spare,
      64 * ((start + (count + 3) / 4 + 15) / 16 - start / 16) - 4 * (start % 16) = count + spare :=
    Nat.exists_eq_add_of_le (by omega)
  unfold bytesFrom
  dsimp only
  rw [flatMap_block_eq, ← List.map_drop, ← List.map_take, List.drop_range', hstart, hspare,
    ← List.range'_append_1, List.take_left' List.length_range']

/-- A draw begins where the one before it ended, and uses up whole words. -/
theorem exists_bytesFrom_append (key : Bytes) (used count : Nat) :
    ∃ lost, bytesFrom key 0 (4 * (used + (count + 3) / 4)) =
      bytesFrom key 0 (4 * used) ++ (bytesFrom key used count ++ lost) := by
  obtain ⟨spare, hspare⟩ : ∃ spare, 4 * ((count + 3) / 4) = count + spare :=
    Nat.exists_eq_add_of_le (by omega)
  refine ⟨(List.range' (4 * used + count) spare).map (byteAt key), ?_⟩
  simp only [bytesFrom_eq]
  rw [← List.map_append, ← List.map_append, List.range'_append_1, Nat.mul_add, hspare,
    ← List.range'_append_1, Nat.mul_zero, Nat.zero_add]

end WordStream

/-! ## The streams there are

Of both kinds of simulated entropy it is shown what part is used up in a state, and that
a draw adds to it. With a seed no draw fails. With a supply a draw fails if too little
is left, and then all that is left is lost. -/

namespace Simulated

/-- With a seed, the part of the keystream that is used up. -/
def Streamed (key : Bytes) (s : Simulated) (p : Bytes) : Prop :=
  ∃ used, s.entropy = .stream ⟨key, used⟩ ∧ p = WordStream.bytesFrom key 0 (4 * used)

/-- With a supply, what is gone of it. -/
def Supplied (whole : Bytes) (s : Simulated) (p : Bytes) : Prop :=
  ∃ rest, s.entropy = .supply rest ∧ p ++ rest = whole

/-- A seed gives a stream. What a draw leaves over of its last word is lost. -/
theorem streams_streamed (key : Bytes) :
    (environment : Environment (Action ε Simulated)).Streams (Streamed key) where
  now h := h
  drawn := by
    rintro count w p bytes w' ⟨used, hentropy, rfl⟩ hdraw
    obtain ⟨lost, hlost⟩ := WordStream.exists_bytesFrom_append key used count
    change Simulated.draw count w = _ at hdraw
    rw [Simulated.draw, hentropy] at hdraw
    cases hdraw
    exact ⟨[], lost, used + (count + 3) / 4, rfl, hlost.symm⟩
  failed := by
    rintro count w p e w' ⟨used, hentropy, rfl⟩ hdraw
    change Simulated.draw count w = _ at hdraw
    rw [Simulated.draw, hentropy] at hdraw
    cases hdraw

/-- A supply is a stream, as long as it lasts. What is drawn is taken from its front,
and where too little is left nothing is taken. -/
theorem streams_supplied (whole : Bytes) :
    (environment : Environment (Action ε Simulated)).Streams (Supplied whole) where
  now h := h
  drawn := by
    rintro count w p bytes w' ⟨rest, hentropy, rfl⟩ hdraw
    change Simulated.draw count w = _ at hdraw
    rw [Simulated.draw, hentropy, Entropy.draw] at hdraw
    by_cases hshort : rest.length < count
    · rw [if_pos hshort] at hdraw
      cases hdraw
    · rw [if_neg hshort] at hdraw
      cases hdraw
      refine ⟨[], [], rest.drop count, rfl, ?_⟩
      rw [List.nil_append, List.append_nil, List.append_assoc, List.take_append_drop]
  failed := by
    rintro count w p e w' ⟨rest, hentropy, rfl⟩ hdraw
    change Simulated.draw count w = _ at hdraw
    rw [Simulated.draw, hentropy, Entropy.draw] at hdraw
    by_cases hshort : rest.length < count
    · rw [if_pos hshort] at hdraw
      cases hdraw
      -- a draw that asks for more than is left takes nothing
      exact ⟨[], rest, rfl, by rw [List.append_nil]⟩
    · rw [if_neg hshort] at hdraw
      cases hdraw

end Simulated

end GssContext
