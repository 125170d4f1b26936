/-
A simulated stream.

What a stream may do besides delivering bytes is what code that reads frames
has to cope with: give fewer bytes than it was asked for, be interrupted, end,
refuse. A pipe is a stream whose behaviour is laid down in advance, attempt by
attempt, so that any delivery can be stated and repeated.

Its schedule says what the first attempts do and how many bytes each later one
moves at most. Interrupted attempts are part of the schedule and are repeated,
as the interface for streams demands.
-/
import GssContext.Frame
import GssContext.Journal

set_option autoImplicit false

namespace GssContext

/-! ## Schedules

A schedule is finite data for what would be an endless list: the first attempts
one by one, and a bound on all later ones. -/

/-- What one attempt to read or write does. -/
inductive Attempt where
  /-- Move bytes, at most as many as given. -/
  | upTo (limit : Option Nat)
  | fails (kind : IoKind)
  deriving DecidableEq

/-- What the attempts of one direction do. -/
structure Schedule where
  first : List Attempt := []
  /-- The most bytes that each later attempt moves. -/
  limit : Option Nat := none
  deriving DecidableEq

namespace Schedule

/-- The next attempt that is not interrupted, and the schedule after it. -/
def next (s : Schedule) : Attempt × Schedule :=
  match s.first.dropWhile (· == .fails .interrupted) with
  | [] => (.upTo s.limit, { s with first := [] })
  | attempt :: rest => (attempt, { s with first := rest })

/-- The schedule whose attempts move at most `limit` bytes, apart from those
whose numbers stand among the faults. Of two faults of one attempt the first
counts. Only the first `count` attempts can fail. -/
def ofFaults (faults : List (Nat × IoKind)) (limit : Option Nat) (count : Nat) : Schedule :=
  let faults := faults.filter fun f => f.1 < count
  let last := faults.foldl (fun n f => max n (f.1 + 1)) 0
  let attempts := faults.reverse.foldl (fun all f => all.setIfInBounds f.1 (.fails f.2))
    (Array.replicate last (.upTo limit))
  ⟨attempts.toList, limit⟩

end Schedule

/-! ## The pipe

Both directions are in one state, with the bytes that came out of one and went
into the other, and a number for each of them. Faults are part of the state too,
so that a run can be told from its start. -/

/-- A stream that behaves as it is told. -/
structure Pipe where
  unread : Bytes
  reads : Schedule := {}
  /-- Bytes read so far. -/
  consumed : Nat := 0
  /-- What each write wrote, the last one first. -/
  pieces : List Bytes := []
  /-- Bytes written so far. -/
  produced : Nat := 0
  writes : Schedule := {}
  /-- Bytes that can still be written. -/
  room : Option Nat := none
  /-- What a write fails with that would write nothing; without it nothing is
  written and nothing fails. -/
  whenFull : Option IoKind := none
  /-- What every flush fails with. -/
  flushFault : Option IoKind := none
  /-- Flushes that succeeded or failed. -/
  flushes : Nat := 0

namespace Pipe

def written (p : Pipe) : Bytes := p.pieces.reverse.flatten

/-- The smaller of a number and a limit, if there is one. -/
def capped (limit : Option Nat) (n : Nat) : Nat :=
  match limit with
  | some limit => min limit n
  | none => n

/-- Bytes up to a limit, if there is one. -/
def upTo (limit : Option Nat) (bytes : Bytes) : Bytes :=
  match limit with
  | some limit => bytes.take limit
  | none => bytes

def read (want : Nat) (p : Pipe) : Except IoError Bytes × Pipe :=
  let (attempt, reads) := p.reads.next
  match attempt with
  | .fails kind => (.error (.ofKind kind), { p with reads })
  | .upTo limit =>
    let got := p.unread.take (capped limit want)
    (.ok got,
      { p with reads, unread := p.unread.drop got.length, consumed := p.consumed + got.length })

def write (bytes : Bytes) (p : Pipe) : Except IoError Nat × Pipe :=
  let (attempt, writes) := p.writes.next
  match attempt with
  | .fails kind => (.error (.ofKind kind), { p with writes })
  | .upTo limit =>
    let piece := upTo p.room (upTo limit bytes)
    match piece, p.whenFull with
    | [], some kind => (.error (.ofKind kind), { p with writes })
    | piece, _ =>
      (.ok piece.length, { p with writes, pieces := piece :: p.pieces,
                                  produced := p.produced + piece.length
                                  room := p.room.map (· - piece.length) })

/-- What a write says was written follows what was written before. -/
theorem written_of_write {bytes : Bytes} {p q : Pipe} {count : Nat}
    (h : p.write bytes = (.ok count, q)) :
    ∃ piece, piece.length = count ∧ piece <+: bytes ∧ q.written = p.written ++ piece := by
  have isPrefix (limit : Option Nat) (bytes : Bytes) : upTo limit bytes <+: bytes := by
    cases limit
    · exact List.prefix_refl _
    · exact List.take_prefix _ _
  simp only [write] at h
  split at h
  · simp at h
  · split at h
    · simp at h
    · simp only [Prod.mk.injEq, Except.ok.injEq] at h
      obtain ⟨rfl, rfl⟩ := h
      exact ⟨_, rfl, (isPrefix _ _).trans (isPrefix _ _), by simp [written]⟩

def flush (p : Pipe) : Except IoError Unit × Pipe :=
  let p := { p with flushes := p.flushes + 1 }
  match p.flushFault with
  | some kind => (.error (.ofKind kind), p)
  | none => (.ok (), p)

def stream {ε : Type} : Stream (Action ε Pipe) where
  read want := Action.step (read want)
  write bytes := Action.step (write bytes)
  flush := Action.step flush

/-- Read frames until one fails, each with the bytes consumed up to there. A
frame takes at least four bytes, so there cannot be more of them than bytes. -/
def receiveAll (p : Pipe) (bound : Nat) : List (Except TransportError Bytes × Nat) :=
  let frames : Action Empty Pipe (List (Except TransportError Bytes × Nat)) :=
    Frame.receiveMany stream bound (do return (← Action.state).consumed) (p.unread.length + 1)
  (frames p).value

end Pipe

end GssContext
