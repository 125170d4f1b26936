/-
Running an action, its entries left aside.

`Action.run` is an action as a function from a state to a value and a new
state. Every action of this library is built with `do` from a handful of
steps, so one equation per step is enough to execute a whole program: a
statement about a program is an equation about its `run`, and it is proved by
rewriting with the equations of its parts.

What an action writes to its journal is not in `run`. It never decides what
comes next, since no action reads its own entries.
-/
import GssContext.Environment
import GssContext.Mechanism

set_option autoImplicit false

namespace GssContext

namespace Action

variable {ε σ τ α β : Type}

/-- The value and the state that an action ends with. -/
def run (x : Action ε σ α) (s : σ) : α × σ := ((x s).value, (x s).state)

/-! ## One equation per step

There are only a few ways to make an action: to return a value, to do one thing after
another, to write a line, to read the state, and to act on one half of a state. Each has
its equation, and they are tagged for `simp`, so that a closed program is run by it. -/

@[simp] theorem run_pure (a : α) (s : σ) : (pure a : Action ε σ α).run s = (a, s) := rfl

@[simp] theorem run_bind (x : Action ε σ α) (f : α → Action ε σ β) (s : σ) :
    (x >>= f).run s = (f (x.run s).1).run (x.run s).2 := rfl

@[simp] theorem run_note (line : LogLine) (s : σ) :
    (note line : Action ε σ Unit).run s = ((), s) := rfl

@[simp] theorem run_state (s : σ) : (state : Action ε σ σ).run s = (s, s) := rfl

@[simp] theorem run_onFst (x : Action ε σ α) (s : σ × τ) :
    (onFst x : Action ε (σ × τ) α).run s = ((x.run s.1).1, (x.run s.1).2, s.2) := rfl

@[simp] theorem run_onSnd (x : Action ε τ α) (s : σ × τ) :
    (onSnd x : Action ε (σ × τ) α).run s = ((x.run s.2).1, s.1, (x.run s.2).2) := rfl

end Action

/-! ## Environments

What a program may suppose about the environment that it gets is stated here as named
properties, and the simulated environment is shown to have them. None of them says which
bytes are drawn. -/

namespace Environment

variable {ε σ : Type}

/-- A successful draw gives as many bytes as were asked for. Every environment
promises this: bytes are drawn into a buffer of that size. -/
def Exact (env : Environment (Action ε σ)) : Prop :=
  ∀ count s bytes, ((env.draw count).run s).1 = .ok bytes → bytes.length = count

/-- In the state `s` a draw of `count` bytes succeeds. -/
def Supplies (env : Environment (Action ε σ)) (count : Nat) (s : σ) : Prop :=
  ∃ bytes, ((env.draw count).run s).1 = .ok bytes

/-- Looking at the clock changes nothing. -/
def Still (env : Environment (Action ε σ)) : Prop := ∀ s, (env.now.run s).2 = s

end Environment

namespace WordStream

/-- A stretch of the keystream is as long as it is asked to be. -/
theorem length_bytesFrom (key : Bytes) (start count : Nat) :
    (bytesFrom key start count).length = count := by
  have hblocks (xs : List Nat) : (xs.flatMap fun i =>
      ChaCha20.block key (ChaCha20.streamTail (start / 16 + i))).length =
        ChaCha20.blockSize * xs.length := by
    induction xs with
    | nil => rfl
    | cons x xs ih =>
      rw [List.flatMap_cons, List.length_append, ih, ChaCha20.length_block, List.length_cons,
        Nat.mul_succ, Nat.add_comm]
  unfold bytesFrom
  rw [List.length_take, List.length_drop, hblocks, List.length_range]
  simp only [ChaCha20.blockSize]
  omega

end WordStream

/-- Simulated entropy gives as much as was asked for, or nothing. It comes from a stream
that never ends or from a supply that does, and a supply with too little left fails as a
whole. -/
theorem Entropy.length_of_draw {entropy : Entropy} {count : Nat} {bytes : Bytes}
    (h : (entropy.draw count).1 = .ok bytes) : bytes.length = count := by
  cases entropy with
  | stream words =>
    rw [← Except.ok.inj h]
    exact WordStream.length_bytesFrom ..
  | supply supply =>
    rw [Entropy.draw] at h
    by_cases hshort : supply.length < count
    · rw [if_pos hshort] at h
      cases h
    · rw [if_neg hshort] at h
      rw [← Except.ok.inj h, List.length_take]
      omega

namespace Simulated

/-- The simulated environment draws what it is asked for. -/
theorem environment_exact {ε : Type} : (environment : Environment (Action ε Simulated)).Exact :=
  fun _ _ _ h => Entropy.length_of_draw h

/-- The simulated clock moves only when it is told to. -/
theorem environment_still {ε : Type} : (environment : Environment (Action ε Simulated)).Still :=
  fun _ => rfl

theorem environment_supplies {ε : Type} (words : WordStream) (elapsed : Duration)
    (started : Instant) (count : Nat) :
    (environment : Environment (Action ε Simulated)).Supplies count
      ⟨.stream words, elapsed, started⟩ :=
  ⟨_, rfl⟩

end Simulated

end GssContext
