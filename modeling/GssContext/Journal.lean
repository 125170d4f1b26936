/-
A journal of what happened, and actions that keep one.

A program says what it does as lines: a level, the part that speaks, a text
and some named values. It does not decide where lines go, so it is written for
any monad that takes them.

An action is a pure program: it maps a state to a value, a new state and the
entries it made, in order. Its entries are lines, and also events of a kind
that the caller chooses, for the simulated parts that record what was asked of
them. Two actions one after the other leave the entries of the first before
those of the second.
-/

set_option autoImplicit false

namespace GssContext

/-! ## Lines

Levels are ordered, and that is all that is known of them here. Which lines are
shown is decided elsewhere. -/

/-- How much a line matters. -/
inductive Level where
  | trace
  | debug
  | info
  | warn
  | error
  deriving DecidableEq

namespace Level

/-- The place of a level, the least important first. -/
def rank : Level → Nat
  | trace => 0
  | debug => 1
  | info => 2
  | warn => 3
  | error => 4

def name : Level → String
  | trace => "TRACE"
  | debug => "DEBUG"
  | info => "INFO"
  | warn => "WARN"
  | error => "ERROR"

end Level

structure LogLine where
  level : Level
  source : String
  message : String
  /-- Named values, in the order in which they are shown. -/
  fields : List (String × String) := []
  deriving DecidableEq

/-- A monad whose programs can write lines. -/
class Journal (m : Type → Type) where
  note : LogLine → m Unit

export Journal (note)

/-! ## Actions

An action is a function, so running it twice from one state does the same twice.
The operations here are the only ones that look inside; programs are written with
`do` over any monad that keeps a journal. -/

inductive Entry (ε : Type) where
  | line (line : LogLine)
  | event (event : ε)

/-- What an action ends with. -/
structure Outcome (ε σ α : Type) where
  value : α
  state : σ
  entries : List (Entry ε) := []

/-- A pure program on a state that makes entries. -/
def Action (ε σ α : Type) : Type := σ → Outcome ε σ α

namespace Action

variable {ε σ τ α β : Type}

def give (a : α) : Action ε σ α := fun s => ⟨a, s, []⟩

/-- One action and then the one its value leads to. -/
def andThen (x : Action ε σ α) (f : α → Action ε σ β) : Action ε σ β := fun s =>
  let first := x s
  let second := f first.value first.state
  ⟨second.value, second.state, first.entries ++ second.entries⟩

instance : Monad (Action ε σ) where
  pure := give
  bind := andThen

def enter (e : Entry ε) : Action ε σ Unit := fun s => ⟨(), s, [e]⟩

def emit (e : ε) : Action ε σ Unit := enter (.event e)

instance : Journal (Action ε σ) where
  note line := enter (.line line)

def state : Action ε σ σ := fun s => ⟨s, s, []⟩

/-- Run a step that gives a value and a new state. -/
def step (f : σ → α × σ) : Action ε σ α := fun s =>
  let (a, s) := f s
  ⟨a, s, []⟩

def update (f : σ → σ) : Action ε σ Unit := fun s => ⟨(), f s, []⟩

/-- Run an action on a part of the state. -/
def onPart (get : σ → τ) (set : σ → τ → σ) (x : Action ε τ α) : Action ε σ α := fun s =>
  let inner := x (get s)
  ⟨inner.value, set s inner.state, inner.entries⟩

/-- Run an action on the first of two states. -/
def onFst (x : Action ε σ α) : Action ε (σ × τ) α := onPart Prod.fst (fun s t => (t, s.2)) x

/-- Run an action on the second of two states. -/
def onSnd (x : Action ε τ α) : Action ε (σ × τ) α := onPart Prod.snd (fun s t => (s.1, t)) x

theorem bind_apply (x : Action ε σ α) (f : α → Action ε σ β) (s : σ) :
    (x >>= f) s = ⟨(f (x s).value (x s).state).value, (f (x s).value (x s).state).state,
      (x s).entries ++ (f (x s).value (x s).state).entries⟩ := rfl

instance : LawfulMonad (Action ε σ) := LawfulMonad.mk' (Action ε σ)
  (fun x => by
    funext s
    simp [Functor.map, andThen, give])
  (fun a f => by
    funext s
    simp [bind, andThen, pure, give])
  (fun x f g => by
    funext s
    simp [bind, andThen, List.append_assoc])

end Action

namespace Outcome

variable {ε σ α : Type}

def lines (o : Outcome ε σ α) : List LogLine :=
  o.entries.filterMap fun
    | .line line => some line
    | .event _ => none

def events (o : Outcome ε σ α) : List ε :=
  o.entries.filterMap fun
    | .line _ => none
    | .event event => some event

end Outcome

end GssContext
