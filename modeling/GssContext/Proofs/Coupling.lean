/-
Two programs side by side.

A program is written for any mechanism, surroundings and channel, so the same
program can be run with two sets of them, on two kinds of state. A coupling says
what the two runs have to do with each other: it relates the states, and the
events that were left so far. If the operations that the program is given keep a
coupling (`Mechanism.Alike` and the like), then so does the program, and what is
to be shown of two long runs is shown of single operations.

The values need not be the same either. An operation that fails may fail in one
run with one error and in the other with another, if the two are told apart only
by what is not looked at (`SameUpTo`).
-/
import GssContext.Proofs.Observed

set_option autoImplicit false

namespace GssContext

/-! ## Results

What is compared of two results. Two runs over different transports fail at the same
points, but not with the same texts. -/

/-- Two results are the same, where of an error only so much counts as `f` leaves
of it. -/
inductive SameUpTo {ε α : Type} (f : ε → ε) : Except ε α → Except ε α → Prop
  | error {e e' : ε} (h : f e = f e') : SameUpTo f (.error e) (.error e')
  | ok (a : α) : SameUpTo f (.ok a) (.ok a)

/-- Equal results are the same up to anything. -/
theorem SameUpTo.of_eq {ε α : Type} {f : ε → ε} {result result' : Except ε α}
    (h : result = result') : SameUpTo f result result' := by
  subst h
  cases result with
  | error e => exact .error rfl
  | ok a => exact .ok a

/-! ## Couplings

A coupling is a relation on states together with the past, and programs that keep it are
put together with the rules of this section. The past is needed, since what one state
must look like can depend on all that was done. Some events may break the relation; they
are named in the coupling, and a claim of two programs is a claim of the runs without
such an event. -/

/-- What two runs have to do with each other. -/
structure Coupling (δ σ δ' τ : Type) where
  /-- Events that the first run may leave. After any other the two may part. -/
  admits : δ → Prop
  /-- The state of one run and the events that it left, and those of the other. -/
  holds : σ → List δ → τ → List δ' → Prop

namespace Coupling

variable {δ δ' σ τ α α' β β' : Type}

/-- Two programs keep a coupling, and their values are related. -/
def Relates (c : Coupling δ σ δ' τ) (V : α → α' → Prop) (x : Action δ σ α)
    (y : Action δ' τ α') : Prop :=
  ∀ s past t past', c.holds s past t past' → (∀ event ∈ x.events s, c.admits event) →
    V (x.run s).1 (y.run t).1 ∧
      c.holds (x.run s).2 (past ++ x.events s) (y.run t).2 (past' ++ y.events t)

namespace Relates

variable {c : Coupling δ σ δ' τ} {V : α → α' → Prop} {W : β → β' → Prop}

/-- Programs that change nothing and leave no event keep every coupling. -/
theorem of_idle {x : Action δ σ α} {y : Action δ' τ α'} {a : α} {a' : α'}
    (hx : ∀ s, x.run s = (a, s) ∧ x.events s = [])
    (hy : ∀ t, y.run t = (a', t) ∧ y.events t = []) (h : V a a') : c.Relates V x y := by
  intro s past t past' hheld _
  rw [(hx s).1, (hx s).2, (hy t).1, (hy t).2, List.append_nil, List.append_nil]
  exact ⟨h, hheld⟩

theorem pure {a : α} {a' : α'} (h : V a a') :
    c.Relates V (Pure.pure a) (Pure.pure a') :=
  of_idle (fun _ => ⟨rfl, rfl⟩) (fun _ => ⟨rfl, rfl⟩) h

/-- One program after the other, if what follows keeps the coupling for all values
that the first parts can have. -/
theorem bind {x : Action δ σ α} {y : Action δ' τ α'} {f : α → Action δ σ β}
    {g : α' → Action δ' τ β'} (hx : c.Relates V x y)
    (hf : ∀ a a', V a a' → c.Relates W (f a) (g a')) : c.Relates W (x >>= f) (y >>= g) := by
  intro s past t past' hheld hadmits
  rw [Action.events_bind] at hadmits
  obtain ⟨hfirst, hrest⟩ := List.forall_mem_append.mp hadmits
  obtain ⟨hvalue, hheld'⟩ := hx s past t past' hheld hfirst
  rw [Action.run_bind, Action.run_bind, Action.events_bind, Action.events_bind,
    ← List.append_assoc, ← List.append_assoc]
  exact hf _ _ hvalue _ _ _ _ hheld' hrest

/-- The same with one value on both sides. -/
theorem bind_same {x : Action δ σ α} {y : Action δ' τ α} {f : α → Action δ σ β}
    {g : α → Action δ' τ β'} (hx : c.Relates Eq x y) (hf : ∀ a, c.Relates W (f a) (g a)) :
    c.Relates W (x >>= f) (y >>= g) := by
  refine hx.bind ?_
  rintro a _ rfl
  exact hf a

/-- A line of the journal is no event, and the two may even say different things. -/
theorem note_bind {line line' : LogLine} {x : Unit → Action δ σ β} {y : Unit → Action δ' τ β'}
    (h : c.Relates W (x ()) (y ())) : c.Relates W (note line >>= x) (note line' >>= y) :=
  bind (V := Eq) (of_idle (fun _ => ⟨rfl, rfl⟩) (fun _ => ⟨rfl, rfl⟩) rfl) fun _ _ _ => h

/-- Values that are related are so by anything weaker. -/
theorem mono {V' : α → α' → Prop} {x : Action δ σ α} {y : Action δ' τ α'}
    (h : c.Relates V x y) (hV : ∀ a a', V a a' → V' a a') : c.Relates V' x y := by
  intro s past t past' hheld hadmits
  obtain ⟨hvalue, hheld'⟩ := h s past t past' hheld hadmits
  exact ⟨hV _ _ hvalue, hheld'⟩

end Relates

end Coupling

/-! ## Operations that keep a coupling

For each record of operations that a program is given: two of them are alike if each
operation of the one and the same operation of the other keep the coupling. -/

/-- An error with nothing of a failed input or output but its kind. -/
def TransportError.byKind : TransportError → TransportError
  | .io error => .io (.ofKind error.kind)
  | error => error

section

variable {δ δ' σ τ ν κ : Type} (c : Coupling δ σ δ' τ)

/-- Each operation of two mechanisms keeps the coupling, and gives the same. -/
structure Mechanism.Alike (mechanism : Mechanism (Action δ σ) ν κ)
    (mechanism' : Mechanism (Action δ' τ) ν κ) : Prop where
  importName : ∀ text, c.Relates Eq (mechanism.importName text) (mechanism'.importName text)
  initStep : ∀ before target wanted flags input,
    c.Relates Eq (mechanism.initStep before target wanted flags input)
      (mechanism'.initStep before target wanted flags input)
  wrap : ∀ before message confidential,
    c.Relates Eq (mechanism.wrap before message confidential)
      (mechanism'.wrap before message confidential)
  verifyMic : ∀ before message token,
    c.Relates Eq (mechanism.verifyMic before message token)
      (mechanism'.verifyMic before message token)
  inquire : ∀ context, c.Relates Eq (mechanism.inquire context) (mechanism'.inquire context)
  namesFor : ∀ wanted, c.Relates Eq (mechanism.namesFor wanted) (mechanism'.namesFor wanted)
  release : ∀ context, c.Relates Eq (mechanism.release context) (mechanism'.release context)

/-- Each operation of two transports keeps the coupling, and gives the same up to the
kinds of failures. -/
structure Transport.Alike (transport : Transport (Action δ σ))
    (transport' : Transport (Action δ' τ)) : Prop where
  send : ∀ token,
    c.Relates (SameUpTo TransportError.byKind) (transport.send token) (transport'.send token)
  receive : c.Relates (SameUpTo TransportError.byKind) transport.receive transport'.receive

/-- Files and clocks that keep the coupling, and give the same. -/
structure Client.Surroundings.Alike (surroundings : Surroundings (Action δ σ))
    (surroundings' : Surroundings (Action δ' τ)) : Prop where
  readFile : ∀ path, c.Relates Eq (surroundings.readFile path) (surroundings'.readFile path)
  now : c.Relates Eq surroundings.now surroundings'.now

end

end GssContext
