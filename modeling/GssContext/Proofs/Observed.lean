/-
What a program did, as a list of deeds.

The mechanism, the transport and whoever makes connections are given to a
program from outside, so they can be observed: every operation is done as it
always is, and leaves one deed that tells what it was given and what it gave.
The deeds are events of the journal. Nobody reads a journal while it is kept,
so a program does the same whether or not it is observed; what is gained is
that its deeds, in their order, are a value that can be spoken about.

`Action.Leaves` speaks about them: a property of the value of an action and of
the deeds that it left, whatever the state it is run in. The deeds of one
action and then another are those of the first followed by those of the
second, so the property of a program is put together from those of its parts.
-/
import GssContext.Client.Session
import GssContext.Proofs.Action
import Mathlib.Control.Monad.Basic

set_option autoImplicit false

namespace GssContext

namespace Action

variable {ε δ σ τ α β : Type}

/-! ## Events

The journal of an action is a list of lines and events. Here its lines are left aside,
and there are two ways to make the events of one kind of action into those of another:
to leave out all of them, or to leave one that is computed from the value. -/

/-- The events of an action that is run in a state. -/
def events (x : Action δ σ α) (s : σ) : List δ := (x s).events

/-- The events of one action and then another are those of both, in this order. -/
@[simp] theorem events_bind (x : Action δ σ α) (f : α → Action δ σ β) (s : σ) :
    (x >>= f).events s = x.events s ++ (f (x.run s).1).events (x.run s).2 :=
  List.filterMap_append

@[simp] theorem events_onFst (x : Action δ σ α) (s : σ × τ) :
    (onFst x : Action δ (σ × τ) α).events s = x.events s.1 := rfl

/-- An action whose entries are kept back. -/
def quiet (x : Action ε σ α) : Action δ σ α := fun s => ⟨(x s).value, (x s).state, []⟩

@[simp] theorem run_quiet (x : Action ε σ α) : (x.quiet : Action δ σ α).run = x.run := rfl

@[simp] theorem events_quiet (x : Action ε σ α) (s : σ) :
    (x.quiet : Action δ σ α).events s = [] := rfl

/-- An action that leaves one event instead of its entries. -/
def told (x : Action ε σ α) (event : α → δ) : Action δ σ α := fun s =>
  ⟨(x s).value, (x s).state, [.event (event (x s).value)]⟩

@[simp] theorem run_told (x : Action ε σ α) (event : α → δ) : (x.told event).run = x.run := rfl

@[simp] theorem events_told (x : Action ε σ α) (event : α → δ) (s : σ) :
    (x.told event).events s = [event (x.run s).1] := rfl

/-! ## Programs that do the same

The events of two programs may be of different types, so the programs themselves cannot
be compared, but their runs can. -/

/-- Two programs do the same if their first parts do, and what follows them. -/
theorem run_bind_congr {x : Action δ σ α} {y : Action ε σ α} {f : α → Action δ σ β}
    {g : α → Action ε σ β} (hx : x.run = y.run) (hf : ∀ a, (f a).run = (g a).run) :
    (x >>= f).run = (y >>= g).run := by
  funext s
  rw [run_bind, run_bind, hx, hf]

/-! ## What an action leaves

A property of a value and of events, for every state. The rules below follow the shape
of a program, so a proof about a program is a sequence of `refine` steps, one for each
of its lines, with the property generalised to what is still to come. -/

/-- The value of an action and the events that it leaves have a property, in
whatever state it is run. -/
def Leaves (x : Action δ σ α) (P : α → List δ → Prop) : Prop := ∀ s, P (x.run s).1 (x.events s)

namespace Leaves

variable {P : α → List δ → Prop} {Q : β → List δ → Prop}

theorem pure {a : α} (h : P a []) : (pure a : Action δ σ α).Leaves P := fun _ => h

/-- The events of the first part come before those of what follows. -/
theorem bind {x : Action δ σ α} {f : α → Action δ σ β} (hx : x.Leaves P)
    (hf : ∀ a events, P a events → (f a).Leaves fun b later => Q b (events ++ later)) :
    (x >>= f).Leaves Q := by
  intro s
  rw [run_bind, events_bind]
  exact hf _ _ (hx s) _

/-- A line of the journal is no event. -/
theorem note_bind {line : LogLine} {x : Unit → Action δ σ β} (hx : (x ()).Leaves Q) :
    (note line >>= x).Leaves Q := fun s => hx s

/-- An operation leaves the one event that tells of it. -/
theorem told_bind {x : Action ε σ α} {event : α → δ} {f : α → Action δ σ β}
    (hf : ∀ a, (f a).Leaves fun b later => Q b (event a :: later)) :
    (x.told event >>= f).Leaves Q := fun _ => hf _ _

theorem quiet_bind {x : Action ε σ α} {f : α → Action δ σ β} (hf : ∀ a, (f a).Leaves Q) :
    (x.quiet >>= f).Leaves Q := fun _ => hf _ _

/-- An operation at the end of a program leaves its one event. -/
theorem told {x : Action ε σ α} {event : α → δ} (h : ∀ a, P a [event a]) :
    (x.told event).Leaves P := fun _ => h _

/-- What leaves more than is asked for leaves that. -/
theorem mono {x : Action δ σ α} {P' : α → List δ → Prop} (hx : x.Leaves P)
    (h : ∀ a events, P a events → P' a events) : x.Leaves P' := fun s => h _ _ (hx s)

end Leaves

-- The rules above are all that is used of these two; where they unfold, no rule is found.
attribute [irreducible] told quiet

end Action

/-! ## Deeds

A deed holds the arguments of an operation and its result. For the mechanism's
operations on a context these include the context before and after, so that it can be
followed through the deeds, although the program hands it around out of sight. -/

/-- A step of the mechanism: what it was given and what it gave. -/
structure Taken (ν κ : Type) where
  before : Option κ
  target : ν
  wanted : Option Oid
  flags : Flags
  input : Option Bytes
  step : Step
  after : Option κ
  deriving DecidableEq

/-- An operation that was done, with what it gave. -/
inductive Deed (ν κ : Type) where
  | imported (text : String) (result : Except Status ν)
  | stepped (taken : Taken ν κ)
  | wrapped (before : κ) (message : Bytes) (confidential : Bool) (result : Except Status Wrapped)
      (after : κ)
  | verified (before : κ) (message token : Bytes) (result : Except Status Unit) (after : κ)
  | inquired (context : κ) (result : Except Status ContextInfo)
  | named (wanted : Oid) (result : Except Status (List Oid))
  | released (context : κ)
  | sent (token : Bytes) (result : Except TransportError Unit)
  | received (result : Except TransportError Bytes)
  | dialed (config : Client.Config) (result : Except IoError Unit)
  | closed (result : Except IoError Unit)
  | loaded (path : String) (result : Except IoError Bytes)
  deriving DecidableEq

section

variable {ν κ : Type}

/-- The mechanism's context after a deed, from the one before it. -/
def Deed.hold (context : Option κ) : Deed ν κ → Option κ
  | .stepped taken => taken.after
  | .wrapped _ _ _ _ after | .verified _ _ _ _ after => some after
  | .released _ => none
  | _ => context

/-- The context that the mechanism left with the caller, after a list of deeds. -/
def held (context : Option κ) (deeds : List (Deed ν κ)) : Option κ := deeds.foldl Deed.hold context

@[simp] theorem held_cons (context : Option κ) (deed : Deed ν κ) (deeds : List (Deed ν κ)) :
    held context (deed :: deeds) = held (deed.hold context) deeds := rfl

@[simp] theorem held_append (context : Option κ) (deeds later : List (Deed ν κ)) :
    held context (deeds ++ later) = held (held context deeds) later := List.foldl_append

end

/-! ## Observed operations

For each of the records of operations that a program is given, the same record with
deeds. Nothing of the operations is changed, and none is added or left out. -/

section

variable {ε σ ν κ : Type}

/-- A mechanism whose operations leave deeds. -/
def Mechanism.observed (mechanism : Mechanism (Action ε σ) ν κ) :
    Mechanism (Action (Deed ν κ) σ) ν κ where
  nameText := mechanism.nameText
  importName text := (mechanism.importName text).told (.imported text)
  initStep before target wanted flags input :=
    (mechanism.initStep before target wanted flags input).told fun (step, after) =>
      .stepped { before, target, wanted, flags, input, step, after }
  wrap before message confidential :=
    (mechanism.wrap before message confidential).told fun (result, after) =>
      .wrapped before message confidential result after
  verifyMic before message token :=
    (mechanism.verifyMic before message token).told fun (result, after) =>
      .verified before message token result after
  inquire context := (mechanism.inquire context).told (.inquired context)
  namesFor wanted := (mechanism.namesFor wanted).told (.named wanted)
  release context := (mechanism.release context).told fun _ => .released context

/-- A transport whose operations leave deeds. -/
def Transport.observed (transport : Transport (Action ε σ)) :
    Transport (Action (Deed ν κ) σ) where
  send token := (transport.send token).told (.sent token)
  receive := transport.receive.told .received

/-- A channel whose operations leave deeds. -/
def Channel.observed (channel : Channel (Action ε σ)) : Channel (Action (Deed ν κ) σ) where
  toTransport := channel.toTransport.observed
  close := channel.close.told .closed

/-- Connections that leave deeds: that they were asked for, and all that is
done with them. -/
def Client.Connector.observed (connector : Connector (Action ε σ)) :
    Connector (Action (Deed ν κ) σ) where
  connect config := do
    let result ← (connector.connect config).told fun result =>
      .dialed config (result.map fun _ => ())
    return result.map Channel.observed

/-- Files that leave deeds. To look at the clock is none. -/
def Client.Surroundings.observed (surroundings : Surroundings (Action ε σ)) :
    Surroundings (Action (Deed ν κ) σ) where
  readFile path := (surroundings.readFile path).told (.loaded path)
  now := surroundings.now.quiet

end

end GssContext
