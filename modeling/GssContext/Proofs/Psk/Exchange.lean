/-
Two parties that talk to each other in any order.

An exchange is a run of events between a sender and a receiver that have open
contexts and share one world: either party makes any call with any arguments,
or one of the tokens the sender made so far is handed to the receiver's
operation for it. Tokens that arrive in another order, twice or never, tokens
from elsewhere, and the opposite direction are all covered, because nothing
relates one event to the next.

Every event leaves an entry in the trace: what happened, what the clock showed
and what the answer was. What was sent and what was accepted are read off the
trace, and not kept beside it.
-/
import GssContext.Proofs.Psk.Call

set_option autoImplicit false

namespace GssContext.Psk

/-! ## Deliveries

What a call makes is stated together with what is to become of it: the call that takes
the token, and the answer to that call. So a statement about a token on its way need not
say again for each kind of token which operation takes it and what it should give. -/

/-- A token on its way: the call that takes it, and the answer that is due. -/
structure Delivery where
  call : Call
  due : Answer
  deriving DecidableEq

/-- The token that a call made, if it made one. A wrapped message is due as it
was given, with the confidentiality that wrapping reported; a code is due to
verify for its own message. -/
def Delivery.of? : Call → Answer → Option Delivery
  | .wrap message _, .wrapped w =>
    some ⟨.unwrap w.token, .unwrapped ⟨message, w.confidential⟩⟩
  | .getMic message, .signed token => some ⟨.verifyMic message token, .verified⟩
  | _, _ => none

/-! ## Events and their trace

The receiver acts in two ways: by a call of its own, with any token, or by taking one of
the sender's tokens. Only the second is an event of its own, and it names the token by
its index, since two tokens may have the same bytes. An entry holds the answer that was
really given; what was due is compared with it in the statements. -/

/-- The two parties of an exchange. Which of them initiated the context is left open, so
what is proved of the sender's tokens holds for both directions. -/
inductive Party where
  | sender
  | receiver
  deriving DecidableEq

/-- What may happen. There is no event for a token that is lost, since a token that is
never handed over is lost. -/
inductive Event where
  /-- A party makes a call. -/
  | call (party : Party) (call : Call)
  /-- The receiver is handed the sender's token with this index. -/
  | deliver (index : Nat)
  deriving DecidableEq

/-- Who acts in an event. -/
def Event.party : Event → Party
  | call party _ => party
  | deliver _ => .receiver

/-- What is recorded of an event. -/
structure Entry where
  event : Event
  /-- What the clock of the party that acts showed. -/
  now : Instant
  answer : Answer
  deriving DecidableEq

/-- The token that an event made for the receiver. -/
def Entry.sent? (e : Entry) : Option Delivery :=
  match e.event with
  | .call .sender call => Delivery.of? call e.answer
  | _ => none

/-- The index of the token that an event had accepted. -/
def Entry.accepted? (e : Entry) : Option Nat :=
  match e.event, e.answer with
  | .deliver _, .refused _ => none
  | .deliver index, _ => some index
  | .call .., _ => none

/-- The sender's tokens, in the order in which they were made. -/
def sent (trace : List Entry) : List Delivery := trace.filterMap Entry.sent?

/-- The indices of the tokens that the receiver accepted, in that order. -/
def accepted (trace : List Entry) : List Nat := trace.filterMap Entry.accepted?

/-! ## Runs

The world is shared: what one party draws or learns from its clock may depend on what
the other did before. Each party has an environment of its own on it. -/

/-- Two parties with their contexts, the world around them, and what happened
so far. -/
structure Exchange (σ : Type) where
  world : σ
  sender : Context
  receiver : Context
  trace : List Entry := []

namespace Exchange

variable {ε σ : Type}

def context (x : Exchange σ) : Party → Context
  | .sender => x.sender
  | .receiver => x.receiver

def withContext (x : Exchange σ) (c : Context) : Party → Exchange σ
  | .sender => { x with sender := c }
  | .receiver => { x with receiver := c }

/-- Make a party's call, and record it under an event. The clock is asked before the
call for the record only; in an exact environment asking it changes nothing. -/
def make (envs : Party → Environment (Action ε σ)) (x : Exchange σ) (event : Event) (call : Call) :
    Exchange σ :=
  let party := event.party
  let done := ((x.context party).call (envs party) call).run x.world
  { x.withContext done.1.2 party with
    world := done.2
    trace := x.trace ++ [⟨event, ((envs party).now.run x.world).1, done.1.1⟩] }

/-- One event. Handing over a token that was not made yet is none. -/
def step (envs : Party → Environment (Action ε σ)) (x : Exchange σ) : Event → Exchange σ
  | .call party call => x.make envs (.call party call) call
  | .deliver index =>
    match (sent x.trace)[index]? with
    | some delivery => x.make envs (.deliver index) delivery.call
    | none => x

/-- A run of events. -/
def run (envs : Party → Environment (Action ε σ)) (x : Exchange σ) (events : List Event) :
    Exchange σ :=
  events.foldl (step envs) x

/-- Nothing that happened is forgotten: the trace of a run begins with the trace it
started from. What is required of a whole trace is so required of every run that leads
to it, which is how the step lemmas get at their hypotheses. -/
theorem trace_prefix_run (envs : Party → Environment (Action ε σ)) (x : Exchange σ)
    (events : List Event) : x.trace <+: (x.run envs events).trace := by
  induction events generalizing x with
  | nil => exact List.prefix_refl _
  | cons event events ih =>
    have hstep : x.trace <+: (x.step envs event).trace := by
      cases event with
      | call party call => exact List.prefix_append _ _
      | deliver index =>
        simp only [step]
        cases (sent x.trace)[index]? with
        | some delivery => exact List.prefix_append _ _
        | none => exact List.prefix_refl _
    exact hstep.trans (ih _)

end Exchange

/-! ## Statements about every entry of a trace

A promise about an event usually speaks of what happened before it, such as which tokens
were accepted already. So it is a relation between an entry and the trace in front of
it. A run keeps such a promise by one lemma: a trace grows at its end, and what was
promised of earlier entries does not change. -/

/-- `P` holds of every entry with what was recorded before it. -/
def Throughout (P : List Entry → Entry → Prop) (trace : List Entry) : Prop :=
  ∀ before entry after, trace = before ++ entry :: after → P before entry

theorem throughout_nil (P : List Entry → Entry → Prop) : Throughout P [] := by
  intro before entry after h
  simp at h

/-- A trace grows at its end, so only the new entry is left to look at. The cut in front
of an older entry is a cut of the old trace. -/
theorem throughout_append_singleton {P : List Entry → Entry → Prop} {trace : List Entry}
    {entry : Entry} (h : Throughout P trace) (hnew : P trace entry) :
    Throughout P (trace ++ [entry]) := by
  intro before e after hsplit
  rcases List.eq_nil_or_concat after with rfl | ⟨rest, last, rfl⟩
  · obtain ⟨rfl, hlast⟩ := List.append_inj' hsplit rfl
    cases hlast
    exact hnew
  · rw [List.concat_eq_append, ← List.cons_append, ← List.append_assoc] at hsplit
    exact h before e rest (List.append_inj' hsplit rfl).1

end GssContext.Psk
