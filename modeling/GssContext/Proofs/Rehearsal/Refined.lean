/-
A queue of tokens in memory stands for a framed stream.

Sessions are rehearsed on a channel in memory: what will be received is a list of
tokens, and what is sent is recorded. The channel that they use has a stream of bytes
instead, and every token goes through it as a frame. Here the two are shown to be one
and the same to whoever talks through them (`refines_frames`).

What carries it is the coupling `inStep`: as long as the unread bytes of the stream are
the frames of the tokens that wait in memory, and the bytes that were written are the
frames of the tokens that were sent, the next operation gives the same on both sides,
and it stays so. Two things have to be looked at. Where no token waits, the input of the
stream is at its end, and the two report this with different errors of the same kind.
And a token has a frame only if its length can be written, so from a token on that is
too long the two part.

That the tokens which were sent are those that the memory recorded is shown with a
second coupling, between the run that is observed and the one that is not.
-/
import GssContext.Proofs.Client.Coupled
import GssContext.Proofs.Frame.Wire
import Mathlib.Algebra.Group.Nat.Defs

set_option autoImplicit false

namespace GssContext

open GssContext.Action

/-! ## What was sent

Deeds and events of the memory both tell of tokens that were sent, in two types. What is
compared is the lists of these tokens. -/

/-- The token that was sent, if the deed is that one was. -/
def Deed.sent? {ν κ : Type} : Deed ν κ → Option Bytes
  | .sent token (.ok _) => some token
  | _ => none

/-- A deed, with nothing of an operation of the channel that failed but the kind of
failure. -/
def Deed.byKind {ν κ : Type} : Deed ν κ → Deed ν κ
  | .sent token result => .sent token (result.mapError TransportError.byKind)
  | .received result => .received (result.mapError TransportError.byKind)
  | deed => deed

namespace Rehearsal

/-- The token that was sent, if the event is that one was. -/
def Event.sent? : Event → Option Bytes
  | .sent token => some token
  | _ => none

/-! ## The channel in memory

The memory can be told to fail, and it can be closed. Neither is done here, and then it
is a queue: to send records, to receive takes what is first, and at the end there is an
error. -/

namespace Memory

/-- The channel is open and nothing is to fail. -/
structure Untroubled (memory : Memory) : Prop where
  isOpen : memory.isClosed = false
  sendFault : memory.sendFault = none
  receiveFault : memory.receiveFault = none

variable {memory : Memory}

/-- Every token is taken that says something, and what waits is not touched. -/
theorem Untroubled.run_send (h : memory.Untroubled) (token : Bytes) :
    ∃ after, (send token).run memory =
        (if token = [] then .error .emptyToken else .ok (), after) ∧
      after.Untroubled ∧ after.inbound = memory.inbound := by
  obtain ⟨inbound, isClosed, sendFault, receiveFault, closeFault, sends, receives⟩ := memory
  obtain ⟨rfl, rfl, rfl⟩ := h
  by_cases hempty : token = []
  · subst hempty
    exact ⟨_, rfl, ⟨rfl, rfl, rfl⟩, rfl⟩
  · obtain ⟨b, more, rfl⟩ := List.exists_cons_of_ne_nil hempty
    exact ⟨_, rfl, ⟨rfl, rfl, rfl⟩, rfl⟩

/-- The tokens are received in their order, and then there is the end. -/
theorem Untroubled.run_receive (h : memory.Untroubled) :
    ∃ after, receive.run memory =
        (match memory.inbound with
          | [] => .error (.io (.ofKind .unexpectedEof))
          | token :: _ => .ok token, after) ∧
      after.Untroubled ∧ after.inbound = memory.inbound.tail := by
  obtain ⟨inbound, isClosed, sendFault, receiveFault, closeFault, sends, receives⟩ := memory
  obtain ⟨rfl, rfl, rfl⟩ := h
  cases inbound with
  | nil => exact ⟨_, rfl, ⟨rfl, rfl, rfl⟩, rfl⟩
  | cons token rest => exact ⟨_, rfl, ⟨rfl, rfl, rfl⟩, rfl⟩

/-- A token is recorded exactly if sending it succeeds, in whatever state the channel is. -/
theorem recorded_send {ν κ : Type} (token : Bytes) (memory : Memory) :
    ((send token).events memory).filterMap Event.sent? =
      [(Deed.sent token ((send token).run memory).1 : Deed ν κ)].filterMap Deed.sent? := by
  obtain ⟨inbound, isClosed, sendFault, receiveFault, closeFault, sends, receives⟩ := memory
  simp only [send, events_bind, run_bind, run_state]
  cases Fault.hits? sendFault sends with
  | some e => rfl
  | none =>
    cases isClosed with
    | true => rfl
    | false => cases token <;> rfl

/-- What is received is nothing that was sent. -/
theorem recorded_receive (memory : Memory) :
    (receive.events memory).filterMap Event.sent? = [] := by
  obtain ⟨inbound, isClosed, sendFault, receiveFault, closeFault, sends, receives⟩ := memory
  simp only [receive, events_bind, run_state]
  cases Fault.hits? receiveFault receives with
  | some e => rfl
  | none =>
    cases isClosed with
    | true => rfl
    | false => cases inbound <;> rfl

end Memory

/-! ## Memory and stream in step

The invariant has five parts and is kept by every operation. Those of the provider touch
neither channel. To send adds to what is written, to receive takes from what is unread,
and both of these go through what is known of frames on a stream. -/

variable {ε ε' σ τ ν κ : Type}

/-- A run over a channel in memory and one over a stream have come to the same point. -/
structure InStep (holds : τ → Bytes → Bytes → Prop) (bound : Nat) (p : σ × Memory)
    (deeds : List (Deed ν κ)) (q : σ × τ) (deeds' : List (Deed ν κ)) : Prop where
  provider : p.1 = q.1
  untroubled : p.2.Untroubled
  /-- The reader of the stream admits what is still to come. -/
  fits : ∀ token ∈ p.2.inbound, token.length ≤ bound
  /-- What waits in memory is unread, and what was sent is written. -/
  wire : holds q.2 (p.2.inbound.flatMap Frame.encode)
    ((deeds.filterMap Deed.sent?).flatMap Frame.encode)
  deeds : deeds.map Deed.byKind = deeds'.map Deed.byKind

/-- The coupling of the two runs, as long as every token that is sent has a frame. -/
def inStep (holds : τ → Bytes → Bytes → Prop) (bound : Nat) :
    Coupling (Deed ν κ) (σ × Memory) (Deed ν κ) (σ × τ) where
  admits deed := ∀ token, deed.sent? = some token → token.length ≤ Frame.maxSendable
  holds := InStep holds bound

section

variable {holds : τ → Bytes → Bytes → Prop} {bound : Nat} {p : σ × Memory} {q : σ × τ}
  {deeds deeds' : List (Deed ν κ)}

/-- The runs stay in step if the next deed is the same in both, and sends nothing. -/
theorem InStep.silent (h : InStep holds bound p deeds q deeds') {memory : Memory} {t : τ}
    {deed deed' : Deed ν κ} (hkind : deed.byKind = deed'.byKind) (hsilent : deed.sent? = none)
    (huntroubled : memory.Untroubled) (hfits : ∀ token ∈ memory.inbound, token.length ≤ bound)
    (hwire : holds t (memory.inbound.flatMap Frame.encode)
      ((deeds.filterMap Deed.sent?).flatMap Frame.encode)) :
    InStep holds bound (p.1, memory) (deeds ++ [deed]) (q.1, t) (deeds' ++ [deed']) where
  provider := h.provider
  untroubled := huntroubled
  fits := hfits
  wire := by
    rw [List.filterMap_append, List.filterMap_cons_none hsilent, List.filterMap_nil,
      List.append_nil]
    exact hwire
  deeds := by
    rw [List.map_append, List.map_append, h.deeds, List.map_singleton, List.map_singleton, hkind]

/-- They do so too if a token is sent in both, and its frame is written. -/
theorem InStep.sent (h : InStep holds bound p deeds q deeds') {memory : Memory} {t : τ}
    {token : Bytes} (huntroubled : memory.Untroubled) (hinbound : memory.inbound = p.2.inbound)
    (hwire : holds t (p.2.inbound.flatMap Frame.encode)
      ((deeds.filterMap Deed.sent?).flatMap Frame.encode ++ Frame.encode token)) :
    InStep holds bound (p.1, memory) (deeds ++ [.sent token (.ok ())]) (q.1, t)
      (deeds' ++ [.sent token (.ok ())]) where
  provider := h.provider
  untroubled := huntroubled
  fits := by
    rw [hinbound]
    exact h.fits
  wire := by
    have hsent : [(Deed.sent token (.ok ()) : Deed ν κ)].filterMap Deed.sent? = [token] := rfl
    rw [hinbound, List.filterMap_append, List.flatMap_append, hsent, List.flatMap_singleton]
    exact hwire
  deeds := by rw [List.map_append, List.map_append, h.deeds]

/-- What the provider does is the same on both sides: it starts from the same state, and
the channel is no part of it. -/
theorem inStep_relates_told {α : Type} (x : Action ε σ α) (event : α → Deed ν κ)
    (hsilent : ∀ a, (event a).sent? = none) :
    (inStep holds bound : Coupling (Deed ν κ) (σ × Memory) (Deed ν κ) (σ × τ)).Relates Eq
      ((onFst x.quiet : Action Event (σ × Memory) α).told event)
      ((onFst x.quiet : Action ε' (σ × τ) α).told event) := by
  rintro ⟨w, memory⟩ deeds ⟨w', t⟩ deeds' h -
  obtain rfl : w = w' := h.provider
  rw [run_told, run_told, events_told, events_told, run_onFst, run_onFst, run_quiet, run_quiet]
  have h' : InStep holds bound ((x.run w).2, memory) deeds ((x.run w).2, t) deeds' :=
    ⟨rfl, h.untroubled, h.fits, h.wire, h.deeds⟩
  exact ⟨rfl, h'.silent rfl (hsilent _) h.untroubled h.fits h.wire⟩

variable {stream attempts : Stream (Action ε' τ)}

/-- A token is sent on both sides, or refused on both: one without bytes is refused by
either, and any other that a frame has room for is on the wire as its frame. -/
theorem inStep_relates_send (hduplex : stream.Duplex attempts holds) (token : Bytes) :
    (inStep holds bound : Coupling (Deed ν κ) (σ × Memory) (Deed ν κ) (σ × τ)).Relates
      (SameUpTo TransportError.byKind)
      ((onSnd (Memory.send token)).told (.sent token))
      ((onSnd (Frame.send stream token)).told (.sent token)) := by
  rintro ⟨w, memory⟩ deeds ⟨w', t⟩ deeds' h hadmits
  rw [events_told, List.forall_mem_singleton, run_onSnd] at hadmits
  rw [run_told, run_told, events_told, events_told, run_onSnd, run_onSnd]
  obtain ⟨after, hrun, huntroubled, hinbound⟩ := h.untroubled.run_send token
  rw [hrun] at hadmits ⊢
  by_cases hempty : token = []
  · -- a token without bytes is refused before anything is written
    subst hempty
    have hrefused : (Frame.send stream []).run t = (.error .emptyToken, t) := rfl
    rw [if_pos rfl, hrefused]
    refine ⟨.error rfl, h.silent rfl rfl huntroubled ?_ ?_⟩
    · rw [hinbound]
      exact h.fits
    · rw [hinbound]
      exact h.wire
  · rw [if_neg hempty] at hadmits ⊢
    -- the frame is written behind those that are there
    obtain ⟨hsent, hwire⟩ := Frame.run_send_ok (hduplex.accepts _) (hduplex.repeatsWrites _)
      h.wire ⟨hempty, hadmits token rfl⟩
    rw [hsent]
    exact ⟨.ok (), h.sent huntroubled hinbound hwire⟩

/-- A token that waits is received on both sides. Where none waits both are at the end. -/
theorem inStep_relates_receive (hduplex : stream.Duplex attempts holds)
    (hbound : bound ≤ Frame.maxSendable) :
    (inStep holds bound : Coupling (Deed ν κ) (σ × Memory) (Deed ν κ) (σ × τ)).Relates
      (SameUpTo TransportError.byKind)
      ((onSnd Memory.receive).told .received)
      ((onSnd (Frame.receive stream bound)).told .received) := by
  rintro ⟨w, memory⟩ deeds ⟨w', t⟩ deeds' h -
  rw [run_told, run_told, events_told, events_told, run_onSnd, run_onSnd]
  obtain ⟨after, hrun, huntroubled, hinbound⟩ := h.untroubled.run_receive
  have hfits := h.fits
  have hwire := h.wire
  dsimp only at hrun hinbound hfits hwire ⊢
  rw [hrun]
  cases hwaits : memory.inbound with
  | nil =>
    -- the stream is at its end, which it tells with an error of its own, of the same kind
    rw [hwaits] at hinbound hwire
    obtain ⟨hends, hstops⟩ := Frame.ends_nil bound
    obtain ⟨hreceived, hleft⟩ :=
      Frame.run_receive_stops (hduplex.delivers _) (hduplex.repeatsReads _) hends hstops hwire
    rw [hreceived]
    refine ⟨.error rfl, h.silent rfl rfl huntroubled ?_ ?_⟩
    · rw [hinbound]
      exact List.forall_mem_nil _
    · rw [hinbound]
      exact hleft
  | cons token rest =>
    rw [hwaits] at hinbound hfits hwire
    rw [List.flatMap_cons] at hwire
    obtain ⟨htoken, hrest⟩ := List.forall_mem_cons.mp hfits
    obtain ⟨hreceived, hleft⟩ := Frame.run_receive_encode (hduplex.delivers _)
      (hduplex.repeatsReads _) hbound htoken hwire
    rw [hreceived]
    refine ⟨.ok token, h.silent rfl rfl huntroubled ?_ ?_⟩
    · rw [hinbound]
      exact hrest
    · rw [hinbound]
      exact hleft

/-- The clock is read on both sides, and this leaves nothing. -/
theorem inStep_relates_quiet {α : Type} (x : Action ε σ α) :
    (inStep holds bound : Coupling (Deed ν κ) (σ × Memory) (Deed ν κ) (σ × τ)).Relates Eq
      ((onFst x.quiet : Action Event (σ × Memory) α).quiet)
      ((onFst x.quiet : Action ε' (σ × τ) α).quiet) := by
  rintro ⟨w, memory⟩ deeds ⟨w', t⟩ deeds' h -
  obtain rfl : w = w' := h.provider
  rw [run_quiet, run_quiet, events_quiet, events_quiet, List.append_nil, List.append_nil]
  rw [run_onFst, run_onFst, run_quiet, run_quiet]
  exact ⟨rfl, rfl, h.untroubled, h.fits, h.wire, h.deeds⟩

/-! ## All operations

The lemmas above, in the form in which a coupled program asks for them: one for each
operation of the mechanism, of the files and of the channel. -/

variable (surroundings : Client.Surroundings (Action ε σ)) (mechanism : Mechanism (Action ε σ) ν κ)

/-- The provider in the two runs. -/
theorem inStep_mechanism :
    Mechanism.Alike (inStep holds bound)
      (mechanism.muted : Mechanism (Action Event (σ × Memory)) ν κ).observed
      (mechanism.muted : Mechanism (Action ε' (σ × τ)) ν κ).observed where
  importName _ := inStep_relates_told _ _ fun _ => rfl
  initStep _ _ _ _ _ := inStep_relates_told _ _ fun _ => rfl
  wrap _ _ _ := inStep_relates_told _ _ fun _ => rfl
  verifyMic _ _ _ := inStep_relates_told _ _ fun _ => rfl
  inquire _ := inStep_relates_told _ _ fun _ => rfl
  namesFor _ := inStep_relates_told _ _ fun _ => rfl
  release _ := inStep_relates_told _ _ fun _ => rfl

/-- The files and the clock in the two runs. -/
theorem inStep_surroundings :
    Client.Surroundings.Alike
      (inStep holds bound : Coupling (Deed ν κ) (σ × Memory) (Deed ν κ) (σ × τ))
      (surroundings.muted : Client.Surroundings (Action Event (σ × Memory))).observed
      (surroundings.muted : Client.Surroundings (Action ε' (σ × τ))).observed where
  readFile _ := inStep_relates_told _ _ fun _ => rfl
  now := inStep_relates_quiet _

/-- The channels in the two runs. How the stream is closed makes no difference. -/
theorem inStep_channel (hduplex : stream.Duplex attempts holds) (hbound : bound ≤ Frame.maxSendable)
    (close : Action ε' τ (Except IoError Unit)) :
    Transport.Alike (inStep holds bound : Coupling (Deed ν κ) (σ × Memory) (Deed ν κ) (σ × τ))
      (Memory.channel.hoist onSnd).observed.toTransport
      (Channel.hoist onSnd ⟨Frame.transport stream bound, close⟩).observed.toTransport where
  send := inStep_relates_send hduplex
  receive := inStep_relates_receive hduplex hbound

end

/-! ## What the memory recorded

The frames that are written are told by deeds so far, and the claim speaks of what the
memory recorded. The two lists of tokens are the same in one and the same run, which is
again a coupling: the observed run beside the plain one. -/

/-- One run over a channel in memory, observed and not observed: the tokens that were sent
by the deeds of the one are those that the other recorded. -/
def recording : Coupling (Deed ν κ) (σ × Memory) Event (σ × Memory) where
  admits _ := True
  holds p deeds p' events :=
    p = p' ∧ deeds.filterMap Deed.sent? = events.filterMap Event.sent?

/-- An operation keeps it if what it is told to have sent is what it recorded. -/
theorem recording_relates {α : Type} (x : Action Event (σ × Memory) α) (event : α → Deed ν κ)
    (hrecorded : ∀ p, [event (x.run p).1].filterMap Deed.sent? =
      (x.events p).filterMap Event.sent?) :
    recording.Relates Eq (x.told event) x := by
  rintro p deeds _ events ⟨rfl, h⟩ -
  rw [run_told, events_told]
  refine ⟨rfl, rfl, ?_⟩
  rw [List.filterMap_append, List.filterMap_append, h, hrecorded]

theorem recording_relates_muted {α : Type} (x : Action ε σ α) (event : α → Deed ν κ)
    (hsilent : ∀ a, (event a).sent? = none) :
    recording.Relates Eq ((onFst x.quiet : Action Event (σ × Memory) α).told event)
      (onFst x.quiet) :=
  recording_relates _ event fun _ => by
    rw [List.filterMap_cons_none (hsilent _), events_onFst, events_quiet]
    rfl

/-- To look at the clock records nothing and is no deed. -/
theorem recording_relates_quiet {α : Type} (x : Action ε σ α) :
    (recording : Coupling (Deed ν κ) (σ × Memory) Event (σ × Memory)).Relates Eq
      ((onFst x.quiet : Action Event (σ × Memory) α).quiet) (onFst x.quiet) := by
  rintro p deeds _ events ⟨rfl, h⟩ -
  rw [run_quiet, events_quiet, events_onFst, events_quiet, List.append_nil, List.append_nil]
  exact ⟨rfl, rfl, h⟩

/-- So do all operations of the mechanism, -/
theorem recording_mechanism (mechanism : Mechanism (Action ε σ) ν κ) :
    Mechanism.Alike recording
      (mechanism.muted : Mechanism (Action Event (σ × Memory)) ν κ).observed mechanism.muted where
  importName _ := recording_relates_muted _ _ fun _ => rfl
  initStep _ _ _ _ _ := recording_relates_muted _ _ fun _ => rfl
  wrap _ _ _ := recording_relates_muted _ _ fun _ => rfl
  verifyMic _ _ _ := recording_relates_muted _ _ fun _ => rfl
  inquire _ := recording_relates_muted _ _ fun _ => rfl
  namesFor _ := recording_relates_muted _ _ fun _ => rfl
  release _ := recording_relates_muted _ _ fun _ => rfl

/-- those of the surroundings, -/
theorem recording_surroundings (surroundings : Client.Surroundings (Action ε σ)) :
    Client.Surroundings.Alike
      (recording : Coupling (Deed ν κ) (σ × Memory) Event (σ × Memory))
      (surroundings.muted : Client.Surroundings (Action Event (σ × Memory))).observed
      surroundings.muted where
  readFile _ := recording_relates_muted _ _ fun _ => rfl
  now := recording_relates_quiet _

/-- and those of the channel, of which one records. -/
theorem recording_channel :
    Transport.Alike (recording : Coupling (Deed ν κ) (σ × Memory) Event (σ × Memory))
      (Memory.channel.hoist onSnd).observed.toTransport
      (Memory.channel.hoist onSnd).toTransport where
  send token := by
    refine (recording_relates _ _ fun p => ?_).mono fun _ _ => SameUpTo.of_eq
    exact (Memory.recorded_send token p.2).symm
  receive := by
    refine (recording_relates _ _ fun p => ?_).mono fun _ _ => SameUpTo.of_eq
    exact (Memory.recorded_receive p.2).symm

/-! ## A program over memory and over frames

Both couplings are applied to a program that knows nothing of its channel. Negotiations
and exchanges are such programs, so the result is stated once, and read for the two. -/

/-- What the run of a program over a channel in memory tells of its run over another. -/
structure Tells {α : Type} (program : Client.Program ν κ α) (same : α → α → Prop)
    (surroundings : Client.Surroundings (Action ε σ)) (mechanism : Mechanism (Action ε σ) ν κ)
    (channel : Channel (Action ε' τ)) (holds : τ → Bytes → Bytes → Prop) (p : σ × Memory)
    (q : σ × τ) : Prop where
  /-- The results are the same. -/
  result : same ((program.through surroundings mechanism Memory.channel).run p).1
    ((program.through surroundings mechanism channel).run q).1
  /-- So is what is left of the provider. -/
  provider : ((program.through surroundings mechanism Memory.channel).run p).2.1 =
    ((program.through surroundings mechanism channel).run q).2.1
  /-- To observe the two changes nothing of them. -/
  observed :
    (program.observedThrough surroundings mechanism Memory.channel).run p =
        (program.through surroundings mechanism Memory.channel).run p ∧
      (program.observedThrough surroundings mechanism channel).run q =
        (program.through surroundings mechanism channel).run q
  /-- The same is asked of the provider and of the channel, in the same order, and what
  they give is the same up to the kinds of failures of the channel. -/
  deeds : ((program.observedThrough surroundings mechanism Memory.channel).events p).map
      Deed.byKind =
    ((program.observedThrough surroundings mechanism channel).events q).map Deed.byKind
  /-- The bytes that were written are the frames of the tokens that the memory recorded,
  and those that are unread are the frames of the tokens that it still has. -/
  wire : holds ((program.through surroundings mechanism channel).run q).2.2
    (((program.through surroundings mechanism Memory.channel).run p).2.2.inbound.flatMap
      Frame.encode)
    ((((program.through surroundings mechanism Memory.channel).events p).filterMap
      Event.sent?).flatMap Frame.encode)

section

variable {α : Type} {program : Client.Program ν κ α} {same : α → α → Prop}

/-- The tokens that the memory recorded are those of the deeds that sent some. -/
theorem recorded_of_coupled (hcoupled : program.Coupled same)
    (surroundings : Client.Surroundings (Action ε σ)) (mechanism : Mechanism (Action ε σ) ν κ)
    (p : σ × Memory) :
    ((program.observedThrough surroundings mechanism Memory.channel).events p).filterMap
        Deed.sent? =
      ((program.through surroundings mechanism Memory.channel).events p).filterMap Event.sent? := by
  have hrelates := hcoupled.relates (recording_surroundings surroundings) recording_channel
    (recording_mechanism mechanism)
  exact (hrelates p [] p [] ⟨rfl, rfl⟩ fun _ _ => trivial).2.2

/-- **Whatever knows nothing of its channel** does over memory what it does over frames.
The coupling needs to know that every token which is sent has a frame; that is asked of
what the memory recorded, and carried over to the deeds. -/
theorem tells_of_coupled (hcoupled : program.Coupled same)
    (surroundings : Client.Surroundings (Action ε σ)) (mechanism : Mechanism (Action ε σ) ν κ)
    {stream attempts : Stream (Action ε' τ)} {holds : τ → Bytes → Bytes → Prop}
    (hduplex : stream.Duplex attempts holds) (close : Action ε' τ (Except IoError Unit))
    {bound : Nat} (hbound : bound ≤ Frame.maxSendable) {memory : Memory}
    (huntroubled : memory.Untroubled) (hfits : ∀ token ∈ memory.inbound, token.length ≤ bound)
    {t : τ} (hwire : holds t (memory.inbound.flatMap Frame.encode) []) (w : σ)
    (hsendable : ∀ token ∈ ((program.through surroundings mechanism Memory.channel).events
      (w, memory)).filterMap Event.sent?, token.length ≤ Frame.maxSendable) :
    Tells program same surroundings mechanism ⟨Frame.transport stream bound, close⟩ holds
      (w, memory) (w, t) := by
  have hstart : InStep holds bound (w, memory) ([] : List (Deed ν κ)) (w, t) [] :=
    ⟨rfl, huntroubled, hfits, hwire, rfl⟩
  let framed : Channel (Action ε' τ) := ⟨Frame.transport stream bound, close⟩
  have hrelates : (inStep holds bound).Relates same
      (program.observedThrough surroundings mechanism Memory.channel)
      (program.observedThrough surroundings mechanism framed) :=
    hcoupled.relates (inStep_surroundings surroundings) (inStep_channel hduplex hbound close)
      (inStep_mechanism mechanism)
  -- the tokens that are sent were all recorded, so each of them has a frame
  have hrecorded := recorded_of_coupled hcoupled surroundings mechanism (w, memory)
  have hadmits : ∀ deed ∈ (program.observedThrough surroundings mechanism Memory.channel).events
      (w, memory), ∀ token, deed.sent? = some token → token.length ≤ Frame.maxSendable := by
    intro deed hdeed token hsent
    refine hsendable token ?_
    rw [← hrecorded]
    exact List.mem_filterMap.mpr ⟨deed, hdeed, hsent⟩
  obtain ⟨hresult, hended⟩ := hrelates _ _ _ _ hstart hadmits
  -- what was shown of the observed runs holds of the runs themselves
  have hmemory := hcoupled.run_observedThrough surroundings mechanism Memory.channel
  have hframed := hcoupled.run_observedThrough surroundings mechanism framed
  rw [hmemory, hframed] at hresult hended
  refine ⟨hresult, hended.provider, ⟨congrFun hmemory _, congrFun hframed _⟩, hended.deeds, ?_⟩
  rw [← hrecorded]
  exact hended.wire

end

/-- **A channel in memory refines to a framed stream.** Tokens wait in memory, and a stream
carries their frames, in any pieces and with interruptions, and then ends. A negotiation
and an exchange do the same over the one as over the other: they ask the provider for the
same, end with the same result up to the kinds of failures, and the bytes that are written
are the frames of the tokens that the memory recorded, in their order. Only a sent token
whose length does not fit in four bytes would make a difference. -/
theorem refines_frames (surroundings : Client.Surroundings (Action ε σ))
    (mechanism : Mechanism (Action ε σ) ν κ) {stream attempts : Stream (Action ε' τ)}
    {holds : τ → Bytes → Bytes → Prop} (hduplex : stream.Duplex attempts holds)
    (close : Action ε' τ (Except IoError Unit)) (bound : UInt32) {inbound : List Bytes}
    (hfits : ∀ token ∈ inbound, token.length ≤ bound.toNat) {t : τ}
    (hwire : holds t (inbound.flatMap Frame.encode) []) (w : σ) :
    let memory : Memory := { inbound }
    let framed : Channel (Action ε' τ) := ⟨Frame.transport stream bound.toNat, close⟩
    (∀ maxRounds target requested wanted,
      let program : Client.Program ν κ _ := .negotiation maxRounds target requested wanted
      (∀ token ∈ ((program.through surroundings mechanism Memory.channel).events
        (w, memory)).filterMap Event.sent?, token.length < 2 ^ 32) →
      Tells program (SameUpTo NegotiationError.byKind) surroundings mechanism framed holds
        (w, memory) (w, t)) ∧
    ∀ config request,
      let program : Client.Program ν κ _ := .exchange config request
      (∀ token ∈ ((program.through surroundings mechanism Memory.channel).events
        (w, memory)).filterMap Event.sent?, token.length < 2 ^ 32) →
      Tells program Client.Session.EndsAlike surroundings mechanism framed holds (w, memory)
        (w, t) := by
  intro memory framed
  -- both programs are coupled in the same way, and they differ in what their results are up
  -- to
  have hbound := Frame.toNat_le_maxSendable bound
  have huntroubled : memory.Untroubled := ⟨rfl, rfl, rfl⟩
  constructor
  · intro maxRounds target requested wanted program hshort
    exact tells_of_coupled (Client.Program.coupled_negotiation maxRounds target requested wanted)
      surroundings mechanism hduplex close hbound huntroubled hfits hwire w
      fun token htoken => Nat.le_of_lt_succ (hshort token htoken)
  · intro config request program hshort
    exact tells_of_coupled (Client.Program.coupled_exchange config request) surroundings
      mechanism hduplex close hbound huntroubled hfits hwire w
      fun token htoken => Nat.le_of_lt_succ (hshort token htoken)

/-- An empty token comes in and then the end, byte by byte and with interruptions. The
context is established, the message is sent, and no signature is received: in memory
because nothing waits, and from the pipe because it ended. -/
theorem framed_of_slow :
    let surroundings : Client.Surroundings (Action Event Scripted) :=
      ⟨fun _ => pure (.ok [1, 2]), pure ⟨.zero⟩⟩
    let program : Client.Program String Scripted.Context _ :=
      .exchange {} ⟨"svc", .empty, none, .file "note", true⟩
    let framed : Channel (Action Event Pipe) :=
      ⟨Frame.transport Pipe.stream (8 : UInt32).toNat, pure (.ok ())⟩
    let world : Scripted := { script := [.proceed [5], .complete [] .empty] }
    let memory : Memory := { inbound := [[]] }
    let pipe : Pipe :=
      { unread := [0, 0, 0, 0], reads := ⟨[.fails .interrupted], some 1⟩,
        writes := ⟨[.fails .interrupted], some 3⟩ }
    let ended := (program.through surroundings Scripted.mechanism framed).run (world, pipe)
    ((program.through surroundings Scripted.mechanism Memory.channel).run (world, memory)).1 =
        (.error (.receiving (.io (.ofKind .unexpectedEof))), .verifying) ∧
      ended.1 = (.error (.receiving (.io .endOfInput)), .verifying) ∧
      ended.2.2.written = Frame.encode [5] ++ Frame.encode (transparentWrap [1, 2] true) := by
  intro surroundings program framed world memory pipe ended
  have hpipe : pipe.Holds ([[]].flatMap Frame.encode) ∧ pipe.Takes [] :=
    ⟨⟨rfl, .of_interrupted (by decide)⟩, rfl, .of_interrupted (by decide), rfl, rfl, rfl⟩
  -- the run over the memory tells which tokens are sent, and they are short enough for
  -- frames
  have hrecorded : ((program.through surroundings Scripted.mechanism Memory.channel).events
      (world, memory)).filterMap Event.sent? = [[5], transparentWrap [1, 2] true] := by
    decide +kernel
  have hshort : ∀ token ∈ ((program.through surroundings Scripted.mechanism Memory.channel).events
      (world, memory)).filterMap Event.sent?, token.length < 2 ^ 32 := by
    rw [hrecorded]
    decide
  have hmemory : ((program.through surroundings Scripted.mechanism Memory.channel).run
      (world, memory)).1 = (.error (.receiving (.io (.ofKind .unexpectedEof))), .verifying) := by
    decide +kernel
  have htells : Tells program _ surroundings Scripted.mechanism framed
      (fun p unread wire => p.Holds unread ∧ p.Takes wire) (world, memory) (world, pipe) :=
    (refines_frames surroundings Scripted.mechanism Pipe.stream_duplex (pure (.ok ())) 8
      (by decide) hpipe world).2 {} ⟨"svc", .empty, none, .file "note", true⟩ hshort
  have hwritten := htells.wire.2.written
  rw [hrecorded] at hwritten
  refine ⟨hmemory, ?_, hwritten⟩
  decide +kernel

end Rehearsal

end GssContext
