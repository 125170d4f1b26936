/-
Negotiations and sessions keep every coupling.

A negotiation sees no more of a mechanism and of a transport than what their
operations give, and a session no more of its surroundings. So if each of these
operations keeps a coupling, the whole does (`Negotiation.relates_establish`,
`Client.Session.relates_exchange`), in one run as in the other, and the two end
with the same result up to the kinds of failed inputs and outputs. This holds of
every coupling: nothing is said here about what the operations do.

Each proof goes through the two programs side by side. At every point they have
the same values, except where something could not be carried; there they part from
the main way together, as both of them failed.
-/
import GssContext.Proofs.Client.Course
import GssContext.Proofs.Coupling

set_option autoImplicit false

namespace GssContext

open GssContext.Action

/-! ## Errors with no more than a kind

The text of a failed input or output depends on the transport, so two runs are compared
up to it. Where such an error is part of a larger one, it is cut down inside of that. -/

/-- A failed negotiation, with nothing of a failed input or output but its kind. -/
def NegotiationError.byKind : NegotiationError → NegotiationError
  | .transport error => .transport error.byKind
  | error => error

/-- A failed session, with nothing of a failed input or output of its channel but its
kind. -/
def Client.SessionError.byKind : SessionError → SessionError
  | .negotiation error => .negotiation error.byKind
  | .sending error => .sending error.byKind
  | .receiving error => .receiving error.byKind
  | error => error

section

variable {δ δ' σ τ ν κ : Type} {c : Coupling δ σ δ' τ} {mechanism : Mechanism (Action δ σ) ν κ}
  {mechanism' : Mechanism (Action δ' τ) ν κ} {transport : Transport (Action δ σ)}
  {transport' : Transport (Action δ' τ)}

/-! ## Contexts

An operation of a context asks the mechanism once at most. Whether it does depends on
what is held and on the state of the context, and both runs have the same context. -/

namespace SecurityContext

/-- A step asks the mechanism in any case. -/
theorem relates_initStep (h : mechanism.Alike c mechanism') (ctx : SecurityContext κ) (target : ν)
    (wanted : Option Oid) (flags : Flags) (input : Option Bytes) :
    c.Relates Eq (ctx.initStep mechanism target wanted flags input)
      (ctx.initStep mechanism' target wanted flags input) :=
  .bind_same (h.initStep _ _ _ _ _) fun _ => .pure rfl

/-- To inquire asks it if there is a context. -/
theorem relates_inquire (h : mechanism.Alike c mechanism') (ctx : SecurityContext κ) :
    c.Relates Eq (ctx.inquire mechanism) (ctx.inquire mechanism') := by
  unfold inquire
  cases ctx.handle with
  | none => exact .pure rfl
  | some handle => exact h.inquire handle

/-- To close asks it if there is one to be given back. -/
theorem relates_release (h : mechanism.Alike c mechanism') (ctx : SecurityContext κ) :
    c.Relates Eq (ctx.release mechanism) (ctx.release mechanism') := by
  unfold release
  cases ctx.handle with
  | none => exact .pure rfl
  | some handle => exact .bind_same (h.release handle) fun _ => .note_bind (.pure rfl)

/-- To protect a message asks the mechanism if the context is open. The states of the
two contexts are the same, so both are asked or neither is. -/
theorem relates_protect (h : mechanism.Alike c mechanism') (ctx : SecurityContext κ)
    (message : Bytes) (confidential : Bool) :
    c.Relates Eq (ctx.protect mechanism message confidential)
      (ctx.protect mechanism' message confidential) := by
  unfold protect
  cases ctx.openHandle with
  | error e => exact .pure rfl
  | ok handle =>
    refine .bind_same (h.wrap handle message confidential) ?_
    rintro ⟨status | wrapped, after⟩
    · exact .pure rfl
    · dsimp only
      -- whether a warning is noted depends on the value, and that is the same
      by_cases hunsealed : (confidential && !wrapped.confidential) = true
      · rw [if_pos hunsealed, if_pos hunsealed]
        exact .note_bind (.note_bind (.pure rfl))
      · rw [if_neg hunsealed, if_neg hunsealed]
        exact .note_bind (.pure rfl)

/-- And so does verifying a code. -/
theorem relates_verify (h : mechanism.Alike c mechanism') (ctx : SecurityContext κ)
    (message token : Bytes) :
    c.Relates Eq (ctx.verify mechanism message token) (ctx.verify mechanism' message token) := by
  unfold verify
  cases ctx.openHandle with
  | error e => exact .pure rfl
  | ok handle =>
    refine .bind_same (h.verifyMic handle message token) ?_
    rintro ⟨status | ⟨⟩, after⟩
    · exact .pure rfl
    · exact .note_bind (.pure rfl)

end SecurityContext

/-! ## A negotiation

Here the transport comes in, and with it values that are the same only up to kinds.
Where an operation of the transport failed in one run it failed in the other, and both
are abandoned with an error of the same kind. -/

namespace Negotiation

/-- A token is sent in both runs or in none. -/
theorem relates_sendOutput (h : transport.Alike c transport') (output : Bytes) :
    c.Relates (SameUpTo TransportError.byKind) (sendOutput transport output)
      (sendOutput transport' output) := by
  unfold sendOutput
  by_cases hempty : output = []
  · rw [if_pos hempty, if_pos hempty]
    exact .pure (.ok ())
  · rw [if_neg hempty, if_neg hempty]
    exact .note_bind (h.send output)

/-- A token is received in both, and if it comes it is the same. -/
theorem relates_receiveInput (h : transport.Alike c transport') :
    c.Relates (SameUpTo TransportError.byKind) (receiveInput transport)
      (receiveInput transport') := by
  refine .bind h.receive ?_
  rintro _ _ (hkind | token)
  · exact .pure (.error hkind)
  · exact .note_bind (.pure (.ok token))

/-- What is abandoned is closed in both runs. The errors may differ by what is not
looked at. -/
theorem relates_abandon (h : mechanism.Alike c mechanism') (ctx : SecurityContext κ)
    {e e' : NegotiationError} (hkind : e.byKind = e'.byKind) :
    c.Relates (SameUpTo NegotiationError.byKind) (abandon mechanism ctx e)
      (abandon mechanism' ctx e') :=
  .bind_same (ctx.relates_release h) fun _ => .pure (.error hkind)

/-- Both run out of rounds at the same time. -/
theorem relates_exhausted (h : mechanism.Alike c mechanism') (request : Request ν)
    (ctx : SecurityContext κ) :
    c.Relates (SameUpTo NegotiationError.byKind) (exhausted mechanism request ctx)
      (exhausted mechanism' request ctx) :=
  .note_bind (relates_abandon h ctx rfl)

/-- Both succeed at the same time. -/
theorem relates_finished (request : Request ν) (ctx : SecurityContext κ) (round : Nat)
    (granted : Flags) :
    c.Relates (SameUpTo NegotiationError.byKind) (finished request ctx round granted)
      (finished request ctx round granted) := by
  unfold finished
  by_cases hmissing : granted.missingFrom request.flags ≠ .empty
  · simp only [if_pos hmissing]
    exact .note_bind (.note_bind (.pure (.ok _)))
  · simp only [if_neg hmissing]
    exact .note_bind (.pure (.ok _))

/-- The rounds that are left keep the coupling, whatever they start from. The induction
is on these rounds, and in each of them the two runs go the same way, since what they go
by is coupled. -/
theorem relates_rounds (hmechanism : mechanism.Alike c mechanism')
    (htransport : transport.Alike c transport') (request : Request ν) (left round : Nat)
    (input : Option Bytes) (ctx : SecurityContext κ) :
    c.Relates (SameUpTo NegotiationError.byKind)
      (rounds mechanism transport request left round input ctx)
      (rounds mechanism' transport' request left round input ctx) := by
  -- both runs are in the same round, with the same token to answer and the same context
  induction left generalizing round input ctx with
  | zero => exact relates_exhausted hmechanism request ctx
  | succ left ih =>
    unfold rounds
    refine .bind_same (ctx.relates_initStep hmechanism _ _ _ input) ?_
    rintro ⟨step, ctx⟩
    refine .note_bind (.bind (relates_sendOutput htransport step.output) ?_)
    rintro _ _ (hkind | _)
    · exact relates_abandon hmechanism ctx (congrArg NegotiationError.transport hkind)
    · dsimp only
      cases step.status with
      | failure status => exact relates_abandon hmechanism ctx rfl
      | complete => exact relates_finished request ctx round step.granted
      | continueNeeded =>
        dsimp only
        by_cases hleft : left = 0
        · rw [if_pos hleft, if_pos hleft]
          exact relates_exhausted hmechanism request ctx
        · rw [if_neg hleft, if_neg hleft]
          refine .bind (relates_receiveInput htransport) ?_
          rintro _ _ (hkind | token)
          · exact relates_abandon hmechanism ctx (congrArg NegotiationError.transport hkind)
          · exact ih (round + 1) (some token) ctx

/-- **A negotiation keeps every coupling** that its mechanism and its transport keep. -/
theorem relates_establish (hmechanism : mechanism.Alike c mechanism')
    (htransport : transport.Alike c transport') (maxRounds : Nat) (target : String)
    (requested : Flags) (wanted : Option Oid) :
    c.Relates (SameUpTo NegotiationError.byKind)
      (establish mechanism transport maxRounds target requested wanted)
      (establish mechanism' transport' maxRounds target requested wanted) := by
  refine .bind_same (hmechanism.importName target) ?_
  rintro (status | name)
  · exact .pure (.error rfl)
  · exact .note_bind (relates_rounds hmechanism htransport _ maxRounds 1 none .new)

end Negotiation

end

/-! ## A session

A session adds the files, the clock and the messages. What each of its parts leaves is
compared up to kinds, and the states and the contexts are the same throughout. -/

namespace Client.Session

variable {δ δ' σ τ ν κ : Type} {c : Coupling δ σ δ' τ} {mechanism : Mechanism (Action δ σ) ν κ}
  {mechanism' : Mechanism (Action δ' τ) ν κ} {surroundings : Surroundings (Action δ σ)}
  {surroundings' : Surroundings (Action δ' τ)} {channel : Channel (Action δ σ)}
  {channel' : Channel (Action δ' τ)}

/-- Two stages of a session ended alike: with the same result up to kinds, and with the same
of all that it leaves, the state that it ended in and the context if there is one. -/
def EndsAlike {α β : Type} (ended ended' : Except SessionError α × β) : Prop :=
  SameUpTo SessionError.byKind ended.1 ended'.1 ∧ ended.2 = ended'.2

/-- What is noted keeps every coupling, by induction on the names. -/
theorem relates_noteNames (names : List Oid) :
    c.Relates Eq (noteNames names : Action δ σ Unit) (noteNames names : Action δ' τ Unit) := by
  unfold noteNames
  induction names.zipIdx with
  | nil => exact .pure rfl
  | cons name rest ih => exact .note_bind ih

/-- Both contexts are described alike. -/
theorem relates_describe (hsurroundings : surroundings.Alike c surroundings')
    (hmechanism : mechanism.Alike c mechanism') (ctx : SecurityContext κ) :
    c.Relates Eq (describe surroundings mechanism ctx) (describe surroundings' mechanism' ctx) := by
  refine .bind_same (ctx.relates_inquire hmechanism) ?_
  rintro (status | info)
  · exact .pure rfl
  · refine .bind_same hsurroundings.now fun now => .note_bind ?_
    refine .bind_same (hmechanism.namesFor info.mechanism) ?_
    rintro (status | names)
    · exact .pure rfl
    · exact .note_bind (.bind_same (relates_noteNames names) fun _ => .pure rfl)

theorem relates_load (hsurroundings : surroundings.Alike c surroundings') (payload : Payload) :
    c.Relates Eq (payload.load surroundings) (payload.load surroundings') := by
  cases payload with
  | literal text => exact .pure rfl
  | file path => exact hsurroundings.readFile path

/-- Both messages are sent, or both are not. -/
theorem relates_sendMessage (hchannel : channel.toTransport.Alike c channel'.toTransport)
    (hmechanism : mechanism.Alike c mechanism') (ctx : SecurityContext κ) (message : Bytes)
    (confidential : Bool) :
    c.Relates EndsAlike (sendMessage channel mechanism ctx message confidential)
      (sendMessage channel' mechanism' ctx message confidential) := by
  refine .bind_same (ctx.relates_protect hmechanism message confidential) ?_
  rintro ⟨e | wrapped, ctx⟩
  · exact .pure ⟨.error rfl, rfl⟩
  · refine .bind (hchannel.send wrapped.token) ?_
    rintro _ _ (hkind | _)
    · exact .pure ⟨.error (congrArg SessionError.sending hkind), rfl⟩
    · exact .pure ⟨.ok _, rfl⟩

/-- Both signatures are verified, or both are not. -/
theorem relates_receiveSignature (hchannel : channel.toTransport.Alike c channel'.toTransport)
    (hmechanism : mechanism.Alike c mechanism') (ctx : SecurityContext κ) (message : Bytes) :
    c.Relates EndsAlike (receiveSignature channel mechanism ctx message)
      (receiveSignature channel' mechanism' ctx message) := by
  refine .bind hchannel.receive ?_
  rintro _ _ (hkind | signature)
  · exact .pure ⟨.error (congrArg SessionError.receiving hkind), rfl⟩
  · refine .bind_same (ctx.relates_verify hmechanism message signature) ?_
    rintro ⟨e | ⟨⟩, ctx⟩
    · exact .pure ⟨.error rfl, rfl⟩
    · exact .note_bind (.pure ⟨.ok _, rfl⟩)

/-- What happens under a context happens alike. Up to the message the values are the
same, so the two can only part when the channel fails, and then both stop. -/
theorem relates_converse (hsurroundings : surroundings.Alike c surroundings')
    (hchannel : channel.toTransport.Alike c channel'.toTransport)
    (hmechanism : mechanism.Alike c mechanism') (request : Request) (ctx : SecurityContext κ) :
    c.Relates EndsAlike (converse surroundings channel mechanism request ctx)
      (converse surroundings' channel' mechanism' request ctx) := by
  refine .bind_same (relates_describe hsurroundings hmechanism ctx) ?_
  rintro (e | info)
  · exact .pure ⟨.error rfl, rfl⟩
  · refine .bind_same (relates_load hsurroundings request.payload) ?_
    rintro (e | message)
    · exact .pure ⟨.error rfl, rfl⟩
    · refine .bind (relates_sendMessage hchannel hmechanism ctx message request.sealed) ?_
      rintro ⟨_, state, ctx'⟩ ⟨_, _, _⟩ ⟨hkind | wasConfidential, ⟨⟩⟩
      · exact .pure ⟨.error hkind, rfl⟩
      · refine .bind (relates_receiveSignature hchannel hmechanism ctx' message) ?_
        rintro ⟨_, state, ctx''⟩ ⟨_, _, _⟩ ⟨hkind | _, ⟨⟩⟩
        · exact .pure ⟨.error hkind, rfl⟩
        · exact .pure ⟨.ok _, rfl⟩

/-- **An exchange keeps every coupling** that its surroundings, its channel and its
mechanism keep. The connection is not closed in an exchange, so of the channel no more
is asked than that it carries tokens. -/
theorem relates_exchange (hsurroundings : surroundings.Alike c surroundings')
    (hchannel : channel.toTransport.Alike c channel'.toTransport)
    (hmechanism : mechanism.Alike c mechanism') (config : Config) (request : Request) :
    c.Relates EndsAlike (exchange surroundings channel mechanism config request)
      (exchange surroundings' channel' mechanism' config request) := by
  refine .bind (Negotiation.relates_establish hmechanism hchannel _ _ _ _) ?_
  -- there is no context in either run, or they go on with the same one
  rintro _ _ (hkind | ctx)
  · exact .pure ⟨.error (congrArg SessionError.negotiation hkind), rfl⟩
  · refine .note_bind (.bind (relates_converse hsurroundings hchannel hmechanism request ctx) ?_)
    rintro ⟨result, state, ctx'⟩ ⟨result', _, _⟩ ⟨hsame, ⟨⟩⟩
    exact .bind_same (ctx'.relates_release hmechanism) fun _ => .pure ⟨hsame, rfl⟩

end Client.Session

/-! ## Programs for any operations

The two results have the same form, so they are stated once, of programs. A `Program` is
written for every monad with its operations as arguments, and it is `Coupled` if it
keeps couplings and does not see whether it is observed. That it must is what its type
suggests, but Lean does not know it; for negotiations and exchanges it has just been
shown. -/

namespace Client

/-- Files and a clock on the first part of the state, whose entries are kept back. -/
def Surroundings.muted {ε δ σ τ : Type} (surroundings : Surroundings (Action ε σ)) :
    Surroundings (Action δ (σ × τ)) where
  readFile path := onFst (surroundings.readFile path).quiet
  now := onFst surroundings.now.quiet

end Client

/-- A mechanism on the first part of the state, whose entries are kept back. -/
def Mechanism.muted {ε δ σ τ ν κ : Type} (mechanism : Mechanism (Action ε σ) ν κ) :
    Mechanism (Action δ (σ × τ)) ν κ := mechanism.hoist fun x => onFst x.quiet

namespace Client

/-- A program that is given surroundings, a channel and a mechanism, and knows nothing
of how they work. -/
def Program (ν κ α : Type) : Type 1 :=
  (m : Type → Type) → [Monad m] → [Journal m] → Surroundings m → Channel m → Mechanism m ν κ → m α

namespace Program

variable {ε δ σ τ ν κ α : Type}

/-- The program with its channel on a part of the state of its own. The entries are those
of the channel. -/
def through (program : Program ν κ α) (surroundings : Surroundings (Action ε σ))
    (mechanism : Mechanism (Action ε σ) ν κ) (channel : Channel (Action δ τ)) :
    Action δ (σ × τ) α :=
  program _ surroundings.muted (channel.hoist onSnd) mechanism.muted

/-- The same, and all that is done is observed. -/
def observedThrough (program : Program ν κ α) (surroundings : Surroundings (Action ε σ))
    (mechanism : Mechanism (Action ε σ) ν κ) (channel : Channel (Action δ τ)) :
    Action (Deed ν κ) (σ × τ) α :=
  let beside : Channel (Action δ (σ × τ)) := channel.hoist onSnd
  let surroundings : Surroundings (Action δ (σ × τ)) := surroundings.muted
  let mechanism : Mechanism (Action δ (σ × τ)) ν κ := mechanism.muted
  program _ surroundings.observed beside.observed mechanism.observed

/-- The program is one and the same for all operations that it is given. -/
structure Coupled (program : Program ν κ α) (same : α → α → Prop) : Prop where
  /-- It keeps the couplings that they keep. -/
  relates : ∀ {δ δ' σ τ : Type} {c : Coupling δ σ δ' τ} {surroundings : Surroundings (Action δ σ)}
    {surroundings' : Surroundings (Action δ' τ)} {channel : Channel (Action δ σ)}
    {channel' : Channel (Action δ' τ)} {mechanism : Mechanism (Action δ σ) ν κ}
    {mechanism' : Mechanism (Action δ' τ) ν κ},
    surroundings.Alike c surroundings' → channel.toTransport.Alike c channel'.toTransport →
    mechanism.Alike c mechanism' →
    c.Relates same (program _ surroundings channel mechanism)
      (program _ surroundings' channel' mechanism')
  /-- It does not see whether they are observed. -/
  observed : ∀ {ε σ : Type} (surroundings : Surroundings (Action ε σ))
    (channel : Channel (Action ε σ)) (mechanism : Mechanism (Action ε σ) ν κ),
    (program _ surroundings.observed channel.observed mechanism.observed).run =
      (program _ surroundings channel mechanism).run

/-- A negotiation, as such a program. -/
def negotiation (maxRounds : Nat) (target : String) (requested : Flags) (wanted : Option Oid) :
    Program ν κ (Except NegotiationError (SecurityContext κ)) := fun _ _ _ _ channel mechanism =>
  Negotiation.establish mechanism channel.toTransport maxRounds target requested wanted

/-- The exchange of a session, as such a program. -/
def exchange (config : Config) (request : Request) :
    Program ν κ (Except SessionError Achievement × SessionState) :=
  fun _ _ _ surroundings channel mechanism =>
    Session.exchange surroundings channel mechanism config request

/-- To observe a program changes nothing of it. -/
theorem Coupled.run_observedThrough {program : Program ν κ α} {same : α → α → Prop}
    (h : program.Coupled same) (surroundings : Surroundings (Action ε σ))
    (mechanism : Mechanism (Action ε σ) ν κ) (channel : Channel (Action δ τ)) :
    (program.observedThrough surroundings mechanism channel).run =
      (program.through surroundings mechanism channel).run :=
  h.observed _ _ _

/-- A negotiation is such a program. -/
theorem coupled_negotiation (maxRounds : Nat) (target : String) (requested : Flags)
    (wanted : Option Oid) :
    (negotiation maxRounds target requested wanted : Program ν κ _).Coupled
      (SameUpTo NegotiationError.byKind) where
  relates _ hchannel hmechanism :=
    Negotiation.relates_establish hmechanism hchannel maxRounds target requested wanted
  observed _ channel mechanism :=
    Negotiation.run_establish_observed mechanism channel.toTransport maxRounds target requested
      wanted

/-- And so is the exchange of a session. -/
theorem coupled_exchange (config : Config) (request : Request) :
    (exchange config request : Program ν κ _).Coupled Session.EndsAlike where
  relates hsurroundings hchannel hmechanism :=
    Session.relates_exchange hsurroundings hchannel hmechanism config request
  observed surroundings channel mechanism :=
    Session.run_exchange_observed surroundings channel mechanism config request

end Program

end Client

end GssContext
