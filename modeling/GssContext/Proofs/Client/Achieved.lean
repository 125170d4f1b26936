/-
What was done if a session succeeds.

A session that succeeds went past everything that could have stopped it. So its
success is taken apart from the end: whatever a program did after a part of it
is what it does with the value of that part, and a part that failed would have
ended it another way. `Action.Gives` is what is taken apart, with one lemma for
each way in which a program is put together.

What comes out is the list of all that was done, with nothing left open but the
values that the mechanism, the other side and the surroundings gave. Each value
of the mechanism is one that it gives for what it was asked.
-/
import GssContext.Proofs.Client.Course

set_option autoImplicit false

namespace GssContext

namespace Action

variable {ε δ σ α β : Type}

/-! ## What an action gave

A success is known only by its value and by the events it left. In which state each part
was run is not known, nor is it needed: that there was such a state is all that `Gives`
says, so the parts of a program can be taken off without carrying the states along. -/

/-- In some state the action gives this value and leaves these events. -/
def Gives (x : Action δ σ α) (a : α) (events : List δ) : Prop :=
  ∃ s, (x.run s).1 = a ∧ x.events s = events

/-- In some state the action gives this value. -/
def CanGive (x : Action ε σ α) (a : α) : Prop := ∃ s, (x.run s).1 = a

namespace Gives

variable {x : Action ε σ α} {a : α} {b : β} {event : α → δ} {events : List δ}

/-- What is returned was given, and nothing was done. -/
theorem of_pure {a' : α} (h : (pure a' : Action δ σ α).Gives a events) :
    a = a' ∧ events = [] := by
  obtain ⟨s, rfl, rfl⟩ := h
  exact ⟨rfl, rfl⟩

/-- The first part gave a value, and what follows it gave the rest. -/
theorem of_bind {x : Action δ σ α} {f : α → Action δ σ β} (h : (x >>= f).Gives b events) :
    ∃ a first later, x.Gives a first ∧ (f a).Gives b later ∧ events = first ++ later := by
  obtain ⟨s, rfl, rfl⟩ := h
  exact ⟨_, _, _, ⟨s, rfl, rfl⟩, ⟨_, rfl, rfl⟩, events_bind x f s⟩

theorem of_note_bind {line : LogLine} {f : Unit → Action δ σ β}
    (h : (note line >>= f).Gives b events) : (f ()).Gives b events := by
  obtain ⟨s, rfl, rfl⟩ := h
  exact ⟨s, rfl, rfl⟩

theorem of_told (h : (x.told event).Gives a events) : x.CanGive a ∧ events = [event a] := by
  obtain ⟨s, rfl, rfl⟩ := h
  rw [run_told, events_told]
  exact ⟨⟨s, rfl⟩, rfl⟩

/-- An operation left its event, and what follows it left the others. -/
theorem of_told_bind {f : α → Action δ σ β} (h : (x.told event >>= f).Gives b events) :
    ∃ a later, x.CanGive a ∧ (f a).Gives b later ∧ events = event a :: later := by
  obtain ⟨a, first, later, hx, hf, rfl⟩ := of_bind h
  obtain ⟨hgives, rfl⟩ := of_told hx
  exact ⟨a, later, hgives, hf, rfl⟩

theorem leaves {x : Action δ σ α} {P : α → List δ → Prop} (h : x.Gives a events)
    (hx : x.Leaves P) : P a events := by
  obtain ⟨s, rfl, rfl⟩ := h
  exact hx s

/-- What is kept back leaves only its value. -/
theorem of_quiet_bind {f : α → Action δ σ β} (h : (x.quiet >>= f).Gives b events) :
    ∃ a, (f a).Gives b events := by
  have hquiet : (x.quiet >>= f).Leaves fun b events => ∃ a, (f a).Gives b events :=
    .quiet_bind fun a s => ⟨a, s, rfl, rfl⟩
  exact h.leaves hquiet

end Gives

end Action

variable {ε σ ν κ : Type}

/-! ## Establishing

Only a step that completes establishes a context. So a round that succeeds is the last
one or leads to another that does; all other ways out of it end with an error, and an
error is no context. -/

namespace Negotiation

variable {mechanism : Mechanism (Action ε σ) ν κ} {transport : Transport (Action ε σ)}
  {request : Request ν} {ctx opened : SecurityContext κ} {deeds : List (Deed ν κ)}

/-- The deed of sending a token that arrives, if there is one. -/
def carried (token : Bytes) : List (Deed ν κ) := if token = [] then [] else [.sent token (.ok ())]

/-- A token that was sent well left one deed if it was there, and none if it was empty. -/
theorem sendOutput_gives {output : Bytes}
    (h : (sendOutput transport.observed output : Action (Deed ν κ) σ _).Gives (.ok ()) deeds) :
    deeds = carried output := by
  rw [sendOutput] at h
  rw [carried]
  by_cases hempty : output = []
  · rw [if_pos hempty] at h ⊢
    exact h.of_pure.2
  · rw [if_neg hempty] at h ⊢
    exact h.of_note_bind.of_told.2

/-- **The rounds of a negotiation that succeeds.** The first of them is the last one,
or a token is received and the others go on with it. -/
theorem rounds_gives {left round : Nat} {input : Option Bytes}
    (h : (rounds mechanism.observed transport.observed request left round input ctx).Gives
      (.ok opened) deeds) :
    ∃ step after later, (mechanism.initStep ctx.handle request.target request.wanted
        request.flags input).CanGive (step, after) ∧
      deeds = .stepped ⟨ctx.handle, request.target, request.wanted, request.flags, input, step,
        after⟩ :: (carried step.output ++ later) ∧
      ((step.status = .complete ∧ opened = (ctx.stepped after).opened step.granted ∧
          later = []) ∨
        ∃ left' token rest, step.status = .continueNeeded ∧ later = .received (.ok token) :: rest ∧
          (rounds mechanism.observed transport.observed request left' (round + 1) (some token)
            (ctx.stepped after)).Gives (.ok opened) rest) := by
  cases left with
  -- whatever is abandoned ends with an error, here and below
  | zero => cases (h.of_note_bind.leaves (abandon_leaves ctx _)).1
  | succ left =>
    obtain ⟨⟨step, stepped⟩, _, _, hstep, hround, rfl⟩ := h.of_bind
    obtain ⟨⟨_, after⟩, _, hgives, hstepped, rfl⟩ := hstep.of_told_bind
    obtain ⟨⟨⟩, rfl⟩ := hstepped.of_pure
    obtain ⟨sent, _, later, hsent, hthen, rfl⟩ := hround.of_note_bind.of_bind
    cases sent with
    | error e => cases (hthen.leaves (abandon_leaves _ _)).1
    | ok =>
      obtain rfl := sendOutput_gives hsent
      refine ⟨step, after, later, hgives, rfl, ?_⟩
      dsimp only at hthen
      cases hstatus : step.status with
      | failure status =>
        rw [hstatus] at hthen
        cases (hthen.leaves (abandon_leaves _ _)).1
      | complete =>
        rw [hstatus] at hthen
        obtain ⟨hopened, hnone⟩ := hthen.leaves (finished_leaves _ _ _ _)
        exact .inl ⟨rfl, Except.ok.inj hopened, hnone⟩
      | continueNeeded =>
        rw [hstatus] at hthen
        dsimp only at hthen
        by_cases hleft : left = 0
        · rw [if_pos hleft] at hthen
          cases (hthen.of_note_bind.leaves (abandon_leaves _ _)).1
        · rw [if_neg hleft] at hthen
          obtain ⟨received, _, rest, hreceived, hrest, rfl⟩ := hthen.of_bind
          obtain rfl := hreceived.leaves receiveInput_leaves
          cases received with
          | error e => cases (hrest.leaves (abandon_leaves _ _)).1
          | ok token => exact .inr ⟨left, token, rest, rfl, rfl, hrest⟩

end Negotiation

/-! ## Messages under a context

A message that was protected was so under an open context, and by the mechanism. The
journal has a warning in it if the token is not confidential though that was asked for;
for the deeds this makes no difference. -/

section

variable {mechanism : Mechanism (Action ε σ) ν κ} {ctx ctx' : SecurityContext κ}
  {deeds : List (Deed ν κ)}

/-- A message was wrapped: the mechanism did it, and the context holds what that left. -/
theorem SecurityContext.protect_gives {message : Bytes} {confidential : Bool} {wrapped : Wrapped}
    (h : (ctx.protect mechanism.observed message confidential).Gives (.ok wrapped, ctx') deeds) :
    ∃ before after, ctx.handle = some before ∧ ctx' = { ctx with handle := some after } ∧
      (mechanism.wrap before message confidential).CanGive (.ok wrapped, after) ∧
      deeds = [.wrapped before message confidential (.ok wrapped) after] := by
  rw [protect] at h
  cases hopen : ctx.openHandle with
  | error e =>
    rw [hopen] at h
    cases h.of_pure.1
  | ok before =>
    rw [hopen] at h
    obtain ⟨⟨result, after⟩, later, hgives, hthen, rfl⟩ := h.of_told_bind
    cases result with
    | error status => cases hthen.of_pure.1
    | ok made =>
      have hmade : ((.ok wrapped, ctx') : Except ProtectionError Wrapped × SecurityContext κ) =
          (.ok made, { ctx with handle := some after }) ∧ later = [] := by
        dsimp only at hthen
        split at hthen
        · exact hthen.of_note_bind.of_note_bind.of_pure
        · exact hthen.of_note_bind.of_pure
      obtain ⟨⟨⟩, rfl⟩ := hmade
      exact ⟨before, after, (openHandle_eq_ok_iff.mp hopen).2, rfl, hgives, rfl⟩

/-- A code was verified: the mechanism did it. -/
theorem SecurityContext.verify_gives {message token : Bytes}
    (h : (ctx.verify mechanism.observed message token).Gives (.ok (), ctx') deeds) :
    ∃ before after, ctx.handle = some before ∧ ctx' = { ctx with handle := some after } ∧
      (mechanism.verifyMic before message token).CanGive (.ok (), after) ∧
      deeds = [.verified before message token (.ok ()) after] := by
  rw [verify] at h
  cases hopen : ctx.openHandle with
  | error e =>
    rw [hopen] at h
    cases h.of_pure.1
  | ok before =>
    rw [hopen] at h
    obtain ⟨⟨result, after⟩, later, hgives, hthen, rfl⟩ := h.of_told_bind
    cases result with
    | error status => cases hthen.of_pure.1
    | ok _ =>
      obtain ⟨⟨⟩, rfl⟩ := hthen.of_note_bind.of_pure
      exact ⟨before, after, (openHandle_eq_ok_iff.mp hopen).2, rfl, hgives, rfl⟩

end

namespace Client

/-- All that is done under a context in a session that succeeds, with what was
given: by the mechanism, by the surroundings and by the other side. -/
structure Conversation (κ : Type) where
  before : κ
  info : ContextInfo
  names : List Oid
  message : Bytes
  wrapped : Wrapped
  between : κ
  signature : Bytes
  after : κ

namespace Conversation

/-- How the message was come by: what is written out is not read. -/
def loads (payload : Payload) (message : Bytes) : List (Deed ν κ) :=
  match payload with
  | .literal _ => []
  | .file path => [.loaded path (.ok message)]

/-- What is done, in its order. -/
def deeds (request : Request) (c : Conversation κ) : List (Deed ν κ) :=
  [.inquired c.before (.ok c.info), .named c.info.mechanism (.ok c.names)] ++
    (loads request.payload c.message ++
      [.wrapped c.before c.message request.sealed (.ok c.wrapped) c.between,
        .sent c.wrapped.token (.ok ()), .received (.ok c.signature),
        .verified c.between c.message c.signature (.ok ()) c.after])

/-- The values are those that are given: the mechanism's are its own, and the
message is the payload. -/
structure Given (mechanism : Mechanism (Action ε σ) ν κ) (request : Request)
    (c : Conversation κ) : Prop where
  inquires : (mechanism.inquire c.before).CanGive (.ok c.info)
  literal : ∀ text, request.payload = .literal text → c.message = Utf8.encode text
  wraps : (mechanism.wrap c.before c.message request.sealed).CanGive (.ok c.wrapped, c.between)
  verifies : (mechanism.verifyMic c.between c.message c.signature).CanGive (.ok (), c.after)

end Conversation

namespace Session

variable {surroundings : Surroundings (Action ε σ)} {channel : Channel (Action ε σ)}
  {mechanism : Mechanism (Action ε σ) ν κ} {ctx ctx' : SecurityContext κ} {state : SessionState}
  {deeds : List (Deed ν κ)}

/-- A context that was described is held, and the mechanism told about it. Behind every
answer of the mechanism the program could have stopped, and it did not. -/
theorem describe_gives {info : ContextInfo}
    (h : (describe surroundings.observed mechanism.observed ctx).Gives (.ok info) deeds) :
    ∃ context names, ctx.handle = some context ∧
      (mechanism.inquire context).CanGive (.ok info) ∧
      deeds = [.inquired context (.ok info), .named info.mechanism (.ok names)] := by
  rw [describe, SecurityContext.inquire] at h
  cases hhandle : ctx.handle with
  | none =>
    rw [hhandle] at h
    cases h.of_pure.1
  | some context =>
    rw [hhandle] at h
    obtain ⟨inquired, _, hinquired, hthen, rfl⟩ := h.of_told_bind
    cases inquired with
    | error status => cases hthen.of_pure.1
    | ok found =>
      obtain ⟨now, hnoted⟩ := hthen.of_quiet_bind
      obtain ⟨named, _, -, hnamed, rfl⟩ := hnoted.of_note_bind.of_told_bind
      cases named with
      | error status => cases hnamed.of_pure.1
      | ok names =>
        obtain ⟨_, _, _, hnotes, hlast, rfl⟩ := hnamed.of_note_bind.of_bind
        obtain rfl := hnotes.leaves (noteNames_leaves names)
        obtain ⟨⟨⟩, rfl⟩ := hlast.of_pure
        exact ⟨context, names, rfl, hinquired, rfl⟩

/-- A payload that was loaded was written out, or it was read from its file. -/
theorem load_gives {payload : Payload} {message : Bytes}
    (h : (payload.load surroundings.observed : Action (Deed ν κ) σ _).Gives (.ok message) deeds) :
    (∀ text, payload = .literal text → message = Utf8.encode text) ∧
      deeds = Conversation.loads payload message := by
  cases payload with
  | literal text =>
    obtain ⟨⟨⟩, rfl⟩ := h.of_pure
    refine ⟨?_, rfl⟩
    rintro _ ⟨⟩
    rfl
  | file path => exact ⟨nofun, h.of_told.2⟩

/-- A message that was sent was wrapped before, and what was sent is the token of it. -/
theorem sendMessage_gives {message : Bytes} {confidential wasConfidential : Bool}
    (h : (sendMessage channel.observed mechanism.observed ctx message confidential).Gives
      (.ok wasConfidential, state, ctx') deeds) :
    ∃ before wrapped after, ctx.handle = some before ∧
      ctx' = { ctx with handle := some after } ∧ wasConfidential = wrapped.confidential ∧
      (mechanism.wrap before message confidential).CanGive (.ok wrapped, after) ∧
      deeds = [.wrapped before message confidential (.ok wrapped) after,
        .sent wrapped.token (.ok ())] := by
  obtain ⟨⟨result, _⟩, _, _, hprotect, hthen, rfl⟩ := h.of_bind
  cases result with
  | error e => cases hthen.of_pure.1
  | ok wrapped =>
    obtain ⟨before, after, hhandle, rfl, hwraps, rfl⟩ := SecurityContext.protect_gives hprotect
    obtain ⟨sent, _, -, hsent, rfl⟩ := hthen.of_told_bind
    cases sent with
    | error e => cases hsent.of_pure.1
    | ok _ =>
      obtain ⟨⟨⟩, rfl⟩ := hsent.of_pure
      exact ⟨before, wrapped, after, hhandle, rfl, rfl, hwraps, rfl⟩

/-- A signature that was accepted came in, and the mechanism verified it over the
message. -/
theorem receiveSignature_gives {message : Bytes}
    (h : (receiveSignature channel.observed mechanism.observed ctx message).Gives
      (.ok (), state, ctx') deeds) :
    ∃ before token after, ctx.handle = some before ∧ ctx'.handle = some after ∧
      (mechanism.verifyMic before message token).CanGive (.ok (), after) ∧
      deeds = [.received (.ok token), .verified before message token (.ok ()) after] := by
  obtain ⟨received, _, -, hthen, rfl⟩ := h.of_told_bind
  cases received with
  | error e => cases hthen.of_pure.1
  | ok token =>
    obtain ⟨⟨result, _⟩, _, _, hverify, hlast, rfl⟩ := hthen.of_bind
    cases result with
    | error e => cases hlast.of_pure.1
    | ok _ =>
      obtain ⟨before, after, hhandle, rfl, hverifies, rfl⟩ := SecurityContext.verify_gives hverify
      obtain ⟨⟨⟩, rfl⟩ := hlast.of_note_bind.of_pure
      exact ⟨before, token, after, hhandle, rfl, hverifies, rfl⟩

/-- **What is done under a context.** It is described, the message is loaded,
wrapped and sent, and the signature that came in is verified over that message. -/
theorem converse_gives {request : Request} {achievement : Achievement}
    (h : (converse surroundings.observed channel.observed mechanism.observed request ctx).Gives
      (.ok achievement, state, ctx') deeds) :
    ∃ c : Conversation κ, c.Given mechanism request ∧ ctx.handle = some c.before ∧
      ctx'.handle = some c.after ∧ deeds = c.deeds request ∧
      achievement = ⟨ctx.granted, c.wrapped.confidential, c.info⟩ := by
  obtain ⟨described, _, _, hdescribe, hdescribed, rfl⟩ := h.of_bind
  cases described with
  | error e => cases hdescribed.of_pure.1
  | ok info =>
    obtain ⟨context, names, hcontext, hinquires, rfl⟩ := describe_gives hdescribe
    obtain ⟨loaded, _, _, hload, hloaded, rfl⟩ := hdescribed.of_bind
    cases loaded with
    | error e => cases hloaded.of_pure.1
    | ok message =>
      obtain ⟨hliteral, rfl⟩ := load_gives hload
      obtain ⟨⟨sent, _, _⟩, _, _, hsend, hsent, rfl⟩ := hloaded.of_bind
      cases sent with
      | error e => cases hsent.of_pure.1
      | ok wasConfidential =>
        obtain ⟨before, wrapped, between, hbefore, rfl, rfl, hwraps, rfl⟩ :=
          sendMessage_gives hsend
        obtain ⟨⟨verified, _, _⟩, _, _, hreceive, hlast, rfl⟩ := hsent.of_bind
        cases verified with
        | error e => cases hlast.of_pure.1
        | ok _ =>
          obtain ⟨_, token, after, ⟨⟩, hafter, hverifies, rfl⟩ := receiveSignature_gives hreceive
          obtain ⟨⟨⟩, rfl⟩ := hlast.of_pure
          obtain rfl := Option.some.inj (hcontext.symm.trans hbefore)
          exact ⟨⟨context, info, names, message, wrapped, between, token, after⟩,
            ⟨hinquires, hliteral, hwraps, hverifies⟩, hcontext, hafter, rfl, rfl⟩

/-- Between the connection and its closing: a context was established, all was done
under it, and what was left of it was given back. -/
theorem exchange_gives {config : Config} {request : Request} {achievement : Achievement}
    (h : (exchange surroundings.observed channel.observed mechanism.observed config request).Gives
      (.ok achievement, state) deeds) :
    ∃ (ctx : SecurityContext κ) (established : List (Deed ν κ)) (c : Conversation κ),
      (Negotiation.establish mechanism.observed channel.observed.toTransport config.maxRounds
        request.service request.flags request.wanted).Gives (.ok ctx) established ∧
      c.Given mechanism request ∧ ctx.handle = some c.before ∧
      achievement = ⟨ctx.granted, c.wrapped.confidential, c.info⟩ ∧
      deeds = established ++ (c.deeds request ++ [.released c.after]) := by
  obtain ⟨result, established, _, hestablish, hestablished, rfl⟩ := h.of_bind
  cases result with
  | error e => cases hestablished.of_pure.1
  | ok ctx =>
    obtain ⟨⟨ended, stopped, ctx'⟩, _, _, hconverse, hended, rfl⟩ :=
      hestablished.of_note_bind.of_bind
    obtain ⟨_, released, later, hrelease, hlast, rfl⟩ := hended.of_bind
    obtain ⟨⟨⟩, rfl⟩ := hlast.of_pure
    obtain ⟨c, hgiven, hbefore, hafter, rfl, rfl⟩ := converse_gives hconverse
    obtain rfl := hrelease.leaves ctx'.release_leaves
    refine ⟨ctx, established, c, hestablish, hgiven, hbefore, rfl, ?_⟩
    rw [hafter, List.append_nil]
    rfl

/-- **What a session that succeeds has done**, from the connection to its closing. That
the connection was closed well is not part of the success. -/
theorem connectAndExchange_gives {connector : Connector (Action ε σ)} {config : Config}
    {request : Request} {achievement : Achievement}
    (h : (connectAndExchange surroundings.observed connector.observed mechanism.observed config
      request).Gives (.ok achievement, state) deeds) :
    ∃ (channel : Channel (Action ε σ)) (ctx : SecurityContext κ) (established : List (Deed ν κ))
      (c : Conversation κ) (closed : Except IoError Unit),
      (Negotiation.establish mechanism.observed channel.observed.toTransport config.maxRounds
        request.service request.flags request.wanted).Gives (.ok ctx) established ∧
      c.Given mechanism request ∧ ctx.handle = some c.before ∧
      achievement = ⟨ctx.granted, c.wrapped.confidential, c.info⟩ ∧
      deeds = .dialed config (.ok ()) ::
        (established ++ (c.deeds request ++ [.released c.after, .closed closed])) := by
  obtain ⟨result, _, _, hconnect, hconnected, rfl⟩ := h.of_bind
  obtain ⟨dialed, rfl, rfl⟩ := hconnect.leaves (connect_leaves connector config)
  cases dialed with
  | error e => cases hconnected.of_pure.1
  | ok channel =>
    obtain ⟨⟨ended, stopped⟩, exchanged, _, hexchange, hended, rfl⟩ :=
      hconnected.of_note_bind.of_bind
    obtain ⟨closed, later, -, hclosed, rfl⟩ := hended.of_told_bind
    have hlast : (Except.ok achievement, state) = (ended, stopped) ∧ later = [] := by
      cases closed with
      | error e => exact hclosed.of_note_bind.of_pure
      | ok _ => exact hclosed.of_pure
    obtain ⟨⟨⟩, rfl⟩ := hlast
    obtain ⟨ctx, established, c, hestablish, hgiven, hbefore, rfl, rfl⟩ := exchange_gives hexchange
    refine ⟨channel, ctx, established, c, closed, hestablish, hgiven, hbefore, rfl, ?_⟩
    simp [Except.map]

end Session

end Client

end GssContext
