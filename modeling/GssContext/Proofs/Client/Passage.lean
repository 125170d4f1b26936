/-
The way of a session through its states.

What is done in a session belongs to a state, and `Stops` says how the session
can stop in each: what was done there last, and with which result. The error
tells the state. `Passage` is a way through states, in their order, to where it
stopped.

The parts of a session are taken one by one. Each is described by what it leaves
when it is observed: the stretch of the way that it goes, and the context that
the mechanism holds after it.
-/
import GssContext.Proofs.Negotiation.Trace

set_option autoImplicit false

namespace GssContext

open GssContext.Action

variable {ε σ ν κ : Type}

/-! ## Deeds and states

Nothing in a deed says in which state it was done, and two of them can be done in more
than one: a token is sent while negotiating and while protecting, and received while
negotiating and while verifying. All others tell the state. -/

/-- What is done in a state. -/
inductive Deed.Belongs : Client.SessionState → Deed ν κ → Prop where
  | dialed {config : Client.Config} {result : Except IoError Unit} :
      Belongs .idle (.dialed config result)
  | imported {text : String} {result : Except Status ν} :
      Belongs .negotiating (.imported text result)
  | stepped {taken : Taken ν κ} : Belongs .negotiating (.stepped taken)
  | sentContext {token : Bytes} {result : Except TransportError Unit} :
      Belongs .negotiating (.sent token result)
  | receivedContext {result : Except TransportError Bytes} :
      Belongs .negotiating (.received result)
  | inquired {context : κ} {result : Except Status ContextInfo} :
      Belongs .authenticated (.inquired context result)
  | named {wanted : Oid} {result : Except Status (List Oid)} :
      Belongs .authenticated (.named wanted result)
  | loaded {path : String} {result : Except IoError Bytes} :
      Belongs .authenticated (.loaded path result)
  | wrapped {before after : κ} {message : Bytes} {confidential : Bool}
      {result : Except Status Wrapped} :
      Belongs .protecting (.wrapped before message confidential result after)
  | sentMessage {token : Bytes} {result : Except TransportError Unit} :
      Belongs .protecting (.sent token result)
  | receivedSignature {result : Except TransportError Bytes} :
      Belongs .verifying (.received result)
  | verified {before after : κ} {message token : Bytes} {result : Except Status Unit} :
      Belongs .verifying (.verified before message token result after)

/-- To ask for a connection, to close it and to give a context back is not work. -/
def Deed.isWork : Deed ν κ → Bool
  | .dialed .. | .closed _ | .released _ => false
  | _ => true

/-- What is done after the start is work: the one deed that belongs to a state and is
none is asking for a connection. -/
theorem Deed.Belongs.isWork {state : Client.SessionState} {deed : Deed ν κ}
    (h : deed.Belongs state) (hstate : state ≠ .idle) : deed.isWork = true := by
  cases h with
  | dialed => exact absurd rfl hstate
  | _ => rfl

/-- Rounds belong to negotiating. -/
theorem Round.belongs (r : Round ν κ) : ∀ deed ∈ r.deeds, deed.Belongs .negotiating := by
  intro deed hdeed
  rw [deeds, List.mem_cons, List.mem_append, List.mem_map, List.mem_map] at hdeed
  obtain rfl | ⟨_, _, rfl⟩ | ⟨_, _, rfl⟩ := hdeed
  · exact .stepped
  · exact .sentContext
  · exact .receivedContext

/-! ## Messages under a context

An open context gets the mechanism asked, and that is the one deed. Whatever is
answered, the context stays open and holds what the mechanism left. -/

section

variable {mechanism : Mechanism (Action ε σ) ν κ} {ctx : SecurityContext κ} {before : κ}

namespace SecurityContext

/-- A context is open, and this is what the mechanism holds for it. -/
theorem openHandle_eq_ok_iff :
    ctx.openHandle = .ok before ↔ ctx.isOpen = true ∧ ctx.handle = some before := by
  obtain ⟨handle, state, granted⟩ := ctx
  rw [openHandle, isOpen]
  dsimp only
  cases state == ContextState.established <;> cases handle <;> simp

/-- Protecting a message under an open context is one deed. -/
theorem protect_leaves (h : ctx.openHandle = .ok before) (message : Bytes)
    (confidential : Bool) :
    (ctx.protect mechanism.observed message confidential).Leaves fun made deeds =>
      ∃ result after, made = (result.mapError .rejected, { ctx with handle := some after }) ∧
        deeds = [.wrapped before message confidential result after] := by
  rw [protect, h]
  refine .told_bind ?_
  rintro ⟨result, after⟩
  cases result with
  | error status => exact .pure ⟨_, after, rfl, rfl⟩
  | ok wrapped =>
    dsimp only
    split
    · exact .note_bind (.note_bind (.pure ⟨_, after, rfl, rfl⟩))
    · exact .note_bind (.pure ⟨_, after, rfl, rfl⟩)

/-- So is verifying a signature. -/
theorem verify_leaves (h : ctx.openHandle = .ok before) (message token : Bytes) :
    (ctx.verify mechanism.observed message token).Leaves fun made deeds =>
      ∃ result after, made = (result.mapError .ofVerifying, { ctx with handle := some after }) ∧
        deeds = [.verified before message token result after] := by
  rw [verify, h]
  refine .told_bind ?_
  rintro ⟨result, after⟩
  cases result with
  | error status => exact .pure ⟨_, after, rfl, rfl⟩
  | ok _ => exact .note_bind (.pure ⟨_, after, rfl, rfl⟩)

end SecurityContext

end

namespace Client

/-! ## Ways through the states

`Stops` has one constructor for each point at which the program of a session can return,
so it is a table of the errors: which state, after which deeds, with which error. Ways
are built from the front: a state is left once what belongs to it is done. -/

/-- The states of a session that is not over, in their order. -/
def SessionState.forward : List SessionState :=
  [.idle, .connected, .negotiating, .authenticated, .protecting, .verifying]

/-- How a session can stop: the state, what was done in it, and the result. -/
inductive Stops (config : Config) (request : Request) :
    SessionState → List (Deed ν κ) → Except SessionError Achievement → Prop where
  | notConnected {e : IoError} :
      Stops config request .idle [.dialed config (.error e)] (.error (.connect config.addr e))
  | notEstablished {deeds : List (Deed ν κ)} {e : NegotiationError} :
      (∀ deed ∈ deeds, deed.Belongs .negotiating) →
      Stops config request .negotiating deeds (.error (.negotiation e))
  | noContext :
      Stops config request .authenticated [] (.error (.inquiringContext ⟨.noContext, 0⟩))
  | notInquired {context : κ} {status : Status} :
      Stops config request .authenticated [.inquired context (.error status)]
        (.error (.inquiringContext status))
  | notNamed {context : κ} {info : ContextInfo} {status : Status} :
      Stops config request .authenticated
        [.inquired context (.ok info), .named info.mechanism (.error status)]
        (.error (.inquiringNames status))
  | notLoaded {context : κ} {info : ContextInfo} {names : List Oid} {path : String}
      {e : IoError} : request.payload = .file path →
      Stops config request .authenticated
        [.inquired context (.ok info), .named info.mechanism (.ok names),
          .loaded path (.error e)]
        (.error (.payload path e))
  | notWrapped {before after : κ} {message : Bytes} {status : Status} :
      Stops config request .protecting
        [.wrapped before message request.sealed (.error status) after]
        (.error (.protection (.rejected status)))
  | notSent {before after : κ} {message : Bytes} {wrapped : Wrapped} {e : TransportError} :
      Stops config request .protecting
        [.wrapped before message request.sealed (.ok wrapped) after,
          .sent wrapped.token (.error e)]
        (.error (.sending e))
  | notReceived {e : TransportError} :
      Stops config request .verifying [.received (.error e)] (.error (.receiving e))
  | notVerified {before after : κ} {message token : Bytes} {status : Status} :
      Stops config request .verifying
        [.received (.ok token), .verified before message token (.error status) after]
        (.error (.protection (.ofVerifying status)))
  | achieved {before after : κ} {message token : Bytes} {achievement : Achievement} :
      Stops config request .verifying
        [.received (.ok token), .verified before message token (.ok ()) after] (.ok achievement)

/-- A way through states, in their order: in each something is done that
belongs to it, and then the session stops there or goes on to the next. -/
inductive Passage (config : Config) (request : Request) :
    List SessionState → List (Deed ν κ) → SessionState → Except SessionError Achievement →
      Prop where
  | stop {state : SessionState} {later : List SessionState} {deeds : List (Deed ν κ)}
      {result : Except SessionError Achievement} :
      Stops config request state deeds result →
      Passage config request (state :: later) deeds state result
  | move {state stopped : SessionState} {later : List SessionState}
      {deeds rest : List (Deed ν κ)} {result : Except SessionError Achievement} :
      (∀ deed ∈ deeds, deed.Belongs state) → Passage config request later rest stopped result →
      Passage config request (state :: later) (deeds ++ rest) stopped result

section

variable {config : Config} {request : Request}

/-- Where a session stops, what was done last belongs to that state. -/
theorem Stops.belongs {state : SessionState} {deeds : List (Deed ν κ)}
    {result : Except SessionError Achievement} (h : Stops config request state deeds result) :
    ∀ deed ∈ deeds, deed.Belongs state := by
  cases h with
  | notEstablished hdeeds => exact hdeeds
  | _ =>
    -- every other list is written out, so each of its deeds is looked at
    simp only [List.mem_cons, List.not_mem_nil, or_false, false_implies, implies_true,
      forall_eq_or_imp, forall_eq]
    repeat' constructor

/-- Whatever is done on the way belongs to one of the states. -/
theorem Passage.belongs {states : List SessionState} {stopped : SessionState}
    {deeds : List (Deed ν κ)} {result : Except SessionError Achievement}
    (h : Passage config request states deeds stopped result) :
    ∀ deed ∈ deeds, ∃ state ∈ states, deed.Belongs state := by
  induction h with
  | stop hstops =>
    intro deed hdeed
    exact ⟨_, List.mem_cons_self, hstops.belongs deed hdeed⟩
  | move hbelongs _ ih =>
    intro deed hdeed
    rcases List.mem_append.mp hdeed with hdeed | hdeed
    · exact ⟨_, List.mem_cons_self, hbelongs deed hdeed⟩
    · obtain ⟨state, hmem, hstate⟩ := ih deed hdeed
      exact ⟨state, List.mem_cons_of_mem _ hmem, hstate⟩

end

/-! ## The parts of a session

For each part it is shown where it can stop, and what it leaves for the next one if it
does not. The context is followed at the same time, since at the end it is what has to
be given back. -/

namespace Session

/-- What is done with an established context leaves what the mechanism holds: it is
inquired about, and no operation of this state changes it. -/
theorem held_of_authenticated {deeds : List (Deed ν κ)}
    (h : ∀ deed ∈ deeds, deed.Belongs .authenticated) (context : Option κ) :
    held context deeds = context := by
  induction deeds with
  | nil => rfl
  | cons deed deeds ih =>
    have hdeed : deed.hold context = context := by
      cases h deed List.mem_cons_self <;> rfl
    rw [held_cons, hdeed, ih fun later hlater => h later (List.mem_cons_of_mem _ hlater)]

section

variable {surroundings : Surroundings (Action ε σ)} {channel : Channel (Action ε σ)}
  {mechanism : Mechanism (Action ε σ) ν κ}

/-- The names are noted in the journal, which is no deed. -/
theorem noteNames_leaves (names : List Oid) :
    (noteNames names : Action (Deed ν κ) σ Unit).Leaves fun _ deeds => deeds = [] := by
  rw [noteNames]
  induction names.zipIdx with
  | nil => exact .pure rfl
  | cons name rest ih => exact .note_bind ih

variable (config : Config) (request : Request)

/-- A context is described in one state. It may be missing, and each of the two
inquiries may fail. -/
theorem describe_leaves (ctx : SecurityContext κ) :
    (describe surroundings.observed mechanism.observed ctx).Leaves fun result deeds =>
      match result with
      | .error e => Stops config request .authenticated deeds (.error e)
      | .ok info => ∃ context names, ctx.handle = some context ∧
          deeds = [.inquired context (.ok info), .named info.mechanism (.ok names)] := by
  rw [describe, SecurityContext.inquire]
  cases ctx.handle with
  | none =>
    rw [pure_bind]
    exact .pure .noContext
  | some context =>
    refine .told_bind ?_
    rintro (status | info)
    · exact .pure .notInquired
    · refine .quiet_bind fun now => .note_bind (.told_bind ?_)
      rintro (status | names)
      · exact .pure .notNamed
      · refine .note_bind (.bind (noteNames_leaves names) ?_)
        rintro _ _ rfl
        exact .pure ⟨context, names, rfl, rfl⟩

/-- A payload is loaded in the same state, and only a file can fail to be. -/
theorem load_leaves (payload : Payload) :
    (payload.load surroundings.observed : Action (Deed ν κ) σ _).Leaves fun result deeds =>
      match result with
      | .error e => ∃ path, payload = .file path ∧ deeds = [.loaded path (.error e)]
      | .ok _ => ∀ deed ∈ deeds, deed.Belongs .authenticated := by
  cases payload with
  | literal text =>
    exact .pure (List.forall_mem_nil _)
  | file path =>
    refine .told ?_
    rintro (e | message)
    · exact ⟨path, rfl, rfl⟩
    · exact List.forall_mem_singleton.mpr .loaded

/-- A message is wrapped and sent in a state of its own. Even if that fails the
mechanism may have left another context than before. -/
theorem sendMessage_leaves {ctx : SecurityContext κ} {before : κ}
    (h : ctx.openHandle = .ok before) (message : Bytes) :
    (sendMessage channel.observed mechanism.observed ctx message request.sealed).Leaves
      fun stage deeds => stage.2.1 = .protecting ∧
        (∃ after, stage.2.2 = { ctx with handle := some after } ∧
          held (some before) deeds = some after) ∧
        match stage.1 with
        | .error e => Stops config request .protecting deeds (.error e)
        | .ok _ => ∀ deed ∈ deeds, deed.Belongs .protecting := by
  refine .bind (ctx.protect_leaves h message request.sealed) ?_
  rintro _ _ ⟨result, after, rfl, rfl⟩
  cases result with
  | error status => exact .pure ⟨rfl, ⟨after, rfl, rfl⟩, .notWrapped⟩
  | ok wrapped =>
    refine .told_bind ?_
    rintro (e | ⟨⟩)
    · exact .pure ⟨rfl, ⟨after, rfl, rfl⟩, .notSent⟩
    · refine .pure ⟨rfl, ⟨after, rfl, rfl⟩, ?_⟩
      simp only [List.singleton_append, List.mem_cons, List.not_mem_nil, or_false,
        forall_eq_or_imp, forall_eq]
      exact ⟨.wrapped, .sentMessage⟩

/-- And so is a signature received and verified. This is the last state, so here the
session stops in any case. -/
theorem receiveSignature_leaves {ctx : SecurityContext κ} {before : κ}
    (h : ctx.openHandle = .ok before) (message : Bytes) :
    (receiveSignature channel.observed mechanism.observed ctx message).Leaves
      fun stage deeds => stage.2.1 = .verifying ∧
        stage.2.2.handle = held (some before) deeds ∧
        match stage.1 with
        | .error e => Stops config request .verifying deeds (.error e)
        | .ok () => ∀ achievement, Stops config request .verifying deeds (.ok achievement) := by
  refine .told_bind ?_
  rintro (e | token)
  · exact .pure ⟨rfl, (ctx.openHandle_eq_ok_iff.mp h).2, .notReceived⟩
  · refine .bind (ctx.verify_leaves h message token) ?_
    rintro _ _ ⟨result, after, rfl, rfl⟩
    cases result with
    | error status => exact .pure ⟨rfl, rfl, .notVerified⟩
    | ok _ => exact .note_bind (.pure ⟨rfl, rfl, fun _ => .achieved⟩)

/-- From the established context on. The four parts are done in three states, and if one
of them fails the session stops in its state and what was done before belongs to those
before it. -/
theorem converse_leaves {ctx : SecurityContext κ} (hopen : ctx.isOpen = true) :
    (converse surroundings.observed channel.observed mechanism.observed request ctx).Leaves
      fun stage deeds =>
        Passage config request [.authenticated, .protecting, .verifying] deeds stage.2.1 stage.1 ∧
          stage.2.2.handle = held ctx.handle deeds := by
  refine .bind (describe_leaves config request ctx) ?_
  rintro (e | info) described hdescribed
  -- up to the message the context is only looked at, so what is held is what was established
  · have hheld := held_of_authenticated hdescribed.belongs ctx.handle
    refine .pure ?_
    rw [List.append_nil]
    exact ⟨.stop hdescribed, hheld.symm⟩
  · obtain ⟨context, names, hcontext, rfl⟩ := hdescribed
    refine .bind (load_leaves request.payload) ?_
    rintro (e | message) loaded hloaded
    · obtain ⟨path, hpath, rfl⟩ := hloaded
      dsimp only
      rw [hpath]
      exact .pure ⟨.stop (.notLoaded hpath), rfl⟩
    · -- what was done up to here belongs to one state, and the session leaves it now
      have hprepared : ∀ deed ∈ [.inquired context (.ok info), .named info.mechanism (.ok names)] ++
          loaded, deed.Belongs .authenticated := by
        simp only [List.cons_append, List.nil_append, List.mem_cons, forall_eq_or_imp]
        exact ⟨.inquired, .named, hloaded⟩
      have hheld := held_of_authenticated hprepared ctx.handle
      refine .bind (sendMessage_leaves config request
        (SecurityContext.openHandle_eq_ok_iff.mpr ⟨hopen, hcontext⟩) message) ?_
      rintro ⟨sent, _, _⟩ sending ⟨rfl, ⟨after, rfl, hafter⟩, hsending⟩
      rw [← hcontext] at hafter
      cases sent with
      | error e =>
        refine .pure ?_
        rw [List.append_nil, ← List.append_assoc, held_append, hheld, hafter]
        exact ⟨.move hprepared (.stop hsending), rfl⟩
      | ok wasConfidential =>
        -- wrapping may leave another context behind, but it is still open
        have hstill : { ctx with handle := some after }.openHandle = .ok after :=
          SecurityContext.openHandle_eq_ok_iff.mpr ⟨hopen, rfl⟩
        refine .bind (receiveSignature_leaves config request hstill message) ?_
        rintro ⟨verified, _, ctx''⟩ receiving ⟨rfl, hlast, hreceiving⟩
        cases verified with
        | error e =>
          refine .pure ?_
          rw [List.append_nil, ← List.append_assoc, held_append, held_append, hheld, hafter]
          exact ⟨.move hprepared (.move hsending (.stop hreceiving)), hlast⟩
        | ok _ =>
          refine .pure ?_
          rw [List.append_nil, ← List.append_assoc, held_append, held_append, hheld, hafter]
          exact ⟨.move hprepared (.move hsending (.stop (hreceiving _))), hlast⟩

/-- Negotiating is work, up to a context given back. If it fails, that is its last deed,
and the exchange stops there; if not, the context is handed on. -/
theorem establish_leaves (maxRounds : Nat) (target : String) (requested : Flags)
    (wanted : Option Oid) :
    (Negotiation.establish mechanism.observed channel.observed.toTransport maxRounds target
      requested wanted).Leaves fun result deeds =>
        ∃ work : List (Deed ν κ), (∀ deed ∈ work, deed.Belongs .negotiating) ∧
          deeds = work ++ Negotiation.givenBack (held none work) result ∧
          ∀ ctx, result = .ok ctx → ctx.isOpen = true ∧ ctx.handle = held none work := by
  refine .told_bind ?_
  rintro (status | name)
  · have himported : ∀ deed ∈ ([.imported target (.error status)] : List (Deed ν κ)),
        deed.Belongs .negotiating := List.forall_mem_singleton.mpr .imported
    exact .pure ⟨_, himported, rfl, fun _ h => nomatch h⟩
  · refine .note_bind ((Negotiation.rounds_leaves _ _ _ _ _ _ _).mono ?_)
    rintro result _ ⟨rounds, haccount, rfl⟩
    refine ⟨.imported target (.ok name) :: rounds.flatMap Round.deeds, ?_, rfl, ?_⟩
    · refine List.forall_mem_cons.mpr ⟨.imported, ?_⟩
      intro deed hdeed
      obtain ⟨r, -, hr⟩ := List.mem_flatMap.mp hdeed
      exact r.belongs deed hr
    · rintro ctx rfl
      exact haccount.ends.holds none

/-- Between the connection and its closing: the work, and then the context that is
left given back. -/
theorem exchange_leaves :
    (exchange surroundings.observed channel.observed mechanism.observed config request).Leaves
      fun ended deeds => ∃ work : List (Deed ν κ),
        Passage config request [.negotiating, .authenticated, .protecting, .verifying] work ended.2
          ended.1 ∧
        deeds = work ++ (held none work).toList.map .released := by
  refine .bind (establish_leaves _ _ _ _) ?_
  rintro (e | ctx) _ ⟨negotiating, hbelongs, rfl, hctx⟩
  -- what failed to be established was given back by the negotiation itself, and not again here
  · refine .pure ⟨negotiating, .stop (.notEstablished hbelongs), ?_⟩
    rw [List.append_nil]
    rfl
  · obtain ⟨hopen, hhandle⟩ := hctx ctx rfl
    refine .note_bind (.bind (converse_leaves config request hopen) ?_)
    rintro ⟨result, stopped, ctx'⟩ conversing ⟨hpassage, hheld⟩
    refine .bind ctx'.release_leaves ?_
    rintro _ _ rfl
    refine .pure ⟨negotiating ++ conversing, .move hbelongs hpassage, ?_⟩
    dsimp only at hheld
    rw [held_append, ← hhandle, ← hheld]
    simp [Negotiation.givenBack]

end

end Session

end Client

end GssContext
