/-
The course that a session takes.

A session asks for a connection. If there is none, that was all; otherwise it
works, gives the mechanism's context back if one is left, and closes the
connection. `Course` is what is done in a run, in these parts, and
`Course.Proper` says what holds of it, whatever fails: with the way through the
states, that the release comes after the work and the closing after that, each
once.

A session runs once. How its connection is closed is no part of its result.
-/
import GssContext.Proofs.Client.Passage
import GssContext.Rehearsal.Memory
import GssContext.Rehearsal.Scripted

set_option autoImplicit false

namespace GssContext

open GssContext.Action

namespace Client

variable {ε σ ν κ : Type}

/-- Connections that are closed in another way. -/
def Connector.closing {m : Type → Type} [Monad m] (connector : Connector m)
    (close : m (Except IoError Unit)) : Connector m where
  connect config := do
    let result ← connector.connect config
    return result.map fun channel => { channel with close }

namespace Session

/-! ## Observing changes nothing

A session is made of a negotiation, which was dealt with before, and of a few more
parts. They are gone through as they are written, once with the observed operations and
once with the plain ones. -/

section

variable (surroundings : Surroundings (Action ε σ)) (channel : Channel (Action ε σ))
  (connector : Connector (Action ε σ)) (mechanism : Mechanism (Action ε σ) ν κ)

/-- To describe a context is to inquire twice, with a look at the clock in between. The
names that are found are noted in a loop, and for that there is an induction. -/
theorem run_describe_observed (ctx : SecurityContext κ) :
    (describe surroundings.observed mechanism.observed ctx).run =
      (describe surroundings mechanism ctx).run := by
  rw [describe, describe, SecurityContext.inquire, SecurityContext.inquire]
  cases ctx.handle with
  | none => rfl
  | some context =>
    refine run_bind_congr (run_told _ _) ?_
    rintro (status | info)
    · rfl
    · refine run_bind_congr (run_quiet _) fun now => run_bind_congr rfl fun _ => ?_
      refine run_bind_congr (run_told _ _) ?_
      rintro (status | names)
      · rfl
      · have hnotes : (noteNames names : Action (Deed ν κ) σ Unit).run =
            (noteNames names : Action ε σ Unit).run := by
          rw [noteNames, noteNames]
          induction names.zipIdx with
          | nil => rfl
          | cons name rest ih => exact run_bind_congr rfl fun _ => ih
        exact run_bind_congr rfl fun _ => run_bind_congr hnotes fun _ => rfl

/-- A payload is read if it is in a file. -/
theorem run_load_observed (payload : Payload) :
    (payload.load surroundings.observed : Action (Deed ν κ) σ _).run =
      (payload.load surroundings).run := by
  cases payload with
  | literal text => rfl
  | file path => exact run_told _ _

/-- A message is protected and then sent. -/
theorem run_sendMessage_observed (ctx : SecurityContext κ) (message : Bytes)
    (confidential : Bool) :
    (sendMessage channel.observed mechanism.observed ctx message confidential).run =
      (sendMessage channel mechanism ctx message confidential).run := by
  refine run_bind_congr (ctx.run_protect_observed mechanism message confidential) ?_
  rintro ⟨e | wrapped, ctx'⟩
  · rfl
  · refine run_bind_congr (run_told _ _) ?_
    rintro (e | ⟨⟩) <;> rfl

/-- A signature is received and then verified. -/
theorem run_receiveSignature_observed (ctx : SecurityContext κ) (message : Bytes) :
    (receiveSignature channel.observed mechanism.observed ctx message).run =
      (receiveSignature channel mechanism ctx message).run := by
  refine run_bind_congr (run_told _ _) ?_
  rintro (e | token)
  · rfl
  · refine run_bind_congr (ctx.run_verify_observed mechanism message token) ?_
    rintro ⟨e | ⟨⟩, ctx'⟩ <;> rfl

/-- So an exchange does the same, wherever it stops: observing adds no step, and what a
step comes to is not changed by being recorded. -/
theorem run_exchange_observed (config : Config) (request : Request) :
    (exchange surroundings.observed channel.observed mechanism.observed config request).run =
      (exchange surroundings channel mechanism config request).run := by
  refine run_bind_congr (Negotiation.run_establish_observed mechanism channel.toTransport ..) ?_
  rintro (e | ctx)
  · rfl
  · refine run_bind_congr rfl fun _ => run_bind_congr ?_ ?_
    · refine run_bind_congr (run_describe_observed surroundings mechanism ctx) ?_
      rintro (e | info)
      · rfl
      · refine run_bind_congr (run_load_observed surroundings request.payload) ?_
        rintro (e | message)
        · rfl
        · refine run_bind_congr (run_sendMessage_observed channel mechanism ctx _ _) ?_
          rintro ⟨e | wasConfidential, state, ctx'⟩
          · rfl
          · refine run_bind_congr (run_receiveSignature_observed channel mechanism ctx' _) ?_
            rintro ⟨e | ⟨⟩, state, ctx''⟩ <;> rfl
    · rintro ⟨result, state, ctx'⟩
      exact run_bind_congr (ctx'.run_release_observed mechanism) fun _ => rfl

/-- And so does all that lies between asking for a connection and closing it. -/
theorem run_connectAndExchange_observed (config : Config) (request : Request) :
    (connectAndExchange surroundings.observed connector.observed mechanism.observed config
      request).run =
      (connectAndExchange surroundings connector mechanism config request).run := by
  funext w
  -- the two connections differ, one is observed, so the values are not the same here
  have hconnect : (connector.observed.connect config : Action (Deed ν κ) σ _).run w =
      ((((connector.connect config).run w).1.map Channel.observed),
        ((connector.connect config).run w).2) := by
    rw [Connector.observed, run_bind, run_told]
    rfl
  rw [connectAndExchange, connectAndExchange, run_bind, run_bind, hconnect]
  dsimp only
  cases ((connector.connect config).run w).1 with
  | error e => rfl
  | ok channel =>
    dsimp only [Except.map]
    refine congrFun (run_bind_congr ?_ fun _ => ?_) _
    · rfl
    refine run_bind_congr (run_exchange_observed surroundings channel mechanism _ _) ?_
    rintro ⟨result, state⟩
    refine run_bind_congr (run_told _ _) ?_
    rintro (e | ⟨⟩) <;> rfl

end

/-! ## A whole run

The work of a session may end in any state, but around it there is always the same: a
connection, a context given back, a closing. `Course` keeps these apart from the work,
so that their order and their number can be read off its shape, and `Course.Proper` is
what remains to be said. -/

/-- All that is done in a run: a connection is asked for, the work is done, the
context that is left is given back, and the connection, if there is one, is
closed. -/
structure Course (ν κ : Type) where
  dialed : Except IoError Unit
  work : List (Deed ν κ)
  closed : Option (Except IoError Unit)

/-- What is done, in its order. -/
def Course.deeds (config : Config) (c : Course ν κ) : List (Deed ν κ) :=
  .dialed config c.dialed ::
    (c.work ++ (held none c.work).toList.map .released ++ c.closed.toList.map .closed)

/-- What holds of a run, whatever fails in it. -/
structure Course.Proper (config : Config) (request : Request) (c : Course ν κ)
    (stopped : SessionState) (result : Except SessionError Achievement) : Prop where
  works : ∀ deed ∈ c.work, deed.isWork = true
  /-- Without a connection nothing is done. -/
  refused : ∀ e, c.dialed = .error e → c.work = [] ∧ c.closed = none
  closes : c.dialed = .ok () → c.closed.isSome = true
  /-- The states are gone through in their order, and the error tells where it stopped. -/
  passage : Passage config request SessionState.forward (.dialed config c.dialed :: c.work) stopped
    result

/-- To ask for a connection is one deed, and what it gives is observed. -/
theorem connect_leaves (connector : Connector (Action ε σ)) (config : Config) :
    (connector.observed.connect config : Action (Deed ν κ) σ _).Leaves fun result deeds =>
      ∃ dialed : Except IoError (Channel (Action ε σ)), result = dialed.map Channel.observed ∧
        deeds = [.dialed config (dialed.map fun _ => ())] :=
  .told_bind fun dialed => .pure ⟨dialed, rfl, rfl⟩

/-- **From the connection to its closing.** The work and its passage come from the
exchange. What is added in front of it is the state in which a connection is asked for,
and behind it the closing, whose result is looked at by nobody. -/
theorem connectAndExchange_leaves (surroundings : Surroundings (Action ε σ))
    (connector : Connector (Action ε σ)) (mechanism : Mechanism (Action ε σ) ν κ)
    (config : Config) (request : Request) :
    (connectAndExchange surroundings.observed connector.observed mechanism.observed config
      request).Leaves fun ended deeds => ∃ course : Course ν κ,
        course.Proper config request ended.2 ended.1 ∧ deeds = course.deeds config := by
  refine .bind (connect_leaves connector config) ?_
  rintro _ _ ⟨e | channel, rfl, rfl⟩
  · refine .pure ⟨⟨.error e, [], none⟩, ?_, rfl⟩
    exact ⟨List.forall_mem_nil _, fun _ _ => ⟨rfl, rfl⟩, (fun h => nomatch h),
      .stop .notConnected⟩
  · refine .note_bind (.bind (exchange_leaves config request) ?_)
    rintro ⟨result, stopped⟩ _ ⟨work, hpassage, rfl⟩
    -- only idle is a state in which something else than work is done
    have hworks : ∀ deed ∈ work, deed.isWork = true := by
      intro deed hdeed
      obtain ⟨state, hmem, hbelongs⟩ := hpassage.belongs deed hdeed
      refine hbelongs.isWork ?_
      rintro rfl
      simp at hmem
    have hproper (closed : Except IoError Unit) :
        Course.Proper config request (⟨.ok (), work, some closed⟩ : Course ν κ) stopped result := by
      refine ⟨hworks, (fun e h => nomatch h), fun _ => rfl, ?_⟩
      have hconnected : Passage config request
          [.connected, .negotiating, .authenticated, .protecting, .verifying] ([] ++ work) stopped
          result := .move (List.forall_mem_nil _) hpassage
      have hdialed : ∀ deed ∈ ([.dialed config (.ok ())] : List (Deed ν κ)),
          deed.Belongs .idle := List.forall_mem_singleton.mpr .dialed
      exact .move hdialed hconnected
    -- how the closing ends is noted and changes nothing else
    refine .told_bind fun closed => ?_
    have hdeeds : ([.dialed config (.ok ())] : List (Deed ν κ)) ++
        (work ++ (held none work).toList.map .released ++ [.closed closed]) =
          (⟨.ok (), work, some closed⟩ : Course ν κ).deeds config := rfl
    cases closed with
    | error e => exact .note_bind (.pure ⟨_, hproper _, hdeeds⟩)
    | ok _ => exact .pure ⟨_, hproper _, hdeeds⟩

/-- The state of a session that is over. It depends on the result alone. -/
def lastState : Except SessionError Achievement → SessionState
  | .ok _ => .closed
  | .error _ => .aborted

section

variable {δ : Type} (surroundings : Surroundings (Action δ σ)) (connector : Connector (Action δ σ))
  (mechanism : Mechanism (Action δ σ) ν κ)

/-- Without a connection there is no exchange, and with one it decides. That the
connection cannot be closed is not looked at in the end. -/
theorem value_connectAndExchange (config : Config) (request : Request) (w : σ) :
    ((connectAndExchange surroundings connector mechanism config request).run w).1 =
      match (connector.connect config).run w with
      | (.error e, _) => (.error (.connect config.addr e), .idle)
      | (.ok channel, w) => ((exchange surroundings channel mechanism config request).run w).1 := by
  rw [connectAndExchange, run_bind]
  obtain ⟨result, w⟩ := (connector.connect config).run w
  cases result with
  | error e => rfl
  | ok channel =>
    dsimp only
    rw [run_bind, run_note, run_bind]
    dsimp only
    obtain ⟨ended, w⟩ := (exchange surroundings channel mechanism config request).run w
    dsimp only
    rw [run_bind]
    split <;> rfl

/-- How closing ends is noted, and no more. -/
theorem value_connectAndExchange_closing (close : Action δ σ (Except IoError Unit))
    (config : Config) (request : Request) (w : σ) :
    ((connectAndExchange surroundings (connector.closing close) mechanism config request).run
      w).1 = ((connectAndExchange surroundings connector mechanism config request).run w).1 := by
  have hconnect : ((connector.closing close).connect config).run w =
      (((connector.connect config).run w).1.map fun channel => { channel with close },
        ((connector.connect config).run w).2) := rfl
  rw [value_connectAndExchange, value_connectAndExchange, hconnect]
  obtain ⟨result, w⟩ := (connector.connect config).run w
  cases result <;> rfl

/-- A first run ends as the exchange does. -/
theorem run_first {s : Session} (hidle : s.state = .idle) (w : σ) :
    let ended :=
      (connectAndExchange surroundings connector mechanism s.config s.request).run w
    (s.run surroundings connector mechanism).run w =
        ((ended.1.1, { s with state := lastState ended.1.1 }), ended.2) ∧
      (s.run surroundings connector mechanism).events w =
        (connectAndExchange surroundings connector mechanism s.config s.request).events w := by
  intro ended
  rw [Session.run, if_neg (not_not_intro hidle), run_bind, events_bind]
  have hended : (connectAndExchange surroundings connector mechanism s.config s.request).run w =
      ended := rfl
  rw [hended]
  clear_value ended
  obtain ⟨⟨result, stopped⟩, w'⟩ := ended
  cases result with
  | ok achievement => exact ⟨rfl, List.append_nil _⟩
  | error e => exact ⟨rfl, List.append_nil _⟩

/-- A session that is over does nothing at all: each further run is refused with the
state that it is in, and leaves it as it is. The induction is on the number of runs. -/
theorem runTimes_of_over {m : Type → Type} [Monad m] [LawfulMonad m] [Journal m]
    (surroundings : Surroundings m) (connector : Connector m) (mechanism : Mechanism m ν κ)
    {s : Session} (hover : s.state ≠ .idle) (n : Nat) :
    runTimes surroundings connector mechanism n s =
      pure (List.replicate n (.error (.alreadyRun s.state), s)) := by
  induction n with
  | zero => rfl
  | succ n ih =>
    rw [runTimes, Session.run, if_pos hover, pure_bind, ih, pure_bind]
    rfl

end

/-- **The course of a session.** What a first run does is a proper course: a
connection is asked for once; without one nothing else is done; with one the
work is done, the context that the mechanism left is given back if there is one,
and the connection is closed, each once and in this order. The states are gone
through in their order, and the result tells where it stopped. The session is
closed after success and aborted otherwise. Another way to close the connection
changes none of this result, and a session that has run does nothing any more.
-/
theorem run_takes_course {s : Session} (hidle : s.state = .idle)
    (surroundings : Surroundings (Action ε σ)) (connector : Connector (Action ε σ))
    (mechanism : Mechanism (Action ε σ) ν κ) (w : σ) :
    let observed : Action (Deed ν κ) σ _ :=
      s.run surroundings.observed connector.observed mechanism.observed
    let result := (observed.run w).1.1
    let after := (observed.run w).1.2
    let stopped :=
      ((connectAndExchange surroundings connector mechanism s.config s.request).run w).1.2
    observed.run w = (s.run surroundings connector mechanism).run w ∧
      (∃ course : Course ν κ, course.Proper s.config s.request stopped result ∧
        observed.events w = course.deeds s.config) ∧
      after = { s with state := lastState result } ∧
      (∀ close, ((s.run surroundings (connector.closing close) mechanism).run w).1 =
        (result, after)) ∧
      ∀ n, runTimes surroundings connector mechanism n after =
        pure (List.replicate n (.error (.alreadyRun after.state), after)) := by
  intro observed result after stopped
  obtain ⟨hrun, hevents⟩ := run_first surroundings.observed connector.observed mechanism.observed
    hidle w
  have hplain := (run_first surroundings connector mechanism hidle w).1
  have hsame := congrFun (run_connectAndExchange_observed surroundings connector mechanism s.config
    s.request) w
  obtain ⟨course, hproper, hdeeds⟩ :=
    connectAndExchange_leaves surroundings connector mechanism s.config s.request w
  rw [hsame] at hrun hproper
  have hafter : after = { s with state := lastState result } := by
    rw [show after = _ from congrArg (·.1.2) hrun, show result = _ from congrArg (·.1.1) hrun]
  -- whichever way it ended, it is not idle any more, so it does not run again
  have hover : after.state ≠ .idle := by
    rw [hafter]
    cases result <;> exact SessionState.noConfusion
  refine ⟨hrun.trans hplain.symm, ⟨course, ?_, hevents.trans hdeeds⟩, hafter, ?_,
    runTimes_of_over surroundings connector mechanism hover⟩
  · rw [show result = _ from congrArg (·.1.1) hrun]
    exact hproper
  · -- the exchange is done before the closing, so its result does not see it
    intro close
    rw [(run_first surroundings (connector.closing close) mechanism hidle w).1,
      value_connectAndExchange_closing]
    exact (congrArg Prod.fst hrun).symm

end Session

end Client

namespace Rehearsal

/-- The signature that comes in does not show the message, and closing the
connection fails as well. The session stops in verifying; the context is given
back and the connection is closed. -/
theorem course_of_unverified :
    let surroundings : Client.Surroundings (Action Event (Scripted × MemoryDial)) :=
      ⟨fun _ => pure (.ok [1, 2]), pure ⟨.zero⟩⟩
    let connector : Client.Connector (Action Event (Scripted × MemoryDial)) := MemoryDial.connector
    let mechanism : Mechanism (Action Event (Scripted × MemoryDial)) String Scripted.Context :=
      Scripted.mechanism.hoist Action.onFst
    let world : Scripted × MemoryDial :=
      ({ script := [.complete [5] .empty] },
        { waiting := { inbound := [[0]], closeFault := some .brokenPipe } })
    let session : Client.Session := ⟨{}, ⟨"svc", .empty, none, .file "note", true⟩, .idle⟩
    let observed : Action (Deed String Scripted.Context) (Scripted × MemoryDial) _ :=
      session.run surroundings.observed connector.observed mechanism.observed
    let context : Scripted.Context := { rounds := 1, isOpen := true }
    let message : Bytes := [1, 2]
    let result : Except Client.SessionError Client.Achievement :=
      .error (.protection (.integrityFailed ⟨.badMic, 0⟩))
    session.state = .idle ∧
      (observed.run world).1 = (result, { session with state := .aborted }) ∧
      observed.events world =
        [.dialed {} (.ok ()), .imported "svc" (.ok "svc"),
          .stepped ⟨none, "svc", none, .of [.replay], none, ⟨.complete, [5], .empty⟩,
            some context⟩,
          .sent [5] (.ok ()), .inquired context (.ok context.info),
          .named .psk (.ok [.hostBasedService]), .loaded "note" (.ok message),
          .wrapped context message true (.ok ⟨transparentWrap message true, true⟩) context,
          .sent (transparentWrap message true) (.ok ()), .received (.ok [0]),
          .verified context message [0] (.error ⟨.badMic, 0⟩) context, .released context,
          .closed (.error (.ofKind .brokenPipe))] ∧
      (∃ course : Client.Session.Course String Scripted.Context,
        course.Proper session.config session.request .verifying result ∧
          observed.events world = course.deeds session.config) ∧
      ∀ n, Client.Session.runTimes surroundings connector mechanism n
          { session with state := .aborted } =
        pure (List.replicate n
          (.error (.alreadyRun .aborted), { session with state := .aborted })) := by
  intro surroundings connector mechanism world session observed context message result
  have hidle : session.state = .idle := rfl
  have hresult : (observed.run world).1.1 = result := by decide +kernel
  have hstopped : ((Client.Session.connectAndExchange surroundings connector mechanism
      session.config session.request).run world).1.2 = .verifying := by decide +kernel
  -- the theorem says that there is a course, and evaluation says which deeds it has
  obtain ⟨-, hcourse, hafter, -, hlater⟩ :=
    Client.Session.run_takes_course hidle surroundings connector mechanism world
  rw [hresult] at hcourse hafter
  rw [hstopped] at hcourse
  rw [hafter] at hlater
  exact ⟨hidle, Prod.ext hresult hafter, by decide +kernel, hcourse, hlater⟩

end Rehearsal

end GssContext
