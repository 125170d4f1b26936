/-
Never a third step.

An initiator's side of a negotiation and the loop in which a peer feeds its
acceptor are both driven by tokens that anybody may have sent. The negotiation
goes on only after a step that asks for an answer, and a mechanism with a
pre-shared key asks for one only without a context, which it has after that. So
whatever comes in, the second step is the last.

To say this of the negotiation, every deed that tells of a step must be one that
the mechanism can do. `Action.Only` speaks about single deeds; the order of the
rounds is already known.
-/
import GssContext.Proofs.Client.Achieved
import GssContext.Proofs.Psk.Lifecycle
import GssContext.Proofs.Rehearsal.Serving

set_option autoImplicit false

namespace GssContext

variable {ε δ σ α β ν κ : Type}

/-! ## Single events

A property of every single event can be shown of a program without saying in which order
they come. It is enough that each operation has it, for all values it may give. -/

namespace Action

/-- Every event that an action leaves, in whatever state it is run, has the
property. -/
def Only (x : Action δ σ α) (H : δ → Prop) : Prop := x.Leaves fun _ events => ∀ d ∈ events, H d

namespace Only

variable {H : δ → Prop}

theorem pure (a : α) : (pure a : Action δ σ α).Only H := Leaves.pure fun _ => nofun

/-- A line of the journal is no event. -/
theorem note_bind {line : LogLine} {x : Unit → Action δ σ β} (hx : (x ()).Only H) :
    (note line >>= x).Only H := Leaves.note_bind hx

/-- The events of two parts are events of the one or of the other. -/
theorem bind {x : Action δ σ α} {f : α → Action δ σ β} (hx : x.Only H) (hf : ∀ a, (f a).Only H) :
    (x >>= f).Only H := by
  refine Leaves.bind hx ?_
  intro a events hevents
  refine (hf a).mono ?_
  intro b later hlater d hd
  rcases List.mem_append.mp hd with hd | hd
  · exact hevents d hd
  · exact hlater d hd

/-- An operation is told of with a value that it gives. -/
theorem told {x : Action ε σ α} {event : α → δ} (h : ∀ a, x.CanGive a → H (event a)) :
    (x.told event).Only H := by
  intro s d hd
  rw [events_told] at hd
  rw [List.mem_singleton.mp hd]
  exact h _ ⟨s, rfl⟩

end Only

end Action

open GssContext.Action

/-! ## Genuine steps

A deed of a step says what the mechanism was given and what it answered. It is genuine
if the mechanism can answer so in some world. This is what connects the deeds of a
negotiation with what is known of single steps. -/

/-- What a deed tells of a step, if that is what it tells of. -/
def Deed.taken? : Deed ν κ → Option (Taken ν κ)
  | .stepped taken => some taken
  | _ => none

/-- The mechanism can do the step. -/
def Taken.Genuine (mechanism : Mechanism (Action ε σ) ν κ) (t : Taken ν κ) : Prop :=
  (mechanism.initStep t.before t.target t.wanted t.flags t.input).CanGive (t.step, t.after)

/-- If the deed tells of a step then of one that the mechanism can do. -/
def Deed.Genuine (mechanism : Mechanism (Action ε σ) ν κ) (d : Deed ν κ) : Prop :=
  ∀ taken, d.taken? = some taken → taken.Genuine mechanism

/-- The steps that deeds tell of. -/
def stepsTaken (deeds : List (Deed ν κ)) : List (Taken ν κ) := deeds.filterMap Deed.taken?

/-- The steps of two lists are those of the one and then of the other. -/
theorem stepsTaken_append (deeds later : List (Deed ν κ)) :
    stepsTaken (deeds ++ later) = stepsTaken deeds ++ stepsTaken later := List.filterMap_append

/-- Deeds that tell of no step are genuine. -/
theorem genuine_of_stepsTaken {mechanism : Mechanism (Action ε σ) ν κ} {deeds : List (Deed ν κ)}
    (h : stepsTaken deeds = []) : ∀ d ∈ deeds, d.Genuine mechanism := by
  intro d hd taken htaken
  have hmem : taken ∈ stepsTaken deeds := List.mem_filterMap.mpr ⟨d, hd, htaken⟩
  rw [h] at hmem
  cases hmem

/-- The step of a round is all that it tells of steps. -/
theorem Round.stepsTaken_deeds (r : Round ν κ) : stepsTaken r.deeds = [r.taken] := by
  obtain ⟨taken, sent, received⟩ := r
  cases sent <;> cases received <;> rfl

namespace Negotiation

/-- The rounds tell of one step each. -/
theorem stepsTaken_rounds (rounds : List (Round ν κ)) :
    stepsTaken (rounds.flatMap Round.deeds) = rounds.map Round.taken := by
  induction rounds with
  | nil => rfl
  | cons r rounds ih =>
    rw [List.flatMap_cons, stepsTaken_append, r.stepsTaken_deeds, ih]
    rfl

/-- To give a context back is no step. -/
theorem stepsTaken_givenBack (context : Option κ)
    (result : Except NegotiationError (SecurityContext κ)) :
    stepsTaken (givenBack context result : List (Deed ν κ)) = [] := by
  cases result <;> cases context <;> rfl

variable (mechanism : Mechanism (Action ε σ) ν κ) (transport : Transport (Action ε σ))

/-- To give up takes no step. -/
theorem abandon_genuine (ctx : SecurityContext κ) (e : NegotiationError) :
    (abandon mechanism.observed ctx e).Only (Deed.Genuine mechanism) := by
  refine (abandon_leaves ctx e).mono ?_
  rintro _ _ ⟨-, rfl⟩
  apply genuine_of_stepsTaken
  cases ctx.handle <;> rfl

/-- The step of a round is the mechanism's, with the answer that it gave. -/
theorem initStep_genuine (ctx : SecurityContext κ) (target : ν) (wanted : Option Oid)
    (flags : Flags) (input : Option Bytes) :
    (ctx.initStep mechanism.observed target wanted flags input).Only
      (Deed.Genuine mechanism) := by
  refine .bind (.told ?_) fun _ => .pure _
  rintro ⟨step, after⟩ hgives taken htaken
  cases htaken
  exact hgives

/-- To send takes no step. -/
theorem sendOutput_genuine (output : Bytes) :
    (sendOutput transport.observed output : Action (Deed ν κ) σ _).Only
      (Deed.Genuine mechanism) := by
  refine (sendOutput_leaves output).mono ?_
  rintro _ _ ⟨sent, -, -, rfl⟩
  apply genuine_of_stepsTaken
  cases sent <;> rfl

theorem receiveInput_genuine :
    (receiveInput transport.observed : Action (Deed ν κ) σ _).Only (Deed.Genuine mechanism) := by
  refine receiveInput_leaves.mono ?_
  rintro received _ rfl
  exact genuine_of_stepsTaken rfl

theorem finished_genuine (request : Request ν) (ctx : SecurityContext κ) (round : Nat)
    (granted : Flags) : (finished request ctx round granted : Action (Deed ν κ) σ _).Only
      (Deed.Genuine mechanism) := by
  refine (finished_leaves request ctx round granted).mono ?_
  rintro _ _ ⟨-, rfl⟩
  exact genuine_of_stepsTaken rfl

/-- Whatever comes in, every step of a negotiation is the mechanism's. By induction on
the rounds that are left, in which only the step itself leaves a deed of this kind. -/
theorem rounds_genuine (request : Request ν) (left round : Nat) (input : Option Bytes)
    (ctx : SecurityContext κ) :
    (rounds mechanism.observed transport.observed request left round input ctx).Only
      (Deed.Genuine mechanism) := by
  -- only the step tells of a step; whatever else a round does is genuine as it is
  induction left generalizing round input ctx with
  | zero => exact .note_bind (abandon_genuine mechanism ctx _)
  | succ left ih =>
    rw [rounds]
    refine .bind (initStep_genuine mechanism ctx _ _ _ _) ?_
    rintro ⟨step, ctx⟩
    refine .note_bind (.bind (sendOutput_genuine mechanism transport _) ?_)
    rintro (e | ⟨⟩)
    · exact abandon_genuine mechanism ctx _
    · dsimp only
      cases step.status with
      | failure status => exact abandon_genuine mechanism ctx _
      | complete => exact finished_genuine mechanism request ctx round _
      | continueNeeded =>
        dsimp only
        by_cases hleft : left = 0
        · rw [if_pos hleft]
          exact .note_bind (abandon_genuine mechanism ctx _)
        · rw [if_neg hleft]
          refine .bind (receiveInput_genuine mechanism transport) ?_
          rintro (e | token)
          · exact abandon_genuine mechanism ctx _
          · exact ih _ _ _

end Negotiation

/-! ## The second step is the last

A step that asks for an answer is a first one. A third round would need two steps that
ask for one, and the second of them would have to begin without a context, though the
first one left one. -/

namespace Psk

variable {env : Environment (Action ε σ)} {config : Config}

/-- A genuine step that asks for an answer is the first one, and leaves a context. -/
theorem Initiator.of_continueNeeded {taken : Taken ServiceName Context}
    (hgenuine : taken.Genuine (mechanism env config))
    (hstatus : taken.step.status = .continueNeeded) :
    taken.before = none ∧ ∃ c, taken.after = some c := by
  obtain ⟨w, hgives⟩ := hgenuine
  let call : InitCall := ⟨taken.target, taken.wanted, taken.flags, taken.input⟩
  have hside : side env config taken.before call w = (taken.step, taken.after) := hgives
  have hturn : (side env config).turn taken.before (call, w) =
      ⟨taken.before, call, taken.step, taken.after⟩ := by
    rw [Side.turn, hside]
  have hasks : ((side env config).turn taken.before (call, w)).step.status = .continueNeeded := by
    rw [hturn]
    exact hstatus
  obtain ⟨hbefore, hafter⟩ := (side_begins_concludes env config).of_continueNeeded hasks
  rw [hturn] at hafter
  exact ⟨hbefore, hafter⟩

/-- A list of rounds that lead from one to the next has two elements at most. -/
theorem Initiator.length_rounds_le {request : Negotiation.Request ServiceName} {left : Nat}
    {input : Option Bytes} {rounds : List (Round ServiceName Context)}
    {result : Except NegotiationError (SecurityContext Context)}
    (h : Negotiation.Account request left input none rounds result)
    (hgenuine : ∀ r ∈ rounds, r.taken.Genuine (mechanism env config)) : rounds.length ≤ 2 := by
  rcases rounds with _ | ⟨r, _ | ⟨r', _ | ⟨r'', rest⟩⟩⟩
  · exact Nat.zero_le 2
  · exact Nat.le_succ 1
  · exact Nat.le_refl 2
  · -- the first two rounds both led to another one, but the second has a context
    obtain ⟨⟨token, hpassed, -⟩, -⟩ := h.next 0 r r' rfl rfl
    obtain ⟨⟨token', hpassed', -⟩, -⟩ := h.next 1 r' r'' rfl rfl
    obtain ⟨-, hbefore⟩ := h.next 0 r r' rfl rfl
    obtain ⟨-, c, hsome⟩ := of_continueNeeded (hgenuine r (by simp)) hpassed.status
    obtain ⟨hnone, -⟩ := of_continueNeeded (hgenuine r' (by simp)) hpassed'.status
    cases hnone.symm.trans (hbefore.trans hsome)

/-- The rounds of a negotiation, each with a step that the initiator can take. -/
theorem Initiator.rounds_genuinely (env : Environment (Action ε σ)) (config : Config)
    (transport : Transport (Action ε σ)) (request : Negotiation.Request ServiceName)
    (left round : Nat) (input : Option Bytes) :
    (Negotiation.rounds (mechanism env config).observed transport.observed request left round
      input .new).Leaves fun result deeds =>
        ∃ rounds : List (Round ServiceName Context),
          Negotiation.Account request left input none rounds result ∧
          (∀ r ∈ rounds, r.taken.Genuine (mechanism env config)) ∧
          deeds = rounds.flatMap Round.deeds ++
            Negotiation.givenBack (held none (rounds.flatMap Round.deeds)) result := by
  intro w
  obtain ⟨rounds, haccount, hdeeds⟩ :=
    Negotiation.rounds_leaves (mechanism env config) transport request left round input .new w
  have hgenuine :=
    Negotiation.rounds_genuine (mechanism env config) transport request left round input .new w
  rw [hdeeds] at hgenuine
  refine ⟨rounds, haccount, ?_, hdeeds⟩
  intro r hr
  refine hgenuine (.stepped r.taken) (List.mem_append_left _ ?_) _ rfl
  exact List.mem_flatMap.mpr ⟨r, hr, List.mem_cons_self⟩

/-- A negotiation takes two steps at most, whatever comes in. -/
theorem Initiator.rounds_steps (env : Environment (Action ε σ)) (config : Config)
    (transport : Transport (Action ε σ)) (request : Negotiation.Request ServiceName)
    (left round : Nat) (input : Option Bytes) :
    (Negotiation.rounds (mechanism env config).observed transport.observed request left round
      input .new).Leaves fun _ deeds => (stepsTaken deeds).length ≤ 2 := by
  refine (rounds_genuinely env config transport request left round input).mono ?_
  rintro _ _ ⟨rounds, haccount, hgenuine, rfl⟩
  -- what the rounds tell of steps is one step for each of them
  rw [stepsTaken_append, Negotiation.stepsTaken_rounds, Negotiation.stepsTaken_givenBack,
    List.append_nil, List.length_map]
  exact length_rounds_le haccount hgenuine

/-- The same for a whole negotiation, which has no step but those of its rounds. -/
theorem Initiator.establish_steps (env : Environment (Action ε σ)) (config : Config)
    (transport : Transport (Action ε σ)) (maxRounds : Nat) (target : String) (requested : Flags)
    (wanted : Option Oid) :
    (Negotiation.establish (mechanism env config).observed transport.observed maxRounds target
      requested wanted).Leaves fun _ deeds => (stepsTaken deeds).length ≤ 2 := by
  refine .told_bind ?_
  rintro (status | name)
  · exact .pure (Nat.zero_le 2)
  · exact .note_bind (rounds_steps env config transport _ maxRounds 1 none)

end Psk

/-! ## The peer's loop

On the other side tokens are fed to an acceptor in a loop. `Reads` counts them: no
token, one that was answered, and after that the handshake is over, whether well or not. -/

namespace Rehearsal.PskPeer

open Psk

variable {p : PskPeer} {consumed : Nat}

/-- A peer that consumed so many tokens. -/
inductive Reads : PskPeer → Nat → Prop where
  | fresh {p : PskPeer} (hphase : p.phase = .handshake) (hcontext : p.context = none)
      (hseen : p.seen = []) : Reads p 0
  | answered {p : PskPeer} {c : Context} (hphase : p.phase = .handshake)
      (hcontext : p.context = some c) (hseen : p.seen.length = 1) : Reads p 1
  | ended {p : PskPeer} {consumed : Nat} (hphase : p.phase ≠ .handshake)
      (hseen : p.seen.length ≤ 2) : Reads p consumed

/-- A token of the handshake is a step of the acceptor, and the loop goes on
only if the step asks for an answer. -/
theorem feed_handshake (hphase : p.phase = .handshake) (token : Bytes) :
    let t := (p.acceptor.side (Simulated.environment : Environment (Action Empty Simulated))).turn
      p.context (token, p.env)
    (p.feed token).1.context = t.after ∧ (p.feed token).1.seen = token :: p.seen ∧
      ((p.feed token).1.phase = .handshake → t.step.status = .continueNeeded) := by
  intro t
  have haccept : p.accept token = (t.step, { p with
      context := t.after
      env := (p.accept token).2.env }) := rfl
  rw [feed, hphase]
  dsimp only
  rw [handshakeToken, haccept]
  dsimp only
  cases hstatus : t.step.status with
  | continueNeeded => exact ⟨rfl, rfl, fun _ => rfl⟩
  | complete => exact ⟨rfl, rfl, fun h => by cases h⟩
  | failure status => exact ⟨rfl, rfl, fun h => by cases h⟩

/-- After the handshake no token is counted any more. -/
theorem feed_ended (hphase : p.phase ≠ .handshake) (token : Bytes) :
    (p.feed token).1.phase ≠ .handshake ∧ (p.feed token).1.seen = p.seen := by
  rw [feed]
  cases hp : p.phase with
  | handshake => exact absurd hp hphase
  | done report => exact ⟨by simp [hp], rfl⟩
  | failed e => exact ⟨by simp [hp], rfl⟩
  | message =>
    dsimp only
    unfold messageToken
    split
    · exact ⟨(fun h => by cases h), rfl⟩
    split
    · exact ⟨(fun h => by cases h), rfl⟩
    split
    · exact ⟨(fun h => by cases h), rfl⟩
    · exact ⟨(fun h => by cases h), rfl⟩

/-- Each token takes the peer on. In the handshake it is counted, and the step that it
goes to decides whether the handshake is over; after that nothing is counted. -/
theorem Reads.feed (h : p.Reads consumed) (token : Bytes) :
    (p.feed token).1.Reads (consumed + 1) := by
  have htakes := Acceptor.side_begins_concludes
    (Simulated.environment_exact : (Simulated.environment : Environment (Action Empty _)).Exact)
    p.acceptor
  cases h with
  | fresh hphase hcontext hseen =>
    obtain ⟨hafter, hseen', hgoes⟩ := feed_handshake hphase token
    rw [hseen] at hseen'
    by_cases hphase' : (p.feed token).1.phase = .handshake
    · obtain ⟨-, c, hc⟩ := htakes.of_continueNeeded (hgoes hphase')
      exact .answered hphase' (hafter.trans hc) (by rw [hseen', List.length_singleton])
    · exact .ended hphase' (by rw [hseen', List.length_singleton]; exact Nat.le_succ 1)
  | answered hphase hcontext hseen =>
    obtain ⟨-, hseen', hgoes⟩ := feed_handshake hphase token
    -- a second step never asks for an answer, so the loop ends here
    refine .ended ?_ (by rw [hseen', List.length_cons, hseen])
    intro hphase'
    obtain ⟨hnone, -⟩ := htakes.of_continueNeeded (hgoes hphase')
    cases hnone.symm.trans hcontext
  | ended hphase hseen =>
    obtain ⟨hphase', hseen'⟩ := feed_ended hphase token
    exact .ended hphase' (by rwa [hseen'])

/-- And so do many. -/
theorem Reads.feedAll (h : p.Reads consumed) (tokens : List Bytes) :
    (tokens.foldl (fun p token => (p.feed token).1) p).Reads (consumed + tokens.length) := by
  induction tokens generalizing p consumed with
  | nil => exact h
  | cons token tokens ih =>
    rw [List.foldl_cons, List.length_cons, Nat.add_comm tokens.length, ← Nat.add_assoc]
    exact ih (h.feed token)

/-- Of the tokens that are fed two at most belong to the handshake. -/
theorem Reads.seen_le (h : p.Reads consumed) : p.seen.length ≤ 2 := by
  cases h with
  | fresh _ _ hseen => rw [hseen]; exact Nat.zero_le 2
  | answered _ _ hseen => rw [hseen]; exact Nat.le_succ 1
  | ended _ hseen => exact hseen

theorem Reads.over_of_le (h : p.Reads consumed) (htwo : 2 ≤ consumed) : p.phase ≠ .handshake := by
  cases h with
  | fresh | answered => omega
  | ended hphase => exact hphase

end Rehearsal.PskPeer

/-! ## Lives and what follows

The lives of single contexts, the negotiation and the loop are put together, for any
acceptor and any initiator. -/

open Rehearsal

/-- **The life of a context, on both sides.** Whatever is asked of an initiator
or of an acceptor, in any order and with any tokens, the context is absent,
waits, and is open, in this order: `Lives` says all that holds of it on the way.
So a negotiation never takes a third step, and the peer's loop reads two tokens
at most, whatever comes in. -/
theorem Psk.lives_in_order {env env' : Environment (Action ε σ)} (hexact : env.Exact)
    (hexact' : env'.Exact) (config : Config) (acceptor : Acceptor) :
    (∀ asks : List (Ask InitCall × σ),
        Lives Initiator.Awaits (· ≠ []) ((Initiator.side env config).life env none asks)) ∧
      (∀ asks : List (Ask Bytes × σ),
        Lives Acceptor.Awaits (· = []) ((acceptor.side env').life env' none asks)) ∧
      (∀ (transport : Transport (Action ε σ)) (maxRounds : Nat) (target : String)
          (requested : Flags) (wanted : Option Oid) (w : σ),
        let observed : Action (Deed ServiceName Context) σ _ :=
          Negotiation.establish (Initiator.mechanism env config).observed transport.observed
            maxRounds target requested wanted
        observed.run w = (Negotiation.establish (Initiator.mechanism env config) transport
            maxRounds target requested wanted).run w ∧
          (stepsTaken (observed.events w)).length ≤ 2) ∧
      ∀ (machine : Simulated) (tokens : List Bytes),
        let p := tokens.foldl (fun p token => (PskPeer.feed p token).1) { acceptor, env := machine }
        p.seen.length ≤ 2 ∧ (2 ≤ tokens.length → p.phase ≠ .handshake) := by
  refine ⟨Initiator.lives hexact config, Acceptor.lives hexact' acceptor, ?_, ?_⟩
  · intro transport maxRounds target requested wanted w observed
    refine ⟨congrFun (Negotiation.run_establish_observed _ transport ..) w, ?_⟩
    exact Initiator.establish_steps env config transport maxRounds target requested wanted w
  · intro machine tokens p
    -- a fresh peer has read nothing, and each token it is fed counts at most one
    have hfresh : PskPeer.Reads { acceptor, env := machine } 0 := .fresh rfl rfl rfl
    have hreads := hfresh.feedAll tokens
    rw [Nat.zero_add] at hreads
    exact ⟨hreads.seen_le, hreads.over_of_le⟩

/-- An impatient initiator wraps before there is a context, and while there is
no answer yet. A peer gets its hello, and two tokens that are none. -/
theorem Psk.lives_of_impatient :
    let key : PreSharedKey := ⟨List.replicate 16 7, Nat.le_refl 16⟩
    let config : Config := ⟨key, "alice", Config.defaultLifetime⟩
    let service : ServiceName := ⟨"echo", some "host"⟩
    let acceptor : Acceptor := ⟨⟨key, "echo@host", Config.defaultLifetime⟩, service, true⟩
    let env : Environment (Action Empty Simulated) := Simulated.environment
    let nonce : Bytes := List.replicate 32 5
    let world := Simulated.ofSupply nonce
    let hello := (greeted config service .empty nonce).1.output
    let reply := (answered config acceptor service .empty nonce nonce).1.output
    let greet : InitCall := ⟨service, none, .empty, none⟩
    let finish : InitCall := ⟨service, none, .empty, some reply⟩
    let wrap : Ask InitCall := .message (.wrap [1, 2, 3] false)
    let life := (Initiator.side env config).life env none
      [(wrap, world), (.step greet, world), (wrap, world), (.step finish, world)]
    let p := [hello, [0], [1]].foldl (fun p token => (PskPeer.feed p token).1)
      { acceptor, env := world }
    Lives Initiator.Awaits (· ≠ []) life ∧
      life.map (fun m => (m.success?, m.told == .answered (.refused .noContext))) =
        [(none, true), (some .continueNeeded, false), (none, true), (some .complete, false)] ∧
      p.seen = [[0], hello] ∧ p.seen.length ≤ 2 ∧ p.phase ≠ .handshake := by
  intro key config service acceptor env nonce world hello reply greet finish wrap life p
  obtain ⟨hlives, -, -, hpeer⟩ := @lives_in_order _ _ env env Simulated.environment_exact
    Simulated.environment_exact config acceptor
  obtain ⟨hseen, hover⟩ := hpeer world [hello, [0], [1]]
  have hmeeting : Meeting config acceptor service :=
    ⟨rfl, by decide +kernel, by decide +kernel, by decide, by decide, by decide⟩
  have hdraw : ((env.draw Handshake.nonceSize).run world).1 = .ok nonce := rfl
  have hgreets : Initiator.side env config none greet world = _ :=
    Meeting.side_greets greet (.inl rfl) rfl hdraw
  have hclosed : (greeted config service .empty nonce).2.session? = none := rfl
  have hconcludes : Initiator.side env config (some (greeted config service .empty nonce).2)
      finish world = _ :=
    hmeeting.side_concludes (ServiceName.accepts_self service) rfl finish (.inl rfl) rfl rfl
  refine ⟨hlives _, ?_, by decide +kernel, hseen, hover (by decide)⟩
  -- the asks one by one, with the two steps as they are known from the meeting
  change ((Initiator.side env config).life env none
    [(wrap, world), (.step greet, world), (wrap, world), (.step finish, world)]).map _ = _
  rw [Side.life, Side.moment_message_none, Side.life, Side.moment_step, Side.turn, hgreets,
    Side.life, Side.moment_message, Context.run_call_closed hclosed, Side.life, Side.moment_step,
    Side.turn, hconcludes, Side.life]
  rfl

end GssContext
