/-
What a larger bound on the rounds changes.

Two negotiations that differ only in the number of rounds they are allowed go
through the same rounds for as long as both have one left. If the smaller bound
is enough to end, by success or by a failure, the larger one is never looked at
and the two are the same in everything. If it is not, the one with the smaller
bound stops after the last step it has, closes the context and does nothing
more, while the other one waits for an answer there.

`GoesOn` is that relation between two outcomes. It is closed under doing the same
first, so the induction on the rounds that are left has one case for each way out
of a round. The context that the last step left is carried along, since that is
what the one that stops gives back.
-/
import GssContext.Proofs.Negotiation.Trace

set_option autoImplicit false

namespace GssContext.Negotiation

open GssContext.Action

variable {ε σ ν κ α : Type}

/-! ## One outcome that goes on from another

Outcomes are compared whole, with their value, their state and their events. The one
with the smaller bound comes first. If it ended for the bound, the other one may end in
any way and any state, and all that is claimed is that it began with the same events,
where the one event by which the first one gave its context back does not count. -/

/-- A negotiation in which some deeds were done, from a context on, ended for
another reason than the bound, and the other one is no different; or it ended for
the bound, and all that it did but for giving its context back is what the other
one did first. -/
inductive GoesOn (context : Option κ)
    (o o' : Outcome (Deed ν κ) σ (Except NegotiationError (SecurityContext κ))) : Prop
  | same (h : o' = o) (hvalue : ∀ limit, o.value ≠ .error (.tooManyRounds limit))
  | ranOut {limit : Nat} (before : List (Deed ν κ))
      (hvalue : o.value = .error (.tooManyRounds limit))
      (hevents : o.events = before ++ (held context before).toList.map .released)
      (hstarts : before <+: o'.events)

namespace GoesOn

variable {context after : Option κ} {x : Action (Deed ν κ) σ α} {s : σ}
  {f g : α → Action (Deed ν κ) σ (Except NegotiationError (SecurityContext κ))}

/-- The same first, and then what goes on from the context that it leaves. -/
theorem bind (hheld : held context (x.events s) = after)
    (h : GoesOn after (f (x s).value (x s).state) (g (x s).value (x s).state)) :
    GoesOn context ((x >>= f) s) ((x >>= g) s) := by
  cases h with
  | same h hvalue =>
    refine .same ?_ hvalue
    rw [bind_apply, bind_apply, h]
  | ranOut before hvalue hevents hstarts =>
    have hfirst (k : α → Action (Deed ν κ) σ (Except NegotiationError (SecurityContext κ))) :
        ((x >>= k) s).events = x.events s ++ (k (x s).value (x s).state).events :=
      events_bind x k s
    refine .ranOut (x.events s ++ before) hvalue ?_ ?_
    · rw [hfirst, hevents, held_append, hheld, List.append_assoc]
    · rw [hfirst]
      exact (List.prefix_append_right_inj _).mpr hstarts

/-- A line of the journal is no deed. -/
theorem note_bind {line : LogLine}
    {f g : Unit → Action (Deed ν κ) σ (Except NegotiationError (SecurityContext κ))}
    (h : GoesOn context (f () s) (g () s)) :
    GoesOn context ((note line >>= f) s) ((note line >>= g) s) :=
  bind (x := note line) rfl h

end GoesOn

/-! ## The parts of a round

Two kinds of lemmas are needed of each part. A part that ends the negotiation has an
outcome that goes on from itself, or from which anything goes on. A part after which
more comes has events, and of these it must be known which context they leave, since
that is what is given back later. -/

section

variable {mechanism : Mechanism (Action ε σ) ν κ} {transport : Transport (Action ε σ)}
  {context : Option κ}

/-- A negotiation that is given up for a reason of its own is the same for every bound. -/
theorem abandon_goesOn (ctx : SecurityContext κ) {e : NegotiationError}
    (he : ∀ limit, e ≠ .tooManyRounds limit) (s : σ) :
    GoesOn context (abandon mechanism.observed ctx e s) (abandon mechanism.observed ctx e s) :=
  .same rfl fun limit h => he limit (Except.error.inj h)

/-- Success says nothing of the bound. -/
theorem finished_goesOn (request : Request ν) (limit : Nat) (ctx : SecurityContext κ)
    (round : Nat) (granted : Flags) (s : σ) :
    GoesOn context ((finished request ctx round granted : Action (Deed ν κ) σ _) s)
      ((finished { request with maxRounds := limit } ctx round granted :
        Action (Deed ν κ) σ _) s) := by
  have hrun : (finished request ctx round granted : Action (Deed ν κ) σ _).run s =
      (.ok (ctx.opened granted), s) := run_finished ctx round granted s
  refine .same rfl fun limit hvalue => ?_
  cases (congrArg Prod.fst hrun).symm.trans hvalue

/-- Where the rounds have run out nothing is done but to give the context back,
and whatever the other one does goes on from there. -/
theorem exhausted_goesOn (request : Request ν) (ctx : SecurityContext κ) (s : σ)
    (o' : Outcome (Deed ν κ) σ (Except NegotiationError (SecurityContext κ))) :
    GoesOn ctx.handle (exhausted mechanism.observed request ctx s) o' := by
  have hleaves : (exhausted mechanism.observed request ctx).Leaves fun result deeds =>
      result = .error (.tooManyRounds request.maxRounds) ∧
        deeds = ctx.handle.toList.map .released :=
    .note_bind (abandon_leaves ctx _)
  obtain ⟨hvalue, hevents⟩ := hleaves s
  exact .ranOut [] hvalue hevents List.nil_prefix

/-- A step is a deed that leaves its context. -/
theorem held_initStep (ctx : SecurityContext κ) (target : ν) (wanted : Option Oid) (flags : Flags)
    (input : Option Bytes) (s : σ) :
    held ctx.handle ((ctx.initStep mechanism.observed target wanted flags input).events s) =
      ((ctx.initStep mechanism.observed target wanted flags input) s).value.2.handle := by
  have hleaves : (ctx.initStep mechanism.observed target wanted flags input).Leaves _ :=
    ctx.initStep_leaves target wanted flags input
  obtain ⟨after, hstepped, hevents⟩ := hleaves s
  rw [hevents]
  exact (congrArg SecurityContext.handle hstepped).symm

/-- What is sent leaves the context alone. -/
theorem held_sendOutput (output : Bytes) (s : σ) :
    held context ((sendOutput transport.observed output : Action (Deed ν κ) σ _).events s) =
      context := by
  have hleaves : (sendOutput transport.observed output : Action (Deed ν κ) σ _).Leaves _ :=
    sendOutput_leaves output
  obtain ⟨sent, -, -, hevents⟩ := hleaves s
  rw [hevents]
  cases sent <;> rfl

theorem held_receiveInput (s : σ) :
    held context ((receiveInput transport.observed : Action (Deed ν κ) σ _).events s) =
      context := by
  rw [receiveInput_leaves s]
  rfl

end

/-! ## Rounds

Both negotiations are followed at the same time, from the same call with different
numbers of rounds left. As long as the smaller one has some left, both do the same, and
`GoesOn.bind` strips it off. -/

section

variable (mechanism : Mechanism (Action ε σ) ν κ) (transport : Transport (Action ε σ))

/-- **Rounds with more of them allowed.** The request names the bound as well, but only
in the error for want of rounds, so the two requests may differ there. -/
theorem rounds_goesOn (request : Request ν) (limit left more round : Nat) (input : Option Bytes)
    (ctx : SecurityContext κ) (s : σ) :
    GoesOn ctx.handle (rounds mechanism.observed transport.observed request left round input ctx s)
      (rounds mechanism.observed transport.observed { request with maxRounds := limit }
        (left + more) round input ctx s) := by
  -- the induction is on the rounds that the smaller bound has left
  induction left generalizing round input ctx s with
  | zero => exact exhausted_goesOn request ctx s _
  | succ left ih =>
    rw [Nat.add_right_comm, rounds, rounds]
    refine .bind (held_initStep ctx _ _ _ _ s) ?_
    generalize (ctx.initStep mechanism.observed request.target request.wanted request.flags input s)
      = stepped
    obtain ⟨⟨step, ctx⟩, s, -⟩ := stepped
    refine .note_bind (.bind (held_sendOutput step.output s) ?_)
    generalize (sendOutput transport.observed step.output : Action (Deed ν κ) σ _) s = sent
    obtain ⟨e | ⟨⟩, s, -⟩ := sent
    · exact abandon_goesOn ctx (fun _ => NegotiationError.noConfusion) s
    dsimp only
    cases step.status with
    | failure status => exact abandon_goesOn ctx (fun _ => NegotiationError.noConfusion) s
    | complete => exact finished_goesOn request limit ctx round step.granted s
    | continueNeeded =>
      -- in its last round the smaller bound is noticed, whatever the larger one allows
      by_cases hleft : left = 0
      · dsimp only
        rw [if_pos hleft]
        exact exhausted_goesOn request ctx s _
      · dsimp only
        rw [if_neg hleft, if_neg (by omega)]
        refine .bind (held_receiveInput s) ?_
        generalize (receiveInput transport.observed : Action (Deed ν κ) σ _) s = received
        obtain ⟨e | token, s, -⟩ := received
        · exact abandon_goesOn ctx (fun _ => NegotiationError.noConfusion) s
        · exact ih (round + 1) (some token) ctx s

/-! ## A whole negotiation

Before the rounds there is only the import of the name, which holds no context and knows
nothing of the bound. Then the relation is read: an outcome for the bound tells which of
the two cases it is. -/

/-- Every further round that is allowed comes after what was done without it. -/
theorem establish_goesOn (bound more : Nat) (target : String) (requested : Flags)
    (wanted : Option Oid) (s : σ) :
    GoesOn none
      (establish mechanism.observed transport.observed bound target requested wanted s)
      (establish mechanism.observed transport.observed (bound + more) target requested wanted
        s) := by
  rw [establish, establish]
  have hheld : held none ((mechanism.observed.importName target).events s) = none := by
    have himport : mechanism.observed.importName target =
        (mechanism.importName target).told (.imported target) := rfl
    rw [himport, events_told]
    rfl
  refine .bind hheld ?_
  generalize mechanism.observed.importName target s = imported
  obtain ⟨status | name, s, -⟩ := imported
  · exact .same rfl fun limit h => NegotiationError.noConfusion (Except.error.inj h)
  · exact .note_bind (rounds_goesOn mechanism transport _ _ bound more 1 none .new s)

/-- **A larger bound never changes a negotiation that has ended.** If `n` rounds
were enough to end it, in success or in failure, then with `m` rounds the same is
done, in the same order and with the same answers, the mechanism and the transport
are left in the same state, and the result is the same. If they were not enough,
then all that was done with `n` rounds, but for giving back the context that the
last step left, is what is done first with `m`. Observing changes nothing of it. -/
theorem establish_of_more_rounds {n m : Nat} (h : n ≤ m) (target : String) (requested : Flags)
    (wanted : Option Oid) (w : σ) :
    let run (bound : Nat) : Action (Deed ν κ) σ (Except NegotiationError (SecurityContext κ)) :=
      establish mechanism.observed transport.observed bound target requested wanted
    (∀ bound, (run bound).run w =
      (establish mechanism transport bound target requested wanted).run w) ∧
    ((∀ limit, (run n w).value ≠ .error (.tooManyRounds limit)) → run m w = run n w) ∧
    ∀ limit, (run n w).value = .error (.tooManyRounds limit) →
      ∃ before, (run n w).events = before ++ (held none before).toList.map .released ∧
        before <+: (run m w).events := by
  intro run
  obtain ⟨more, rfl⟩ := Nat.exists_eq_add_of_le h
  refine ⟨fun bound => congrFun (run_establish_observed mechanism transport ..) w, ?_, ?_⟩
  · intro hvalue
    -- a run that does not end for want of rounds is the run with more of them
    cases establish_goesOn mechanism transport n more target requested wanted w with
    | same h _ => exact h
    | ranOut before hran _ _ => exact absurd hran (hvalue _)
  · intro limit hvalue
    cases establish_goesOn mechanism transport n more target requested wanted w with
    | same _ hnever => exact absurd hvalue (hnever limit)
    | ranOut before _ hevents hstarts => exact ⟨before, hevents, hstarts⟩

end

end GssContext.Negotiation

namespace GssContext.Rehearsal

/-- A script that is established in its third step. With two rounds the second
token is sent and the context is given back; the third round goes on from there
with what is received, and four more change nothing. -/
theorem more_rounds_of_third_step :
    let mechanism : Mechanism (Action Event (Scripted × Memory)) String Scripted.Context :=
      Scripted.mechanism.hoist Action.onFst
    let transport : Transport (Action Event (Scripted × Memory)) := Memory.beside.toTransport
    let world : Scripted × Memory :=
      ({ script := [.proceed [1], .proceed [2], .complete [3] .empty] },
        { inbound := [[9], [8], [7]] })
    let run (bound : Nat) : Action (Deed String Scripted.Context) (Scripted × Memory) _ :=
      Negotiation.establish mechanism.observed transport.observed bound "svc" .empty none
    let flags : Flags := .of [.replay]
    let first : Scripted.Context := { rounds := 1 }
    let second : Scripted.Context := { rounds := 2, heard := [[9]] }
    (run 2 world).value = .error (.tooManyRounds 2) ∧
      (run 2 world).events =
        [.imported "svc" (.ok "svc"),
          .stepped ⟨none, "svc", none, flags, none, ⟨.continueNeeded, [1], .empty⟩, some first⟩,
          .sent [1] (.ok ()), .received (.ok [9]),
          .stepped ⟨some first, "svc", none, flags, some [9], ⟨.continueNeeded, [2], .empty⟩,
            some second⟩,
          .sent [2] (.ok ()), .released second] ∧
      (∃ before, (run 2 world).events = before ++ (held none before).toList.map .released ∧
        before <+: (run 3 world).events) ∧
      (∀ limit, (run 3 world).value ≠ .error (.tooManyRounds limit)) ∧
      run 7 world = run 3 world := by
  intro mechanism transport world run flags first second
  have htwo : (run 2 world).value = .error (.tooManyRounds 2) := by decide +kernel
  have hthree : ∀ limit, (run 3 world).value ≠ .error (.tooManyRounds limit) := by
    have hok : (run 3 world).value.toOption.isSome = true := by decide +kernel
    intro limit hvalue
    rw [hvalue] at hok
    cases hok
  obtain ⟨-, -, hran⟩ := Negotiation.establish_of_more_rounds mechanism transport
    (by decide : 2 ≤ 3) "svc" .empty none world
  obtain ⟨-, hsame, -⟩ := Negotiation.establish_of_more_rounds mechanism transport
    (by decide : 3 ≤ 7) "svc" .empty none world
  exact ⟨htwo, by decide +kernel, hran 2 htwo, hthree, hsame hthree⟩

end GssContext.Rehearsal
