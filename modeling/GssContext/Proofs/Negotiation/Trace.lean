/-
What a negotiation does, deed by deed.

An observed negotiation leaves the deed of importing the name and then those of
its rounds, one after the other: the step, the sending of its token if it has
one, and the receiving of the next one. `Account` says all that holds of such a
list of rounds. It is stated for the rounds from any point on, since that is
what the induction is on: the number of rounds that are left, for any token
that came in last and any context that the last step left.

Whatever ends the negotiation short of success, the context that the last step
left is released, once, and nothing comes after it.
-/
import GssContext.Proofs.Negotiation
import GssContext.Proofs.Observed
import GssContext.Rehearsal.Engagement

set_option autoImplicit false

namespace GssContext

open GssContext.Action

variable {ε σ ν κ : Type}

/-! ## Rounds

A list of deeds is hard to speak about: a round can leave one deed, two or three. So the
deeds are grouped. A `Round` is a step and what became of its token and of the wait for
an answer, its deeds can be read off it, and every list of deeds that a negotiation
leaves is shown to be those of a list of rounds. -/

/-- A round: its step, what came of sending the token of the step, and what was
received then. -/
structure Round (ν κ : Type) where
  taken : Taken ν κ
  sent : Option (Except TransportError Unit)
  received : Option (Except TransportError Bytes)

namespace Round

/-- What is done in a round. -/
def deeds (r : Round ν κ) : List (Deed ν κ) :=
  .stepped r.taken ::
    (r.sent.toList.map (.sent r.taken.step.output) ++ r.received.toList.map .received)

/-- The token of the round, if there is one, was sent. -/
def Delivered (r : Round ν κ) : Prop := ∀ e, r.sent ≠ some (.error e)

/-- The round led to another one, with this token. -/
structure Passed (r : Round ν κ) (token : Bytes) : Prop where
  delivered : r.Delivered
  status : r.taken.step.status = .continueNeeded
  received : r.received = some (.ok token)

@[simp] theorem held_deeds (r : Round ν κ) (context : Option κ) :
    held context r.deeds = r.taken.after := by
  obtain ⟨taken, sent, received⟩ := r
  cases sent <;> cases received <;> rfl

end Round

namespace Negotiation

/-- How the rounds end, where `left` of them were allowed: the last one decides. -/
inductive Ends (limit left : Nat) :
    List (Round ν κ) → Except NegotiationError (SecurityContext κ) → Prop where
  | noneLeft : left = 0 → Ends limit left [] (.error (.tooManyRounds limit))
  | unsent (before : List (Round ν κ)) {r : Round ν κ} {e : TransportError} :
      r.sent = some (.error e) → Ends limit left (before ++ [r]) (.error (.transport e))
  | rejected (before : List (Round ν κ)) {r : Round ν κ} {status : Status} :
      r.Delivered → r.taken.step.status = .failure status →
      Ends limit left (before ++ [r]) (.error (.rejected status))
  | complete (before : List (Round ν κ)) {r : Round ν κ} :
      r.Delivered → r.taken.step.status = .complete →
      Ends limit left (before ++ [r])
        (.ok ⟨r.taken.after, .established, r.taken.step.granted⟩)
  | unheard (before : List (Round ν κ)) {r : Round ν κ} {e : TransportError} :
      r.Delivered → r.taken.step.status = .continueNeeded → r.received = some (.error e) →
      Ends limit left (before ++ [r]) (.error (.transport e))
  | exhausted (before : List (Round ν κ)) {r : Round ν κ} :
      r.Delivered → r.taken.step.status = .continueNeeded → (before ++ [r]).length = left →
      Ends limit left (before ++ [r]) (.error (.tooManyRounds limit))

/-- A context that is handed out is open, and holds what the last step left. -/
theorem Ends.holds {limit left : Nat} {rounds : List (Round ν κ)} {ctx : SecurityContext κ}
    (h : Ends limit left rounds (.ok ctx)) (before : Option κ) :
    ctx.isOpen = true ∧ ctx.handle = held before (rounds.flatMap Round.deeds) := by
  cases h with
  | complete passed hdelivered hstatus =>
    rw [List.flatMap_append, List.flatMap_singleton, held_append, Round.held_deeds]
    exact ⟨rfl, rfl⟩

/-- What is done after the rounds: a context that is not handed out is given
back, if there is one. -/
def givenBack (context : Option κ) :
    Except NegotiationError (SecurityContext κ) → List (Deed ν κ)
  | .ok _ => []
  | .error _ => context.toList.map .released

/-- What holds of rounds of which `left` are allowed. They start with a token
that came in, or none, and with the context from before. -/
structure Account (request : Request ν) (left : Nat) (input : Option Bytes) (before : Option κ)
    (rounds : List (Round ν κ)) (result : Except NegotiationError (SecurityContext κ)) : Prop where
  bounded : rounds.length ≤ left
  /-- Every step is asked for the same. -/
  asks : ∀ r ∈ rounds, r.taken.target = request.target ∧ r.taken.wanted = request.wanted ∧
    r.taken.flags = request.flags
  first : ∀ r, rounds[0]? = some r → r.taken.input = input ∧ r.taken.before = before
  /-- Every further step gets the token received after the one before it. -/
  next : ∀ k r r', rounds[k]? = some r → rounds[k + 1]? = some r' →
    (∃ token, r.Passed token ∧ r'.taken.input = some token) ∧ r'.taken.before = r.taken.after
  sends : ∀ r ∈ rounds, r.sent.isSome ↔ r.taken.step.output ≠ []
  receives : ∀ k r, rounds[k]? = some r →
    (r.received.isSome ↔
      r.Delivered ∧ r.taken.step.status = .continueNeeded ∧ k + 1 < left)
  ends : Ends request.maxRounds left rounds result

/-- A round is asked for what the request says. -/
structure Asked (request : Request ν) (input : Option Bytes) (before : Option κ)
    (r : Round ν κ) : Prop where
  target : r.taken.target = request.target
  wanted : r.taken.wanted = request.wanted
  flags : r.taken.flags = request.flags
  input : r.taken.input = input
  before : r.taken.before = before
  sends : r.sent.isSome ↔ r.taken.step.output ≠ []

namespace Account

variable {request : Request ν} {left : Nat} {input : Option Bytes} {before : Option κ}
  {result : Except NegotiationError (SecurityContext κ)}

/-- No round is left. -/
theorem nil : Account request 0 input before []
    (.error (.tooManyRounds request.maxRounds)) where
  bounded := Nat.le_refl 0
  asks := by
    intro r hr
    cases hr
  first := by
    intro r hr
    cases hr
  next := by
    intro k r r' hr
    cases hr
  sends := by
    intro r hr
    cases hr
  receives := by
    intro k r hr
    cases hr
  ends := .noneLeft rfl

/-- One round that is the last: it answers for itself, and what becomes of it decides
how all of them end. -/
theorem last {r : Round ν κ} (hasked : Asked request input before r)
    (hreceives : r.received.isSome ↔
      r.Delivered ∧ r.taken.step.status = .continueNeeded ∧ 0 < left)
    (hends : Ends request.maxRounds (left + 1) [r] result) :
    Account request (left + 1) input before [r] result where
  bounded := Nat.le_add_left 1 left
  asks := by
    intro r' hr'
    rw [List.mem_singleton.mp hr']
    exact ⟨hasked.target, hasked.wanted, hasked.flags⟩
  first := by
    intro r' hr'
    cases hr'
    exact ⟨hasked.input, hasked.before⟩
  next := by
    intro k r' r'' _ hr''
    cases hr''
  sends := by
    intro r' hr'
    rw [List.mem_singleton.mp hr']
    exact hasked.sends
  receives := by
    intro k r' hr'
    cases k with
    | zero =>
      cases hr'
      rw [hreceives, Nat.add_lt_add_iff_right]
    | succ k => cases hr'
  ends := hends

/-- A round that leads to others. What is claimed of pairs of rounds holds of the others
among themselves, so it remains to look at the first of them beside this one. -/
theorem cons {r : Round ν κ} {rounds : List (Round ν κ)} {token : Bytes} (hleft : left ≠ 0)
    (hasked : Asked request input before r) (hpassed : r.Passed token)
    (h : Account request left (some token) r.taken.after rounds result) :
    Account request (left + 1) input before (r :: rounds) result where
  bounded := Nat.succ_le_succ h.bounded
  asks := by
    intro r' hr'
    rcases List.mem_cons.mp hr' with rfl | hr'
    · exact ⟨hasked.target, hasked.wanted, hasked.flags⟩
    · exact h.asks r' hr'
  first := by
    intro r' hr'
    cases hr'
    exact ⟨hasked.input, hasked.before⟩
  next := by
    intro k r' r'' hr' hr''
    -- the pair that is new is this round and the first of the others
    cases k with
    | zero =>
      cases hr'
      obtain ⟨hinput, hbefore⟩ := h.first r'' hr''
      exact ⟨⟨token, hpassed, hinput⟩, hbefore⟩
    | succ k => exact h.next k r' r'' hr' hr''
  sends := by
    intro r' hr'
    rcases List.mem_cons.mp hr' with rfl | hr'
    · exact hasked.sends
    · exact h.sends r' hr'
  receives := by
    intro k r' hr'
    cases k with
    | zero =>
      cases hr'
      rw [hpassed.received]
      exact ⟨fun _ => ⟨hpassed.delivered, hpassed.status, by omega⟩, fun _ => rfl⟩
    | succ k =>
      rw [h.receives k r' hr', Nat.add_lt_add_iff_right]
  ends := by
    cases h.ends with
    | noneLeft hzero => exact absurd hzero hleft
    | unsent before hsent => exact .unsent (r :: before) hsent
    | rejected before hdelivered hstatus => exact .rejected (r :: before) hdelivered hstatus
    | complete before hdelivered hstatus => exact .complete (r :: before) hdelivered hstatus
    | unheard before hdelivered hstatus hreceived =>
      exact .unheard (r :: before) hdelivered hstatus hreceived
    | exhausted before hdelivered hstatus hlength =>
      exact .exhausted (r :: before) hdelivered hstatus (congrArg Nat.succ hlength)

end Account

/-- What rounds leave: their deeds, and then a context given back if it comes to
that. -/
def RoundsLeave (request : Request ν) (left : Nat) (input : Option Bytes) (before : Option κ)
    (result : Except NegotiationError (SecurityContext κ)) (deeds : List (Deed ν κ)) : Prop :=
  ∃ rounds : List (Round ν κ), Account request left input before rounds result ∧
    deeds = rounds.flatMap Round.deeds ++
      givenBack (held before (rounds.flatMap Round.deeds)) result

namespace RoundsLeave

variable {request : Request ν} {left : Nat} {input : Option Bytes} {before : Option κ}
  {result : Except NegotiationError (SecurityContext κ)} {r : Round ν κ}

/-- After the last round a context is given back if it comes to that. -/
theorem last (hasked : Asked request input before r)
    (hreceives : r.received.isSome ↔
      r.Delivered ∧ r.taken.step.status = .continueNeeded ∧ 0 < left)
    (hends : Ends request.maxRounds (left + 1) [r] result) :
    RoundsLeave request (left + 1) input before result
      ([.stepped r.taken] ++ (r.sent.toList.map (.sent r.taken.step.output) ++
        (r.received.toList.map .received ++ givenBack r.taken.after result))) := by
  refine ⟨[r], .last hasked hreceives hends, ?_⟩
  rw [List.flatMap_singleton, Round.held_deeds, Round.deeds]
  simp

/-- After any other round come the rest. -/
theorem cons {token : Bytes} {deeds : List (Deed ν κ)} (hleft : left ≠ 0)
    (hasked : Asked request input before r) (hpassed : r.Passed token)
    (h : RoundsLeave request left (some token) r.taken.after result deeds) :
    RoundsLeave request (left + 1) input before result
      ([.stepped r.taken] ++ (r.sent.toList.map (.sent r.taken.step.output) ++
        ([.received (.ok token)] ++ deeds))) := by
  obtain ⟨rounds, haccount, rfl⟩ := h
  refine ⟨r :: rounds, .cons hleft hasked hpassed haccount, ?_⟩
  rw [List.flatMap_cons, held_append, Round.held_deeds, Round.deeds, hpassed.received]
  simp

end RoundsLeave

end Negotiation

/-! ## What an observed negotiation leaves

The program is followed with the rules for `Leaves`, part by part as it is written. Each
part is said to leave a list of deeds that its result determines, and the rounds put
these together. -/

section

variable {mechanism : Mechanism (Action ε σ) ν κ} {transport : Transport (Action ε σ)}

/-- Releasing a context releases what the mechanism left, if it is there. -/
theorem SecurityContext.release_leaves (ctx : SecurityContext κ) :
    (ctx.release mechanism.observed).Leaves fun _ deeds =>
      deeds = ctx.handle.toList.map .released := by
  rw [release]
  cases ctx.handle with
  | none => exact .pure rfl
  | some handle => exact .told_bind fun _ => .note_bind (.pure rfl)

/-- A step of a context is one deed. -/
theorem SecurityContext.initStep_leaves (ctx : SecurityContext κ) (target : ν)
    (wanted : Option Oid) (flags : Flags) (input : Option Bytes) :
    (ctx.initStep mechanism.observed target wanted flags input).Leaves fun stepped deeds =>
      ∃ after, stepped.2 = ctx.stepped after ∧
        deeds = [.stepped ⟨ctx.handle, target, wanted, flags, input, stepped.1, after⟩] :=
  .told_bind fun made => .pure ⟨made.2, rfl, rfl⟩

namespace Negotiation

/-- A token is sent if there is one. -/
theorem sendOutput_leaves (output : Bytes) :
    (sendOutput transport.observed output : Action (Deed ν κ) σ _).Leaves fun result deeds =>
      ∃ sent : Option (Except TransportError Unit), result = sent.getD (.ok ()) ∧
        (sent.isSome ↔ output ≠ []) ∧ deeds = sent.toList.map (.sent output) := by
  rw [sendOutput]
  by_cases hempty : output = []
  · rw [if_pos hempty]
    exact .pure ⟨none, rfl, by simp [hempty], rfl⟩
  · rw [if_neg hempty]
    exact .note_bind (.told fun sent => ⟨some sent, rfl, by simp [hempty], rfl⟩)

/-- To receive is one deed, whether something came or not. -/
theorem receiveInput_leaves :
    (receiveInput transport.observed : Action (Deed ν κ) σ _).Leaves fun received deeds =>
      deeds = [.received received] := by
  refine .told_bind fun received => ?_
  cases received with
  | error e => exact .pure rfl
  | ok token => exact .note_bind (.pure rfl)

/-- Short of success, what the last step left is released. -/
theorem abandon_leaves (ctx : SecurityContext κ) (e : NegotiationError) :
    (abandon mechanism.observed ctx e).Leaves fun result deeds =>
      result = .error e ∧ deeds = ctx.handle.toList.map .released := by
  refine .bind ctx.release_leaves ?_
  rintro _ _ rfl
  exact .pure ⟨rfl, List.append_nil _⟩

/-- Success is no deed at all. -/
theorem finished_leaves (request : Request ν) (ctx : SecurityContext κ) (round : Nat)
    (granted : Flags) :
    (finished request ctx round granted : Action (Deed ν κ) σ _).Leaves fun result deeds =>
      result = .ok (ctx.opened granted) ∧ deeds = [] := by
  rw [finished]
  split
  · exact .note_bind (.note_bind (.pure ⟨rfl, rfl⟩))
  · exact .note_bind (.pure ⟨rfl, rfl⟩)

/-- **The rounds of a negotiation.** A round is the last one, or the others come after
it. Each way out of a round is one constructor of `Ends`, and the one way that goes on
adds this round in front of what the others leave. -/
theorem rounds_leaves (mechanism : Mechanism (Action ε σ) ν κ) (transport : Transport (Action ε σ))
    (request : Request ν) (left round : Nat) (input : Option Bytes) (ctx : SecurityContext κ) :
    (rounds mechanism.observed transport.observed request left round input ctx).Leaves
      (RoundsLeave request left input ctx.handle) := by
  -- the token that came in and the context change from round to round, the request does not
  induction left generalizing round input ctx with
  | zero =>
    refine .note_bind ((abandon_leaves ctx _).mono ?_)
    rintro _ _ ⟨rfl, rfl⟩
    exact ⟨[], .nil, rfl⟩
  | succ left ih =>
    rw [rounds]
    refine .bind (ctx.initStep_leaves _ _ _ _) ?_
    rintro ⟨step, stepped⟩ _ ⟨after, rfl, rfl⟩
    refine .note_bind (.bind (sendOutput_leaves _) ?_)
    rintro _ _ ⟨sent, rfl, hsent, rfl⟩
    have hasked (received : Option (Except TransportError Bytes)) :
        Asked request input ctx.handle ⟨⟨ctx.handle, request.target, request.wanted,
          request.flags, input, step, after⟩, sent, received⟩ :=
      ⟨rfl, rfl, rfl, rfl, rfl, hsent⟩
    -- a token that is not sent ends it, whatever the status of the step
    cases hresult : sent.getD (.ok ()) with
    | error e =>
      have herror : sent = some (.error e) := by
        rcases sent with _ | _ | _ <;> cases hresult
        rfl
      refine (abandon_leaves _ _).mono ?_
      rintro _ _ ⟨rfl, rfl⟩
      refine .last (hasked none) ?_ (.unsent [] herror)
      simp [Round.Delivered, herror]
    | ok =>
      have hdelivered : ∀ e, sent ≠ some (.error e) := by
        rintro e rfl
        cases hresult
      dsimp only
      cases hstatus : step.status with
      | failure status =>
        refine (abandon_leaves _ _).mono ?_
        rintro _ _ ⟨rfl, rfl⟩
        refine .last (hasked none) ?_ (.rejected [] hdelivered hstatus)
        simp [hstatus]
      | complete =>
        refine (finished_leaves _ _ _ _).mono ?_
        rintro _ _ ⟨rfl, rfl⟩
        refine .last (hasked none) ?_ (.complete [] hdelivered hstatus)
        simp [hstatus]
      | continueNeeded =>
        dsimp only
        -- in the last round that is allowed nothing is received any more
        by_cases hleft : left = 0
        · rw [if_pos hleft]
          refine .note_bind ((abandon_leaves _ _).mono ?_)
          rintro _ _ ⟨rfl, rfl⟩
          refine .last (hasked none) ?_
            (.exhausted [] hdelivered hstatus (congrArg Nat.succ hleft.symm))
          simp [hleft]
        · rw [if_neg hleft]
          refine .bind receiveInput_leaves ?_
          rintro received _ rfl
          cases received with
          | error e =>
            refine (abandon_leaves _ _).mono ?_
            rintro _ _ ⟨rfl, rfl⟩
            refine .last (hasked (some (.error e))) ?_ (.unheard [] hdelivered hstatus rfl)
            exact ⟨fun _ => ⟨hdelivered, hstatus, Nat.pos_of_ne_zero hleft⟩, fun _ => rfl⟩
          | ok token =>
            refine (ih _ _ _).mono fun result deeds hlater => ?_
            exact .cons hleft (hasked (some (.ok token))) ⟨hdelivered, hstatus, rfl⟩ hlater

end Negotiation

end

/-! ## Observing changes nothing

A program that is given observed operations runs as it would with the plain ones. The
two are followed side by side: every operation runs the same, so after it both are at
the same point with the same value in the same world. -/

section

variable (mechanism : Mechanism (Action ε σ) ν κ) (transport : Transport (Action ε σ))

/-- Closing asks the mechanism if anything is held. -/
theorem SecurityContext.run_release_observed (ctx : SecurityContext κ) :
    (ctx.release mechanism.observed).run = (ctx.release mechanism).run := by
  rw [release, release]
  cases ctx.handle with
  | none => rfl
  | some handle => exact run_bind_congr (run_told _ _) fun _ => rfl

/-- A step is one operation of the mechanism. -/
theorem SecurityContext.run_initStep_observed (ctx : SecurityContext κ) (target : ν)
    (wanted : Option Oid) (flags : Flags) (input : Option Bytes) :
    (ctx.initStep mechanism.observed target wanted flags input).run =
      (ctx.initStep mechanism target wanted flags input).run :=
  run_bind_congr (run_told _ _) fun _ => rfl

/-- Protecting is one operation, behind a check of the state and before one of what the
mechanism returned. -/
theorem SecurityContext.run_protect_observed (ctx : SecurityContext κ) (message : Bytes)
    (confidential : Bool) :
    (ctx.protect mechanism.observed message confidential).run =
      (ctx.protect mechanism message confidential).run := by
  rw [protect, protect]
  cases ctx.openHandle with
  | error e => rfl
  | ok handle =>
    refine run_bind_congr (run_told _ _) ?_
    rintro ⟨status | wrapped, after⟩
    · rfl
    · dsimp only
      split <;> rfl

/-- Verifying is one operation behind the same check. -/
theorem SecurityContext.run_verify_observed (ctx : SecurityContext κ) (message token : Bytes) :
    (ctx.verify mechanism.observed message token).run =
      (ctx.verify mechanism message token).run := by
  rw [verify, verify]
  cases ctx.openHandle with
  | error e => rfl
  | ok handle =>
    refine run_bind_congr (run_told _ _) ?_
    rintro ⟨status | ⟨⟩, after⟩ <;> rfl

/-- Inquiring is one if anything is held. -/
theorem SecurityContext.run_inquire_observed (ctx : SecurityContext κ) :
    (ctx.inquire mechanism.observed).run = (ctx.inquire mechanism).run := by
  rw [inquire, inquire]
  cases ctx.handle with
  | none => rfl
  | some handle => exact run_told _ _

namespace Negotiation

/-- A token is sent by the transport, if there is one. -/
theorem run_sendOutput_observed (output : Bytes) :
    (sendOutput transport.observed output : Action (Deed ν κ) σ _).run =
      (sendOutput transport output).run := by
  rw [sendOutput, sendOutput]
  by_cases hempty : output = []
  · rw [if_pos hempty, if_pos hempty]
    rfl
  · rw [if_neg hempty, if_neg hempty]
    exact run_bind_congr rfl fun _ => run_told _ _

theorem run_abandon_observed (ctx : SecurityContext κ) (e : NegotiationError) :
    (abandon mechanism.observed ctx e).run = (abandon mechanism ctx e).run :=
  run_bind_congr (ctx.run_release_observed mechanism) fun _ => rfl

/-- The rounds run the same, observed or not, by induction on those that are left. -/
theorem run_rounds_observed (request : Request ν) (left round : Nat) (input : Option Bytes)
    (ctx : SecurityContext κ) :
    (rounds mechanism.observed transport.observed request left round input ctx).run =
      (rounds mechanism transport request left round input ctx).run := by
  induction left generalizing round input ctx with
  | zero => exact run_bind_congr rfl fun _ => run_abandon_observed mechanism ctx _
  | succ left ih =>
    rw [rounds, rounds]
    -- both go through the round side by side, with the same values at every point
    refine run_bind_congr (ctx.run_initStep_observed mechanism _ _ _ _) ?_
    rintro ⟨step, ctx⟩
    refine run_bind_congr rfl fun _ => run_bind_congr (run_sendOutput_observed transport _) ?_
    rintro (e | ⟨⟩)
    · exact run_abandon_observed mechanism ctx _
    · dsimp only
      cases step.status with
      | failure status => exact run_abandon_observed mechanism ctx _
      | complete =>
        funext s
        rw [run_finished, run_finished]
      | continueNeeded =>
        dsimp only
        by_cases hleft : left = 0
        · rw [if_pos hleft, if_pos hleft]
          exact run_bind_congr rfl fun _ => run_abandon_observed mechanism ctx _
        · rw [if_neg hleft, if_neg hleft]
          refine run_bind_congr ?_ ?_
          · funext s
            rw [run_receiveInput, run_receiveInput]
            exact congrFun (run_told _ _) s
          · rintro (e | token)
            · exact run_abandon_observed mechanism ctx _
            · exact ih _ _ _

/-- **That a negotiation is observed changes nothing of it.** -/
theorem run_establish_observed (maxRounds : Nat) (target : String) (requested : Flags)
    (wanted : Option Oid) :
    (establish mechanism.observed transport.observed maxRounds target requested wanted).run =
      (establish mechanism transport maxRounds target requested wanted).run := by
  refine run_bind_congr (run_told _ _) ?_
  rintro (status | name)
  · rfl
  · exact run_bind_congr rfl fun _ => run_rounds_observed mechanism transport _ _ _ _ _

/-! ## A whole negotiation

A negotiation is one deed for the name, and the rounds if the name is taken. Here the
account of the rounds is put behind that deed. -/

/-- After the name is imported come the rounds. -/
theorem events_establish {maxRounds : Nat} {target : String} {requested : Flags}
    {wanted : Option Oid} {w w' : σ} {name : ν}
    (hname : (mechanism.importName target).run w = (.ok name, w')) :
    (establish mechanism.observed transport.observed maxRounds target requested wanted).events w =
      .imported target (.ok name) ::
        (rounds mechanism.observed transport.observed
          ⟨name, wanted, requested ||| .of [.replay], maxRounds⟩ maxRounds 1 none .new).events
          w' := by
  have himport : mechanism.observed.importName target =
      (mechanism.importName target).told (.imported target) := rfl
  rw [establish, himport, events_bind, events_told, run_told, hname]
  rfl

/-- A name that is refused is all there is. -/
theorem events_establish_badName {maxRounds : Nat} {target : String} {requested : Flags}
    {wanted : Option Oid} {w w' : σ} {status : Status}
    (hname : (mechanism.importName target).run w = (.error status, w')) :
    (establish mechanism.observed transport.observed maxRounds target requested wanted).events w =
      [.imported target (.error status)] := by
  have himport : mechanism.observed.importName target =
      (mechanism.importName target).told (.imported target) := rfl
  rw [establish, himport, events_bind, events_told, run_told, hname]
  rfl

/-- **What a negotiation does.** After the name is imported come the rounds, with
all that `Account` says of them: they ask for the same name, the same mechanism
and the requested flags with protection against replay, every further step gets
the token that was received before it, tokens are sent and received where the
steps ask for it, and the last round decides how it ends. Nothing else is done,
except that a context that is not handed out is given back at the end, if the
last step left one. That a negotiation is observed changes nothing of it. -/
theorem establish_accounted (maxRounds : Nat) (target : String) (requested : Flags)
    (wanted : Option Oid) (w : σ) {name : ν}
    (hname : ((mechanism.importName target).run w).1 = .ok name) :
    let observed : Action (Deed ν κ) σ _ :=
      establish mechanism.observed transport.observed maxRounds target requested wanted
    let result := (observed.run w).1
    observed.run w = (establish mechanism transport maxRounds target requested wanted).run w ∧
      ∃ rounds : List (Round ν κ),
        Account ⟨name, wanted, requested ||| .of [.replay], maxRounds⟩ maxRounds none none rounds
          result ∧
        observed.events w = .imported target (.ok name) ::
          (rounds.flatMap Round.deeds ++
            givenBack (held none (rounds.flatMap Round.deeds)) result) := by
  intro observed result
  refine ⟨congrFun (run_establish_observed mechanism transport ..) w, ?_⟩
  have hdone : (mechanism.importName target).run w =
      (.ok name, ((mechanism.importName target).run w).2) := Prod.ext hname rfl
  have hobserved : (mechanism.observed.importName target).run w =
      (.ok name, ((mechanism.importName target).run w).2) :=
    (congrFun (run_told _ _) w).trans hdone
  have hresult : result = _ := congrArg Prod.fst (run_establish hobserved)
  obtain ⟨rounds, haccount, hdeeds⟩ := rounds_leaves mechanism transport
    ⟨name, wanted, requested ||| .of [.replay], maxRounds⟩ maxRounds 1 none .new
    ((mechanism.importName target).run w).2
  rw [← hresult] at haccount hdeeds
  refine ⟨rounds, haccount, ?_⟩
  rw [events_establish mechanism transport hdone, hdeeds]
  rfl

end Negotiation

end

namespace Rehearsal

/-- The first step of a script sends a token and one comes in; the second step
has none to send, and nothing comes in any more. The context that it left is
given back. -/
theorem accounted_of_unheard :
    let mechanism : Mechanism (Action Event (Scripted × Memory)) String Scripted.Context :=
      Scripted.mechanism.hoist Action.onFst
    let transport : Transport (Action Event (Scripted × Memory)) := Memory.beside.toTransport
    let world : Scripted × Memory :=
      ({ script := [.proceed [1], .proceed []] }, { inbound := [[9]] })
    let observed : Action (Deed String Scripted.Context) (Scripted × Memory) _ :=
      Negotiation.establish mechanism.observed transport.observed 3 "svc" .empty none
    let flags : Flags := .of [.replay]
    let first : Scripted.Context := { rounds := 1 }
    let second : Scripted.Context := { rounds := 2, heard := [[9]] }
    let eof : TransportError := .io (.ofKind .unexpectedEof)
    ((mechanism.importName "svc").run world).1 = .ok "svc" ∧
      (observed.run world).1 = .error (.transport eof) ∧
      observed.events world =
        [.imported "svc" (.ok "svc"),
          .stepped ⟨none, "svc", none, flags, none, ⟨.continueNeeded, [1], .empty⟩, some first⟩,
          .sent [1] (.ok ()), .received (.ok [9]),
          .stepped ⟨some first, "svc", none, flags, some [9], ⟨.continueNeeded, [], .empty⟩,
            some second⟩,
          .received (.error eof), .released second] ∧
      ∃ rounds : List (Round String Scripted.Context),
        Negotiation.Account ⟨"svc", none, .empty ||| .of [.replay], 3⟩ 3 none none rounds
          (.error (.transport eof)) ∧
        observed.events world = .imported "svc" (.ok "svc") ::
          (rounds.flatMap Round.deeds ++
            Negotiation.givenBack (held none (rounds.flatMap Round.deeds))
              (.error (.transport eof))) := by
  intro mechanism transport world observed flags first second eof
  have hname : ((mechanism.importName "svc").run world).1 = .ok "svc" := rfl
  have hresult : (observed.run world).1 = .error (.transport eof) := by decide +kernel
  obtain ⟨-, hrounds⟩ :=
    Negotiation.establish_accounted mechanism transport 3 "svc" .empty none world hname
  rw [hresult] at hrounds
  exact ⟨hname, hresult, by decide +kernel, hrounds⟩

end Rehearsal

end GssContext
