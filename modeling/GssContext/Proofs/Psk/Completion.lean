/-
No completion without the key.

A side's context is opened by one kind of step only: one whose input carries
the other side's proof over the handshake as this side knows it. This is a
statement about every step of every run, out of turn, repeated, with a foreign
mechanism, or with bytes that are anything at all, and it is exact: such a step
does complete.
-/
import GssContext.Proofs.Psk.Honest

set_option autoImplicit false

namespace GssContext.Psk

variable {ι σ ε : Type}

/-! ## What a turn does to the context

What is claimed of a turn is one structure, with the condition for completing as a
parameter. There are only three kinds of turn: a refusal, a first step, a last step. For
each of them it is enough to know whether the condition holds, and the two kinds that do
not complete are those for which it does not. -/

/-- The step says that the context is established. -/
def Turn.Completes (t : Turn ι) : Prop := t.step.status = .complete

/-- The context becomes established. -/
def Turn.Opens (t : Turn ι) : Prop := ¬ IsOpen t.before ∧ IsOpen t.after

instance (t : Turn ι) : Decidable t.Completes := inferInstanceAs (Decidable (_ = _))

/-- A context in a phase of the handshake is not established. -/
theorem not_isOpen_of_awaitingReply {c : Context} {hello nonce : Bytes} {requested : Flags}
    (hphase : c.phase = .awaitingReply hello nonce requested) : ¬ IsOpen (some c) := by
  rw [IsOpen, Option.any_some, Context.isOpen, Context.session?, hphase]
  exact Bool.false_ne_true

theorem not_isOpen_of_awaitingFinish {c : Context} {digest proofKey : Bytes}
    (hphase : c.phase = .awaitingFinish digest proofKey) : ¬ IsOpen (some c) := by
  rw [IsOpen, Option.any_some, Context.isOpen, Context.session?, hphase]
  exact Bool.false_ne_true

/-- A turn completes exactly if `proven`, and opens the context then and only
then; a context that is open stays open. -/
structure Turn.Exactly (t : Turn ι) (proven : Prop) : Prop where
  completes : t.Completes ↔ proven
  opens : t.Opens ↔ proven
  stays : IsOpen t.before → IsOpen t.after

namespace Turn.Exactly

variable {t : Turn ι} {proven : Prop}

/-- A refusal leaves the context. -/
theorem of_refused {status : Status} (hstep : t.step = .failure status)
    (hcontext : t.after = t.before) (hnot : ¬ proven) : t.Exactly proven where
  completes := by
    refine iff_of_false ?_ hnot
    rw [Completes, hstep]
    exact StepStatus.noConfusion
  opens := by
    refine iff_of_false ?_ hnot
    rintro ⟨hbefore, hafter⟩
    rw [hcontext] at hafter
    exact hbefore hafter
  stays hbefore := by rwa [hcontext]

/-- A first step creates a context that is not established. -/
theorem of_first (hstep : t.step.status = .continueNeeded) (hbefore : t.before = none)
    (hcontext : ¬ IsOpen t.after) (hnot : ¬ proven) : t.Exactly proven where
  completes := by
    refine iff_of_false ?_ hnot
    rw [Completes, hstep]
    exact StepStatus.noConfusion
  opens := iff_of_false (fun h => hcontext h.2) hnot
  stays hopen := by
    rw [hbefore] at hopen
    cases hopen

theorem of_last (hstep : t.step.status = .complete) (hbefore : ¬ IsOpen t.before)
    (hafter : IsOpen t.after) (hproven : proven) : t.Exactly proven where
  completes := iff_of_true hstep hproven
  opens := iff_of_true ⟨hbefore, hafter⟩ hproven
  stays _ := hafter

/-- After a turn the context is open if it was before or if the proof was there. -/
theorem isOpen_after_iff (h : t.Exactly proven) : IsOpen t.after ↔ IsOpen t.before ∨ proven := by
  constructor
  · intro hafter
    by_cases hbefore : IsOpen t.before
    · exact .inl hbefore
    · exact .inr (h.opens.mp ⟨hbefore, hafter⟩)
  · rintro (hbefore | hproven)
    · exact h.stays hbefore
    · exact (h.opens.mpr hproven).2

end Turn.Exactly

/-! ## What a run does

From a single turn to a run is an induction that does not know what the condition is. At
the start there is no context, so in the end there is an open one exactly if some turn
on the way fulfilled the condition. -/

/-- In a run of a side from nothing, exactly the steps that are proven complete
and open the context, and it is open in the end if there was one. -/
structure Side.Guarded (side : Side ι σ) (proven : Option Context → ι → Prop)
    (calls : List (ι × σ)) : Prop where
  completes : ∀ t ∈ side.turns none calls, t.Completes ↔ proven t.before t.call
  opens : ∀ t ∈ side.turns none calls, t.Opens ↔ proven t.before t.call
  ending : IsOpen (side.ending none calls) ↔
    ∃ t ∈ side.turns none calls, proven t.before t.call

/-- A run is open in the end if it was at the start or if a step was proven. The
induction is on the calls: what the first turn leaves is where the others start, and it
is open for one of the same two reasons. -/
theorem Side.isOpen_ending_iff {side : Side ι σ} {proven : Option Context → ι → Prop}
    (hturn : ∀ before call, (side.turn before call).Exactly (proven before call.1))
    (before : Option Context) (calls : List (ι × σ)) :
    IsOpen (side.ending before calls) ↔
      IsOpen before ∨ ∃ t ∈ side.turns before calls, proven t.before t.call := by
  induction calls generalizing before with
  | nil =>
    refine ⟨fun hopen => .inl hopen, ?_⟩
    rintro (hopen | ⟨t, ht, -⟩)
    · exact hopen
    · cases ht
  | cons call calls ih =>
    -- the turns after the first begin with what the first one left
    refine (ih (side.turn before call).after).trans ?_
    rw [(hturn before call).isOpen_after_iff, or_assoc]
    refine or_congr_right ?_
    constructor
    · rintro (hproven | ⟨t, ht, hproven⟩)
      · exact ⟨_, List.mem_cons_self, hproven⟩
      · exact ⟨t, List.mem_cons_of_mem _ ht, hproven⟩
    · rintro ⟨t, ht, hproven⟩
      rcases List.mem_cons.mp ht with rfl | ht
      · exact .inl hproven
      · exact .inr ⟨t, ht, hproven⟩

/-- So a side whose every turn is exact is guarded. -/
theorem Side.guarded_of_exactly {side : Side ι σ} {proven : Option Context → ι → Prop}
    (hturn : ∀ before call, (side.turn before call).Exactly (proven before call.1))
    (calls : List (ι × σ)) : side.Guarded proven calls where
  completes := Side.forall_turns (fun before call => (hturn before call).completes) none calls
  opens := Side.forall_turns (fun before call => (hturn before call).opens) none calls
  ending := by
    refine (Side.isOpen_ending_iff hturn none calls).trans ?_
    exact or_iff_right Bool.false_ne_true

/-! ## Both sides

For either role the outcomes of a step are those of the relation `Took`. Its constructor
for a refusal carries that the step was not proven, which is the hard direction: a step
that could complete is not refused. -/

/-- Every outcome of a step of the initiator is exact. To finish is to have a proof. -/
theorem Initiator.Took.exactly {env : Environment (Action ε σ)} {config : Config}
    {before after : Option Context} {call : InitCall} {step : Step}
    (h : Took env config before call step after) :
    Turn.Exactly ⟨before, call, step, after⟩ (Proven config before call) := by
  cases h with
  | refused status hnot => exact .of_refused rfl rfl hnot
  | greeted world hdraw =>
    refine .of_first rfl rfl (not_isOpen_of_awaitingReply rfl) ?_
    rintro ⟨_, _, _, _, _, _, hcontext, -⟩
    cases hcontext
  | finished now hphase hwanted hinput hvouched =>
    refine .of_last rfl (not_isOpen_of_awaitingReply hphase) rfl ?_
    exact ⟨_, _, _, _, _, _, rfl, hphase, hwanted, hinput, hvouched⟩

/-- And so is every outcome of a step of the acceptor. Its refusals carry the negation
of the condition, and its success the condition itself. -/
theorem Acceptor.Took.exactly {env : Environment (Action ε σ)} {acceptor : Acceptor}
    {before after : Option Context} {input : Bytes} {step : Step}
    (h : Took env acceptor before input step after) :
    Turn.Exactly ⟨before, input, step, after⟩ (Proven before input) := by
  cases h with
  | refused status hnot => exact .of_refused rfl rfl hnot
  | replied world hhello hdraw =>
    refine .of_first rfl rfl (not_isOpen_of_awaitingFinish rfl) ?_
    rintro ⟨_, _, _, _, hcontext, -⟩
    cases hcontext
  | confirmed now hphase hdecode hproof =>
    refine .of_last rfl (not_isOpen_of_awaitingFinish hphase) rfl ?_
    exact ⟨_, _, _, _, rfl, hphase, hdecode, hproof⟩

/-- **No completion without the key.** In every run of either side, a step
completes if and only if the other side's proof is in its input, and then and
only then the context becomes established. -/
theorem completes_iff_proven (env env' : Environment (Action ε σ)) (config : Config)
    (acceptor : Acceptor) (initCalls : List (InitCall × σ)) (acceptCalls : List (Bytes × σ)) :
    (Initiator.side env config).Guarded (Initiator.Proven config) initCalls ∧
      (Acceptor.side env' acceptor).Guarded Acceptor.Proven acceptCalls := by
  constructor
  · refine Side.guarded_of_exactly (fun before call => ?_) initCalls
    exact (Initiator.side_took before call.1 call.2).exactly
  · refine Side.guarded_of_exactly (fun before call => ?_) acceptCalls
    exact (Acceptor.side_took before call.1 call.2).exactly

/-- A handshake in which every token arrives has a step with the proof on
either side. -/
theorem proven_of_relayed :
    let key : PreSharedKey := ⟨List.replicate 16 7, Nat.le_refl 16⟩
    let config : Config := ⟨key, "alice", Config.defaultLifetime⟩
    let service : ServiceName := ⟨"echo", some "host"⟩
    let acceptor : Acceptor := ⟨⟨key, "echo@host", Config.defaultLifetime⟩, service, true⟩
    let env : Environment (Action Empty Simulated) := Simulated.environment
    let world := Simulated.ofSupply (List.replicate 32 5)
    let initiator := Initiator.side env config
    let calls := relayed initiator (acceptor.side env) service .empty world world
    (∃ t ∈ initiator.turns none calls.1, Initiator.Proven config t.before t.call) ∧
      ∃ t ∈ (acceptor.side env).turns none calls.2, Acceptor.Proven t.before t.call := by
  intro key config service acceptor env world initiator calls
  have h := completes_iff_proven env env config acceptor calls.1 calls.2
  -- both sides complete because an honest meeting does, and then the theorem gives the
  -- proofs
  have hmeeting : Meeting config acceptor service :=
    ⟨rfl, by decide +kernel, by decide +kernel, by decide, by decide, by decide⟩
  have hdraw : ((env.draw Handshake.nonceSize).run world).1 = .ok (List.replicate 32 5) := rfl
  obtain ⟨-, hending, -, hending'⟩ := hmeeting.turns_relayed (ServiceName.accepts_self service)
    rfl rfl hdraw hdraw
  refine ⟨h.1.ending.mp ?_, h.2.ending.mp ?_⟩
  · rw [hending]
    rfl
  · rw [hending']
    rfl

end GssContext.Psk
