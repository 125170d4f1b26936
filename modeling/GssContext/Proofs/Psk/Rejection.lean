/-
What a refused input leaves behind: nothing.

A context takes four kinds of input from outside: the two steps of the
handshake, a token with a message, and a code. Any of them can be refused for
many reasons, some of them only after keys were derived or a nonce was asked
for. A refusal leaves the context as it was, an absent one absent, and unless
it is the randomness that failed, all that happened to the surroundings is that
somebody may have looked at the clock.

So refused inputs can be left out of a run. They may come at any times: what
the surroundings do between two inputs is a part of the run, and it is the
same with and without them.
-/
import GssContext.Proofs.Psk.Turn

set_option autoImplicit false

namespace GssContext.Psk

/-! ## Operations

Both halves of the mechanism are taken together, with one type for what can be asked and
one for what comes back, so that refused inputs of any kind can stand in one run. An
input is something that comes from the other side; asking for a token to be made is
none, and can use up a number even where it fails. -/

/-- What can be asked of a context that may not be there yet. -/
inductive Operation where
  | initStep (call : InitCall)
  | acceptStep (input : Bytes)
  | message (call : Call)

/-- Does the operation take something from outside, which can be refused? -/
def Operation.takesInput : Operation → Bool
  | initStep _ | acceptStep _ => true
  | message call => !call.sends

/-- What an operation gives back. -/
inductive Response where
  | stepped (step : Step)
  | answered (answer : Answer)
  deriving DecidableEq

/-- The status of a response that is a refusal. -/
def Response.refusal? : Response → Option Status
  | stepped ⟨.failure status, _, _⟩ => some status
  | answered (.refused refusal) => some refusal.status
  | _ => none

/-- Perform an operation, with the configuration for the one half of the
mechanism and the acceptor for the other. There are no messages without a
context. -/
def Operation.perform {m : Type → Type} [Monad m] [Journal m] (env : Environment m)
    (config : Config) (acceptor : Acceptor) (c : Option Context) :
    Operation → m (Response × Option Context)
  | .initStep call => do
    let (step, c) ←
      Initiator.initStep env config c call.target call.wanted call.flags call.input
    return (.stepped step, c)
  | .acceptStep input => do
    let (step, c) ← acceptor.acceptStep env c input
    return (.stepped step, c)
  | .message call =>
    match c with
    | none => pure (.answered (.refused .noContext), none)
    | some c => do
      let (answer, c) ← c.call env call
      return (.answered answer, some c)

/-- The status that says that no randomness could be drawn. -/
def withoutEntropy : Status := ⟨.failure, Minor.noEntropy⟩

variable {ε σ : Type}

/-- A refusal left everything: the context, and unless the randomness failed
also the surroundings, of which no more than the time was asked. -/
structure Kept (env : Environment (Action ε σ)) (c : Option Context) (w : σ) (status : Status)
    (c' : Option Context) (w' : σ) : Prop where
  context : c' = c
  surroundings : status ≠ withoutEntropy → w' = w ∨ w' = (env.now.run w).2

/-! ## Each operation

A refusal leaves the context by the way the steps are written: they give back the one
that they were given. What takes an argument is the surroundings. In each step the draw
comes after all checks of the input, so where a check fails nothing was drawn; and what
fails after the draw is only the draw itself. -/

section

variable {env : Environment (Action ε σ)} {config : Config} {acceptor : Acceptor}

/-- The last step of the initiator asks for the time, and for nothing else. -/
theorem Initiator.state_finishStep (context : Context) (target : ServiceName)
    (input : Option Bytes) (w : σ) :
    ((finishStep env config context target input).run w).2 = (env.now.run w).2 := by
  rw [finishStep, Action.run_bind]
  cases finish config context target input (env.now.run w).1 with
  | ok result => rfl
  | error e => cases e <;> rfl

/-- So does the last step of the acceptor. -/
theorem Acceptor.state_confirmStep (context : Context) (input : Bytes) (w : σ) :
    ((confirmStep env acceptor context input).run w).2 = (env.now.run w).2 := by
  rw [confirmStep, Action.run_bind]
  cases acceptor.confirm context input (env.now.run w).1 <;> rfl

/-- So does every operation on messages that takes a token. -/
theorem Context.state_timed {α : Type} (c : Context)
    (operation : Instant → Except Refusal (α × Context)) (w : σ) :
    ((c.timed env operation).run w).2 = (env.now.run w).2 := by
  rw [timed, Action.run_bind]
  cases operation (env.now.run w).1 <;> rfl

/-- A step of the initiator. Only the first one draws, and after it has drawn
it is not refused. -/
theorem Initiator.initStep_kept (c : Option Context) (call : InitCall) (w : σ) {status : Status}
    (h : (side env config c call w).1.status = .failure status) :
    Kept env c w status (side env config c call w).2
      ((initStep env config c call.target call.wanted call.flags call.input).run w).2 := by
  by_cases hwanted : call.wanted = none ∨ call.wanted = some .psk
  · cases c with
    | none =>
      cases hinput : call.input with
      | some token =>
        rw [side_early call w hwanted hinput, initStep_early hwanted]
        exact ⟨rfl, fun _ => .inl rfl⟩
      | none =>
        -- the hello is made after the nonce is drawn, and nothing is checked after that
        rw [side_first call w hwanted hinput] at h ⊢
        cases hdraw : ((env.draw Handshake.nonceSize).run w).1 with
        | error e =>
          rw [hdraw] at h
          cases h
          exact ⟨rfl, fun hne => absurd rfl hne⟩
        | ok nonce =>
          rw [hdraw] at h
          cases h
    | some context =>
      rw [side_later context call w hwanted] at h ⊢
      cases hfinish : finish config context call.target call.input (env.now.run w).1 with
      | error e =>
        rw [initStep_later hwanted]
        exact ⟨rfl, fun _ => .inr (state_finishStep context call.target call.input w)⟩
      | ok result =>
        -- what comes of a reply that is taken is no failure
        obtain ⟨_, _, _, _, _, _, _, _, rfl⟩ := finish_eq_ok_iff.mp hfinish
        rw [hfinish] at h
        cases h
  · rw [side_other c call w hwanted, initStep_other hwanted]
    exact ⟨rfl, fun _ => .inl rfl⟩

/-- A step of the acceptor. It draws only for a hello that it answers. -/
theorem Acceptor.acceptStep_kept (c : Option Context) (input : Bytes) (w : σ) {status : Status}
    (h : (side env acceptor c input w).1.status = .failure status) :
    Kept env c w status (side env acceptor c input w).2
      ((acceptStep env acceptor c input).run w).2 := by
  cases c with
  | none =>
    rw [side_first] at h ⊢
    cases hhello : acceptor.readHello input with
    | error e =>
      refine ⟨rfl, fun _ => .inl ?_⟩
      rw [acceptStep, replyStep, hhello]
      cases e <;> rfl
    | ok hello =>
      -- the nonce is drawn here, in the middle, but no check comes after it
      rw [hhello] at h
      dsimp only at h ⊢
      cases hdraw : ((env.draw Handshake.nonceSize).run w).1 with
      | error e =>
        rw [hdraw] at h
        cases h
        exact ⟨rfl, fun hne => absurd rfl hne⟩
      | ok nonce =>
        rw [hdraw] at h
        cases h
  | some context =>
    rw [side_later] at h ⊢
    cases hconfirm : acceptor.confirm context input (env.now.run w).1 with
    | error e => exact ⟨rfl, fun _ => .inr (state_confirmStep context input w)⟩
    | ok result =>
      obtain ⟨_, _, _, _, _, _, rfl⟩ := confirm_eq_ok_iff.mp hconfirm
      rw [hconfirm] at h
      cases h

/-- An operation that depends on the time, and whose answer says what it gave. If the
answer is a refusal, the operation refused. -/
theorem Context.timed_kept {α : Type} (c : Context) (done : α → Answer)
    (operation : Instant → Except Refusal (α × Context)) (w : σ) {refusal : Refusal}
    (hdone : ∀ a e, done a ≠ .refused e) :
    let made := (do
      let (result, c) ← c.timed env operation
      return (Answer.of done result, c) : Action ε σ (Answer × Context)).run w
    made.1.1 = .refused refusal → made.1.2 = c ∧ made.2 = (env.now.run w).2 := by
  intro made h
  have hmade : made.1 = _ := Context.run_answer (c := c) done operation w
  refine ⟨?_, c.state_timed operation w⟩
  rw [hmade] at h ⊢
  cases hoperation : operation (env.now.run w).1 with
  | ok value =>
    rw [hoperation] at h
    exact absurd h (hdone _ _)
  | error e => rfl

/-- A token or a code that is refused. -/
theorem Context.call_kept (c : Context) {call : Call} (hreceives : call.sends = false) (w : σ)
    {refusal : Refusal} (h : ((c.call env call).run w).1.1 = .refused refusal) :
    ((c.call env call).run w).1.2 = c ∧ ((c.call env call).run w).2 = (env.now.run w).2 := by
  cases call with
  | wrap | getMic => cases hreceives
  | unwrap token =>
    exact c.timed_kept .unwrapped (fun now => c.unwrap now token) w (fun _ _ => Answer.noConfusion)
      h
  | verifyMic message token =>
    exact c.timed_kept (fun _ => .verified) (fun now => c.verifyMic now message token) w
      (fun _ _ => Answer.noConfusion) h

/-- **A refused input leaves everything.** The status of the response is that of the
step or of the answer, so each kind of input goes to the lemma about it. -/
theorem Operation.perform_kept (c : Option Context) {operation : Operation}
    (hinput : operation.takesInput = true) (w : σ) {status : Status}
    (h : ((operation.perform env config acceptor c).run w).1.1.refusal? = some status) :
    Kept env c w status ((operation.perform env config acceptor c).run w).1.2
      ((operation.perform env config acceptor c).run w).2 := by
  have hstep : ∀ step : Step, (Response.stepped step).refusal? = some status →
      step.status = .failure status := by
    rintro ⟨_ | _ | found, output, granted⟩ hstatus
    · cases hstatus
    · cases hstatus
    · cases hstatus
      rfl
  -- the two steps and the two calls that take a token; the calls that send are no input
  cases operation with
  | initStep call => exact Initiator.initStep_kept c call w (hstep _ h)
  | acceptStep input => exact Acceptor.acceptStep_kept c input w (hstep _ h)
  | message call =>
    cases c with
    | none => exact ⟨rfl, fun _ => .inl rfl⟩
    | some c =>
      have hreceives : call.sends = false := by
        rw [takesInput, Bool.not_eq_true'] at hinput
        exact hinput
      have hrefused : ∃ refusal, ((c.call env call).run w).1.1 = .refused refusal := by
        change (Response.answered ((c.call env call).run w).1.1).refusal? = some status at h
        cases hanswer : ((c.call env call).run w).1.1 with
        | refused refusal => exact ⟨refusal, rfl⟩
        | wrapped | signed | unwrapped | verified =>
          rw [hanswer] at h
          cases h
      obtain ⟨refusal, hanswer⟩ := hrefused
      obtain ⟨hcontext, hworld⟩ := c.call_kept hreceives w hanswer
      exact ⟨congrArg some hcontext, fun _ => .inr hworld⟩

end

/-! ## Runs

For a run two things are needed beside the single operation: that looking at the clock
is not noticed later, which is a property of the environment, and that the surroundings
do the same in between whether or not the inputs come. The second is built into what a
run is: what happens before an input is given with it. -/

/-- An operation, and what the surroundings did before it: time passed, or
somebody else drew from them. -/
structure Arrival (σ : Type) where
  meanwhile : σ → σ
  operation : Operation

/-- The responses to a run of operations, and what it left. -/
def performAll (env : Environment (Action ε σ)) (config : Config) (acceptor : Acceptor) :
    Option Context → σ → List (Arrival σ) → List Response × Option Context × σ
  | c, w, [] => ([], c, w)
  | c, w, arrival :: rest =>
    let done := (arrival.operation.perform env config acceptor c).run (arrival.meanwhile w)
    let later := performAll env config acceptor done.1.2 done.2 rest
    (done.1.1 :: later.1, later.2)

/-- What the surroundings do if none of the operations is performed. -/
def without (arrivals : List (Arrival σ)) (w : σ) : σ :=
  arrivals.foldl (fun w arrival => arrival.meanwhile w) w

/-- A response that is a refusal, and not for want of randomness. -/
def Response.Refuses (response : Response) : Prop :=
  ∃ status, response.refusal? = some status ∧ status ≠ withoutEntropy

/-- After a run of refused inputs everything is as it would be without them. The
induction is on the inputs: the first one leaves the context, and the world as it was or
after a look at the clock, which is the same for whatever follows. -/
theorem performAll_of_refused {env : Environment (Action ε σ)} (hstill : env.Still)
    {config : Config} {acceptor : Acceptor} (arrivals : List (Arrival σ))
    (hinputs : ∀ arrival ∈ arrivals, arrival.operation.takesInput = true) (c : Option Context)
    (w : σ)
    (hrefused : ∀ response ∈ (performAll env config acceptor c w arrivals).1, response.Refuses) :
    (performAll env config acceptor c w arrivals).2 = (c, without arrivals w) := by
  induction arrivals generalizing w with
  | nil => rfl
  | cons arrival rest ih =>
    -- the first input is refused and leaves everything, so the rest is run from the same state
    obtain ⟨status, hstatus, hentropy⟩ := hrefused _ List.mem_cons_self
    have hkept := Operation.perform_kept c (hinputs _ List.mem_cons_self) _ hstatus
    -- with a clock that stands still the surroundings are untouched
    have hworld : ((arrival.operation.perform env config acceptor c).run
        (arrival.meanwhile w)).2 = arrival.meanwhile w := by
      rcases hkept.surroundings hentropy with hsame | hlooked
      · exact hsame
      · exact hlooked.trans (hstill _)
    have hlater : ∀ response ∈
        (performAll env config acceptor c (arrival.meanwhile w) rest).1, response.Refuses := by
      intro response hmem
      refine hrefused response (List.mem_cons_of_mem _ ?_)
      rw [hkept.context, hworld]
      exact hmem
    have hrest := ih (fun a ha => hinputs a (List.mem_cons_of_mem _ ha)) (arrival.meanwhile w)
      hlater
    rw [performAll, hkept.context, hworld, hrest]
    rfl

/-- **Refused inputs change nothing.** Whatever context there is, or none: an
input that is refused leaves it as it was, and unless the randomness failed
nothing was drawn. And after any run of inputs that were refused for another
reason, at any times, every operation gives what it would give at that time if
none of them had come: the same response, the same context and the same
surroundings. -/
theorem refused_leaves_everything (env : Environment (Action ε σ)) (config : Config)
    (acceptor : Acceptor) (c : Option Context) (w : σ) :
    (∀ operation : Operation, operation.takesInput = true →
      let done := (operation.perform env config acceptor c).run w
      ∀ status, done.1.1.refusal? = some status → Kept env c w status done.1.2 done.2) ∧
    (env.Still → ∀ arrivals : List (Arrival σ),
      (∀ arrival ∈ arrivals, arrival.operation.takesInput = true) →
      let done := performAll env config acceptor c w arrivals
      (∀ response ∈ done.1, response.Refuses) →
        ∀ next : Operation, (next.perform env config acceptor done.2.1).run done.2.2 =
          (next.perform env config acceptor c).run (without arrivals w)) := by
  constructor
  · intro operation hinput done status hstatus
    exact Operation.perform_kept c hinput w hstatus
  · intro hstill arrivals hinputs done hrefused next
    have hdone : done.2 = (c, without arrivals w) :=
      performAll_of_refused hstill arrivals hinputs c w hrefused
    rw [hdone]

/-- Bytes that are no hello come, another mechanism is asked for, and a token is
to be unwrapped, with five seconds between the first two. The hello that is said
then is the one that would have been said after five seconds. -/
theorem greets_after_refused :
    let key : PreSharedKey := ⟨List.replicate 16 7, Nat.le_refl 16⟩
    let config : Config := ⟨key, "alice", Config.defaultLifetime⟩
    let service : ServiceName := ⟨"echo", some "host"⟩
    let acceptor : Acceptor := ⟨⟨key, "echo@host", Config.defaultLifetime⟩, service, true⟩
    let env : Environment (Action Empty Simulated) := Simulated.environment
    let world := Simulated.ofSeed 7
    let arrivals : List (Arrival Simulated) :=
      [⟨id, .acceptStep [1, 2, 3]⟩,
        ⟨Simulated.advance (.ofSeconds 5), .initStep ⟨service, some .userName, .empty, none⟩⟩,
        ⟨id, .message (.unwrap [0])⟩]
    let first := ((Operation.acceptStep [1, 2, 3]).perform env config acceptor none).run world
    let done := performAll env config acceptor none world arrivals
    let next : Operation := .initStep ⟨service, none, .empty, none⟩
    done.1.map Response.refusal? =
        [some ⟨.defectiveToken, Minor.malformed⟩, some ⟨.badMech, 0⟩, some ⟨.noContext, 0⟩] ∧
      Kept env none world ⟨.defectiveToken, Minor.malformed⟩ first.1.2 first.2 ∧
      (next.perform env config acceptor done.2.1).run done.2.2 =
        (next.perform env config acceptor none).run (world.advance (.ofSeconds 5)) := by
  intro key config service acceptor env world arrivals first done next
  have hresponses : done.1.map Response.refusal? =
      [some ⟨.defectiveToken, Minor.malformed⟩, some ⟨.badMech, 0⟩, some ⟨.noContext, 0⟩] := by
    decide +kernel
  have h := refused_leaves_everything env config acceptor none world
  have hkept : Kept env none world ⟨.defectiveToken, Minor.malformed⟩ first.1.2 first.2 :=
    h.1 (.acceptStep [1, 2, 3]) rfl ⟨.defectiveToken, Minor.malformed⟩ (by decide +kernel)
  refine ⟨hresponses, hkept, ?_⟩
  refine h.2 Simulated.environment_still arrivals (by decide) ?_ next
  -- each of the three responses is one of the refusals that were listed
  intro response hmem
  have hrefusal : response.refusal? ∈ done.1.map Response.refusal? := List.mem_map_of_mem hmem
  rw [hresponses] at hrefusal
  simp only [List.mem_cons, List.not_mem_nil, or_false] at hrefusal
  rcases hrefusal with hstatus | hstatus | hstatus <;> exact ⟨_, hstatus, by decide⟩

end GssContext.Psk
