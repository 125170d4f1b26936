/-
The engine's context, from its making to its closing.

While a context is established, the program stands at one `Stage` after the
other: the state before a round, from which the rest of the negotiation is run.
`Stage.Leads` is one round, and a round that leads to another stage leaves the
rest of the run as it was. So whatever holds at the first stage and is kept by a
round holds at every stage that a run goes through, and the context that is
handed out comes from the last of them.

After that the context is used. `Used.Does` lists all that a use can do, with
what the mechanism was asked and which deeds were left: an operation on messages
gets to the mechanism only in an established context, and closing gives back what
is held, if anything is.
-/
import GssContext.Proofs.Client.Course
import GssContext.Proofs.Client.Success
import Mathlib.Logic.Relation

set_option autoImplicit false

namespace GssContext

open GssContext.Action

variable {ε σ ν κ : Type}

/-! ## Stages of a negotiation

The loop over the rounds is a recursion with five arguments, and what is known about a
run is known about the arguments of one call. A `Stage` puts them together, so that one
can speak of the calls that a run comes to, and of what holds at each of them. The
equations of this section are those of the loop, told by what became of the token of the
step, since that decides before the status of the step does. -/

namespace Negotiation

/-- Where a negotiation stands before a round. -/
structure Stage (κ σ : Type) where
  left : Nat
  round : Nat
  input : Option Bytes
  ctx : SecurityContext κ
  world : σ

namespace Stage

variable (mechanism : Mechanism (Action ε σ) ν κ) (transport : Transport (Action ε σ))
  (request : Request ν)

/-- The start, where nothing has come in and there is no context. -/
def first (request : Request ν) (w : σ) : Stage κ σ := ⟨request.maxRounds, 1, none, .new, w⟩

/-- What is left to do, from a stage on. -/
def rest (s : Stage κ σ) : Except NegotiationError (SecurityContext κ) × σ :=
  (rounds mechanism transport request s.left s.round s.input s.ctx).run s.world

/-- The step that the mechanism takes at a stage. -/
def taken (s : Stage κ σ) : (Step × Option κ) × σ :=
  (mechanism.initStep s.ctx.handle request.target request.wanted request.flags s.input).run s.world

/-- The context once the step of a stage is taken. It is this one that is sent about,
marked or given back, whatever the round comes to. -/
def stepped (s : Stage κ σ) : SecurityContext κ :=
  s.ctx.stepped (s.taken mechanism request).1.2

/-- One round leads to another: the step needs an answer, its token is sent, and
an answer comes in. -/
inductive Leads : Stage κ σ → Stage κ σ → Prop where
  | round {s : Stage κ σ} {left : Nat} {token : Bytes} {w w' : σ} (hleft : s.left = left + 1)
      (hmore : left ≠ 0) (hstatus : (s.taken mechanism request).1.1.status = .continueNeeded)
      (hsent : (sendOutput transport (s.taken mechanism request).1.1.output).run
        (s.taken mechanism request).2 = (.ok (), w))
      (hreceived : transport.receive.run w = (.ok token, w')) :
      Leads s ⟨left, s.round + 1, some token, s.stepped mechanism request, w'⟩

/-- A run that starts at one stage comes by another. -/
abbrev Passes : Stage κ σ → Stage κ σ → Prop :=
  Relation.ReflTransGen (Leads mechanism transport request)

variable {mechanism transport request}

section

variable {s : Stage κ σ} {left : Nat} {w : σ}

/-- A round whose token, if there was one, is sent goes on as its step says: it ends
with a refusal, with an established context or for want of rounds, or it waits for an
answer. -/
theorem rest_of_sent (hleft : s.left = left + 1)
    (hsent : (sendOutput transport (s.taken mechanism request).1.1.output).run
      (s.taken mechanism request).2 = (.ok (), w)) :
    s.rest mechanism transport request =
      match (s.taken mechanism request).1.1.status with
      | .failure status =>
        (.error (.rejected status), (((s.stepped mechanism request).release mechanism).run w).2)
      | .complete =>
        (.ok ((s.stepped mechanism request).opened (s.taken mechanism request).1.1.granted), w)
      | .continueNeeded =>
        if left = 0 then
          (.error (.tooManyRounds request.maxRounds),
            (((s.stepped mechanism request).release mechanism).run w).2)
        else
          match transport.receive.run w with
          | (.error e, w) =>
            (.error (.transport e), (((s.stepped mechanism request).release mechanism).run w).2)
          | (.ok token, w) =>
            rest mechanism transport request
              ⟨left, s.round + 1, some token, s.stepped mechanism request, w⟩ := by
  unfold rest
  rw [hleft]
  exact run_rounds_sent rfl hsent

/-- A round whose token is not sent is the last one. The engine sends before it looks at
the step's status, so a step that completed is no exception. -/
theorem rest_of_unsent (hleft : s.left = left + 1) {e : TransportError}
    (hsent : (sendOutput transport (s.taken mechanism request).1.1.output).run
      (s.taken mechanism request).2 = (.error e, w)) :
    (s.rest mechanism transport request).1 = .error (.transport e) := by
  have hstep : (s.ctx.initStep mechanism request.target request.wanted request.flags s.input).run
      s.world = (((s.taken mechanism request).1.1, s.stepped mechanism request),
        (s.taken mechanism request).2) := rfl
  unfold rest
  rw [hleft, rounds, run_bind_of hstep]
  dsimp only
  rw [run_bind_of (run_note _ _), run_bind_of hsent]
  rfl

/-- Once the name is taken, establishing is all that is left from the first stage on. -/
theorem run_establish_first {maxRounds : Nat} {target : String} {requested : Flags}
    {wanted : Option Oid} {name : ν} {w' : σ}
    (hname : (mechanism.importName target).run w = (.ok name, w')) :
    (establish mechanism transport maxRounds target requested wanted).run w =
      rest mechanism transport ⟨name, wanted, requested ||| .of [.replay], maxRounds⟩
        (.first ⟨name, wanted, requested ||| .of [.replay], maxRounds⟩ w') := by
  rw [run_establish hname]
  rfl

end

/-- A round that leads on leaves the rest as it was. -/
theorem Leads.rest_eq {s s' : Stage κ σ} (h : Leads mechanism transport request s s') :
    s.rest mechanism transport request = s'.rest mechanism transport request := by
  cases h with
  | round hleft hmore hstatus hsent hreceived =>
    rw [rest_of_sent hleft hsent, hstatus]
    dsimp only
    rw [if_neg hmore, hreceived]

/-- And so does any number of rounds, by induction from behind. -/
theorem Passes.rest_eq {s s' : Stage κ σ} (h : Passes mechanism transport request s s') :
    s.rest mechanism transport request = s'.rest mechanism transport request := by
  induction h with
  | refl => rfl
  | tail _ hleads ih => rw [ih, hleads.rest_eq]

/-- **Where an established context comes from.** The run passes a stage whose step
completes, and the context is that of this step, opened. -/
theorem exists_complete {s : Stage κ σ} {ctx : SecurityContext κ}
    (h : (s.rest mechanism transport request).1 = .ok ctx) :
    ∃ s', Passes mechanism transport request s s' ∧
      (s'.taken mechanism request).1.1.status = .complete ∧
      ctx = (s'.stepped mechanism request).opened (s'.taken mechanism request).1.1.granted := by
  generalize hleft : s.left = left
  -- by induction on the rounds that are left, from any stage
  induction left generalizing s with
  | zero =>
    unfold rest at h
    rw [hleft] at h
    cases h
  | succ left ih =>
    obtain ⟨sent, w, hsent⟩ : ∃ sent w, (sendOutput transport
        (s.taken mechanism request).1.1.output).run (s.taken mechanism request).2 = (sent, w) :=
      ⟨_, _, rfl⟩
    -- a round either ends the run, which only a completed step does well, or leads on
    cases sent with
    | error e =>
      rw [rest_of_unsent hleft hsent] at h
      cases h
    | ok sent =>
      rw [rest_of_sent hleft hsent] at h
      cases hstatus : (s.taken mechanism request).1.1.status with
      | failure status =>
        rw [hstatus] at h
        cases h
      | complete =>
        rw [hstatus] at h
        exact ⟨s, .refl, hstatus, (Except.ok.inj h).symm⟩
      | continueNeeded =>
        rw [hstatus] at h
        dsimp only at h
        by_cases hmore : left = 0
        · rw [if_pos hmore] at h
          cases h
        · rw [if_neg hmore] at h
          obtain ⟨received, w', hreceived⟩ : ∃ received w',
              transport.receive.run w = (received, w') := ⟨_, _, rfl⟩
          rw [hreceived] at h
          cases received with
          | error e => cases h
          | ok token =>
            obtain ⟨s', hpasses, hlast⟩ := ih h rfl
            exact ⟨s', .head (.round hleft hmore hstatus hsent hreceived) hpasses, hlast⟩

end Stage

end Negotiation

/-! ## Uses of a context

Whoever gets the context can protect messages, verify codes, inquire and close. These
are four functions of the engine; as one function of a `Use` they can be strung together
to a run, with the world moving on in between. -/

/-- What is asked of a context that somebody holds. -/
inductive Use where
  | protect (message : Bytes) (confidential : Bool)
  | verify (message token : Bytes)
  | inquire
  | release
  deriving DecidableEq

/-- What the holder is told. -/
inductive Returned where
  | wrapped (result : Except ProtectionError Wrapped)
  | verified (result : Except ProtectionError Unit)
  | info (result : Except Status ContextInfo)
  | nothing
  deriving DecidableEq

/-- What a message is answered with if the context is not established. -/
def Use.shut (state : ContextState) : Use → Option Returned
  | protect .. => some (.wrapped (.error (.contextNotOpen state)))
  | verify .. => some (.verified (.error (.contextNotOpen state)))
  | inquire | release => none

/-- Use a context once. -/
def SecurityContext.use {m : Type → Type} [Monad m] [Journal m] (ctx : SecurityContext κ)
    (mechanism : Mechanism m ν κ) : Use → m (Returned × SecurityContext κ)
  | .protect message confidential => do
    let (result, ctx) ← ctx.protect mechanism message confidential
    return (.wrapped result, ctx)
  | .verify message token => do
    let (result, ctx) ← ctx.verify mechanism message token
    return (.verified result, ctx)
  | .inquire => do
    let result ← ctx.inquire mechanism
    return (.info result, ctx)
  | .release => do
    let ctx ← ctx.release mechanism
    return (.nothing, ctx)

/-- One use of a context, with the context and the world before and after it, and
the deeds that it left. -/
structure Used (ν κ σ : Type) where
  use : Use
  before : SecurityContext κ
  world : σ
  returned : Returned
  after : SecurityContext κ
  later : σ
  deeds : List (Deed ν κ)

/-- Use a context once and observe it. -/
def SecurityContext.used (mechanism : Mechanism (Action ε σ) ν κ) (ctx : SecurityContext κ)
    (use : Use) (w : σ) : Used ν κ σ :=
  let done := (ctx.use mechanism.observed use).run w
  ⟨use, ctx, w, done.1.1, done.1.2, done.2, (ctx.use mechanism.observed use).events w⟩

section

variable {mechanism : Mechanism (Action ε σ) ν κ} {ctx : SecurityContext κ}

/-! ## What a use can do

One inversion for all four operations. The constructors of `Used.Does` are the branches
of the program, each with the guard that leads there, what the mechanism was asked, what
the holder is told and which deeds are left. Everything that is said of a use later is
said by cases of this, and no operation is opened again. -/

/-- Everything that a use can do, one constructor for each way. -/
inductive Used.Does (mechanism : Mechanism (Action ε σ) ν κ) : Used ν κ σ → Prop where
  | wraps {ctx : SecurityContext κ} {handle after : κ} {w w' : σ} {message : Bytes}
      {confidential : Bool} {result : Except Status Wrapped} (hopen : ctx.openHandle = .ok handle)
      (hwrap : (mechanism.wrap handle message confidential).run w = ((result, after), w')) :
      Does mechanism ⟨.protect message confidential, ctx, w, .wrapped (result.mapError .rejected),
        { ctx with handle := some after }, w', [.wrapped handle message confidential result after]⟩
  | verifies {ctx : SecurityContext κ} {handle after : κ} {w w' : σ} {message token : Bytes}
      {result : Except Status Unit} (hopen : ctx.openHandle = .ok handle)
      (hverify : (mechanism.verifyMic handle message token).run w = ((result, after), w')) :
      Does mechanism ⟨.verify message token, ctx, w, .verified (result.mapError .ofVerifying),
        { ctx with handle := some after }, w', [.verified handle message token result after]⟩
  | shut {ctx : SecurityContext κ} {use : Use} {w : σ} {returned : Returned}
      (hshut : ctx.openHandle = .error (.contextNotOpen ctx.state))
      (hreturned : use.shut ctx.state = some returned) :
      Does mechanism ⟨use, ctx, w, returned, ctx, w, []⟩
  | inquires {ctx : SecurityContext κ} {handle : κ} {w w' : σ} {result : Except Status ContextInfo}
      (hhandle : ctx.handle = some handle)
      (hinquire : (mechanism.inquire handle).run w = (result, w')) :
      Does mechanism ⟨.inquire, ctx, w, .info result, ctx, w', [.inquired handle result]⟩
  | unknown {ctx : SecurityContext κ} {w : σ} (hhandle : ctx.handle = none) :
      Does mechanism ⟨.inquire, ctx, w, .info (.error ⟨.noContext, 0⟩), ctx, w, []⟩
  | releases {ctx : SecurityContext κ} {w w' : σ} (hworld : ctx.handle = none → w' = w) :
      Does mechanism ⟨.release, ctx, w, .nothing, { ctx with handle := none, state := .closed }, w',
        ctx.handle.toList.map .released⟩

/-! What the operations on messages leave when they are observed. -/

namespace SecurityContext

variable {handle after : κ} {message token : Bytes} {confidential : Bool} {w w' : σ}

/-- Protecting leaves one deed: what the mechanism was asked, and what it made of it. -/
theorem events_protect {result : Except Status Wrapped} (hopen : ctx.openHandle = .ok handle)
    (hwrap : (mechanism.wrap handle message confidential).run w = ((result, after), w')) :
    (ctx.protect mechanism.observed message confidential).events w =
      [.wrapped handle message confidential result after] := by
  have hobserved : mechanism.observed.wrap handle message confidential =
      (mechanism.wrap handle message confidential).told fun made =>
        .wrapped handle message confidential made.1 made.2 := rfl
  rw [protect, hopen]
  dsimp only
  rw [hobserved, events_bind, events_told, run_told, hwrap]
  cases result with
  | error status => rfl
  | ok wrapped =>
    dsimp only
    split <;> rfl

/-- And so does verifying. -/
theorem events_verify {result : Except Status Unit} (hopen : ctx.openHandle = .ok handle)
    (hverify : (mechanism.verifyMic handle message token).run w = ((result, after), w')) :
    (ctx.verify mechanism.observed message token).events w =
      [.verified handle message token result after] := by
  have hobserved : mechanism.observed.verifyMic handle message token =
      (mechanism.verifyMic handle message token).told fun made =>
        .verified handle message token made.1 made.2 := rfl
  rw [verify, hopen]
  dsimp only
  rw [hobserved, events_bind, events_told, run_told, hverify]
  cases result <;> rfl

/-- Closing takes out what is held, whatever the state was. -/
theorem run_release (mechanism : Mechanism (Action ε σ) ν κ) (ctx : SecurityContext κ) (w : σ) :
    (ctx.release mechanism).run w =
      ({ ctx with handle := none, state := .closed }, ((ctx.release mechanism).run w).2) := by
  unfold release
  cases ctx.handle <;> rfl

/-- There is no other refusal for want of an established context. -/
theorem openHandle_eq_error {e : ProtectionError} (h : ctx.openHandle = .error e) :
    e = .contextNotOpen ctx.state := by
  unfold openHandle at h
  split at h
  · cases h
  · exact (Except.error.inj h).symm

/-- **A use does nothing else.** The cases are those of the program: the use, and for
the operations on messages whether the engine lets them through, for the other two
whether anything is held. -/
theorem used_does (mechanism : Mechanism (Action ε σ) ν κ) (ctx : SecurityContext κ) (use : Use)
    (w : σ) : (ctx.used mechanism use w).Does mechanism := by
  cases use with
  | protect message confidential =>
    cases hopen : ctx.openHandle with
    | error e =>
      obtain rfl := openHandle_eq_error hopen
      unfold used SecurityContext.use protect
      rw [hopen]
      exact .shut hopen rfl
    | ok handle =>
      -- the run is that of the observed mechanism, and the constructor wants the plain one's
      have hwrap : (mechanism.wrap handle message confidential).run w = ((_, _), _) := rfl
      have hobserved : (mechanism.observed.wrap handle message confidential).run w = ((_, _), _) :=
        (congrFun (run_told _ _) w).trans hwrap
      unfold used SecurityContext.use
      rw [run_bind_of (run_protect hopen hobserved), events_bind, events_protect hopen hwrap]
      exact .wraps hopen hwrap
  | verify message token =>
    cases hopen : ctx.openHandle with
    | error e =>
      obtain rfl := openHandle_eq_error hopen
      unfold used SecurityContext.use verify
      rw [hopen]
      exact .shut hopen rfl
    | ok handle =>
      have hverify : (mechanism.verifyMic handle message token).run w = ((_, _), _) := rfl
      have hobserved : (mechanism.observed.verifyMic handle message token).run w = ((_, _), _) :=
        (congrFun (run_told _ _) w).trans hverify
      unfold used SecurityContext.use
      rw [run_bind_of (run_verify hopen hobserved), events_bind, events_verify hopen hverify]
      exact .verifies hopen hverify
  | inquire =>
    cases hhandle : ctx.handle with
    | none =>
      unfold used SecurityContext.use inquire
      rw [hhandle]
      exact .unknown hhandle
    | some handle =>
      have hinquire : (mechanism.inquire handle).run w = (_, _) := rfl
      have hobserved : mechanism.observed.inquire handle =
          (mechanism.inquire handle).told (.inquired handle) := rfl
      unfold used SecurityContext.use inquire
      rw [hhandle]
      dsimp only
      rw [hobserved, run_bind, events_bind, run_told, events_told]
      exact .inquires hhandle hinquire
  | release =>
    have hdeeds : (ctx.release mechanism.observed).events w = ctx.handle.toList.map .released :=
      ctx.release_leaves w
    unfold used SecurityContext.use
    rw [run_bind_of (run_release mechanism.observed ctx w), events_bind, hdeeds]
    show Used.Does mechanism ⟨_, ctx, w, _, _, _, ctx.handle.toList.map .released ++ []⟩
    rw [List.append_nil]
    refine .releases fun hnone => ?_
    unfold release
    rw [hnone]
    rfl

/-- That a use is observed changes nothing of it. -/
theorem run_use_observed (mechanism : Mechanism (Action ε σ) ν κ) (ctx : SecurityContext κ)
    (use : Use) : (ctx.use mechanism.observed use).run = (ctx.use mechanism use).run := by
  cases use with
  | protect message confidential =>
    exact run_bind_congr (ctx.run_protect_observed mechanism message confidential) fun _ => rfl
  | verify message token =>
    exact run_bind_congr (ctx.run_verify_observed mechanism message token) fun _ => rfl
  | inquire => exact run_bind_congr (ctx.run_inquire_observed mechanism) fun _ => rfl
  | release => exact run_bind_congr (ctx.run_release_observed mechanism) fun _ => rfl

end SecurityContext

end

/-! ## What is made and given back

Two kinds of deed matter for what is held: a step that made a context where there was
none, and a context that was given back. Both are counted, along a negotiation and along
the uses after it. -/

/-- Did the mechanism make a context that was not there before? -/
def Deed.makes : Deed ν κ → Bool
  | .stepped taken => taken.before.isNone && taken.after.isSome
  | _ => false

/-- Was a context given back to the mechanism? -/
def Deed.givesBack : Deed ν κ → Bool
  | .released _ => true
  | _ => false

/-- Of a round, the step alone can make a context. -/
theorem Round.countP_makes (r : Round ν κ) : r.deeds.countP Deed.makes =
    if r.taken.before.isNone && r.taken.after.isSome then 1 else 0 := by
  obtain ⟨taken, sent, received⟩ := r
  cases sent <;> cases received <;> simp [deeds, List.countP_cons, Deed.makes]

theorem Round.countP_givesBack (r : Round ν κ) : r.deeds.countP Deed.givesBack = 0 := by
  obtain ⟨taken, sent, received⟩ := r
  cases sent <;> cases received <;> rfl

theorem Negotiation.countP_givesBack_rounds (rounds : List (Round ν κ)) :
    (rounds.flatMap Round.deeds).countP Deed.givesBack = 0 := by
  induction rounds with
  | nil => rfl
  | cons r rounds ih => rw [List.flatMap_cons, List.countP_append, r.countP_givesBack, ih]

/-- At the end of a negotiation nothing is made, and what is left is given back if
nobody gets it. -/
theorem Negotiation.countP_givenBack (context : Option κ)
    (result : Except NegotiationError (SecurityContext κ)) :
    (givenBack context result : List (Deed ν κ)).countP Deed.makes = 0 ∧
      (givenBack context result : List (Deed ν κ)).countP Deed.givesBack =
        match result with
        | .ok _ => 0
        | .error _ => context.toList.length := by
  cases result with
  | ok ctx => exact ⟨rfl, rfl⟩
  | error e => cases context <;> exact ⟨rfl, rfl⟩

namespace Used.Does

variable {mechanism : Mechanism (Action ε σ) ν κ} {u : Used ν κ σ}

/-- Only closing changes the state. -/
theorem state_eq (h : u.Does mechanism) :
    u.after.state = if u.use = .release then .closed else u.before.state := by
  cases h with
  | wraps | verifies | inquires | unknown => rfl
  | shut _ hreturned => rw [if_neg (by rintro rfl; cases hreturned)]
  | releases => rfl

/-- What is held stays held, and nothing is given back, until the context is closed. -/
theorem keeps (h : u.Does mechanism) (huse : u.use ≠ .release) :
    u.after.handle.isSome = u.before.handle.isSome ∧ u.deeds.countP Deed.givesBack = 0 := by
  cases h with
  | wraps hopen | verifies hopen =>
    rw [(SecurityContext.openHandle_eq_ok_iff.mp hopen).2]
    exact ⟨rfl, rfl⟩
  | shut | inquires | unknown => exact ⟨rfl, rfl⟩
  | releases => exact absurd rfl huse

/-- Closing gives back what is held, and nothing is held any more. -/
theorem closes (h : u.Does mechanism) (huse : u.use = .release) :
    u.after.handle = none ∧ u.deeds = u.before.handle.toList.map .released := by
  cases h with
  | wraps | verifies | inquires | unknown => cases huse
  | shut _ hreturned =>
    dsimp only at huse
    rw [huse] at hreturned
    cases hreturned
  | releases => exact ⟨rfl, rfl⟩

theorem makes_nothing (h : u.Does mechanism) : u.deeds.countP Deed.makes = 0 := by
  cases h with
  | wraps | verifies | shut | inquires | unknown => rfl
  | @releases ctx => cases ctx.handle <;> rfl

end Used.Does

/-! ## What a run gives back

How often something is given back does not say what it was. For that a run is
followed stage by stage: the deeds that give something back are the same from
every stage that it passes, since a round that leads on gives back nothing, and
where the run ends they are read off the context that its last step left. -/

/-- What comes after a part that leaves nothing of a kind leaves all of it. -/
theorem Action.filter_events_bind {δ α β : Type} {p : δ → Bool} {x : Action δ σ α}
    {f : α → Action δ σ β} {w w' : σ} {a : α} (hnone : (x.events w).filter p = [])
    (hrun : x.run w = (a, w')) :
    ((x >>= f).events w).filter p = ((f a).events w').filter p := by
  rw [events_bind, List.filter_append, hnone, hrun, List.nil_append]

namespace Negotiation

variable {mechanism : Mechanism (Action ε σ) ν κ} {transport : Transport (Action ε σ)}
  {request : Request ν}

/-! The parts of a round: of these only giving up gives anything back. -/

/-- A step may make a context, but it gives none back. -/
theorem filter_initStep (ctx : SecurityContext κ) (target : ν) (wanted : Option Oid)
    (flags : Flags) (input : Option Bytes) (w : σ) :
    ((ctx.initStep mechanism.observed target wanted flags input).events w).filter
      Deed.givesBack = [] := by
  have hleaves : (ctx.initStep mechanism.observed target wanted flags input).Leaves _ :=
    ctx.initStep_leaves target wanted flags input
  obtain ⟨after, -, hdeeds⟩ := hleaves w
  rw [hdeeds]
  rfl

/-- To send is nothing of the kind. -/
theorem filter_sendOutput (output : Bytes) (w : σ) :
    ((sendOutput transport.observed output : Action (Deed ν κ) σ _).events w).filter
      Deed.givesBack = [] := by
  have hleaves : (sendOutput transport.observed output : Action (Deed ν κ) σ _).Leaves _ :=
    sendOutput_leaves output
  obtain ⟨sent, -, -, hdeeds⟩ := hleaves w
  rw [hdeeds]
  cases sent <;> rfl

/-- Nor is to receive. -/
theorem filter_receiveInput (w : σ) :
    ((receiveInput transport.observed : Action (Deed ν κ) σ _).events w).filter
      Deed.givesBack = [] := by
  have hleaves : (receiveInput transport.observed : Action (Deed ν κ) σ _).Leaves _ :=
    receiveInput_leaves
  rw [hleaves w]
  rfl

/-- To give up is to give back what is held, if anything is. -/
theorem filter_abandon (ctx : SecurityContext κ) (e : NegotiationError) (w : σ) :
    ((abandon mechanism.observed ctx e).events w).filter Deed.givesBack =
      ctx.handle.toList.map .released := by
  rw [(abandon_leaves ctx e w).2]
  cases ctx.handle <;> rfl

/-- The same if it is for want of rounds. -/
theorem filter_exhausted (request : Request ν) (ctx : SecurityContext κ) (w : σ) :
    ((exhausted mechanism.observed request ctx).events w).filter Deed.givesBack =
      ctx.handle.toList.map .released := by
  rw [exhausted, filter_events_bind rfl (run_note _ w), filter_abandon]

namespace Stage

variable (mechanism transport request)

/-- The deeds by which an observed run gives something back, from a stage on. -/
def releases (s : Stage κ σ) : List (Deed ν κ) :=
  ((rounds mechanism.observed transport.observed request s.left s.round s.input s.ctx).events
    s.world).filter Deed.givesBack

variable {mechanism transport request} {s : Stage κ σ} {left : Nat} {w : σ}

/-- The observed step is the step, with the same result in the same world. -/
theorem run_step_observed (s : Stage κ σ) :
    (s.ctx.initStep mechanism.observed request.target request.wanted request.flags s.input).run
      s.world = (((s.taken mechanism request).1.1, s.stepped mechanism request),
        (s.taken mechanism request).2) :=
  congrFun (s.ctx.run_initStep_observed mechanism _ _ _ _) s.world

/-- Where no round is left, what was held before is given back. -/
theorem releases_of_noneLeft (hleft : s.left = 0) :
    s.releases mechanism transport request = s.ctx.handle.toList.map .released := by
  unfold releases
  rw [hleft]
  exact filter_exhausted request s.ctx s.world

/-- A token that cannot be sent costs the context that the step left. -/
theorem releases_of_unsent (hleft : s.left = left + 1) {e : TransportError}
    (hsent : (sendOutput transport (s.taken mechanism request).1.1.output).run
      (s.taken mechanism request).2 = (.error e, w)) :
    s.releases mechanism transport request =
      (s.stepped mechanism request).handle.toList.map .released := by
  have hsent' := (congrFun (run_sendOutput_observed (ν := ν) (κ := κ) transport _) _).trans hsent
  unfold releases
  rw [hleft, rounds, filter_events_bind (filter_initStep ..) s.run_step_observed]
  dsimp only
  rw [filter_events_bind rfl (run_note _ _), filter_events_bind (filter_sendOutput ..) hsent']
  exact filter_abandon ..

/-- Once the token is sent, it is the step and the answer that decide. -/
theorem releases_of_sent (hleft : s.left = left + 1)
    (hsent : (sendOutput transport (s.taken mechanism request).1.1.output).run
      (s.taken mechanism request).2 = (.ok (), w)) :
    s.releases mechanism transport request =
      match (s.taken mechanism request).1.1.status with
      | .failure _ => (s.stepped mechanism request).handle.toList.map .released
      | .complete => []
      | .continueNeeded =>
        if left = 0 then (s.stepped mechanism request).handle.toList.map .released
        else
          match transport.receive.run w with
          | (.error _, _) => (s.stepped mechanism request).handle.toList.map .released
          | (.ok token, w) => releases mechanism transport request
              ⟨left, s.round + 1, some token, s.stepped mechanism request, w⟩ := by
  -- what the plain transport does is what the observed one does, but for the deed it leaves
  have hsent' := (congrFun (run_sendOutput_observed (ν := ν) (κ := κ) transport _) _).trans hsent
  unfold releases
  rw [hleft, rounds, filter_events_bind (filter_initStep ..) s.run_step_observed]
  dsimp only
  rw [filter_events_bind rfl (run_note _ _), filter_events_bind (filter_sendOutput ..) hsent']
  dsimp only
  cases (s.taken mechanism request).1.1.status with
  | failure status => exact filter_abandon ..
  | complete =>
    dsimp only
    rw [(finished_leaves request _ _ _ _).2]
    rfl
  | continueNeeded =>
    dsimp only
    by_cases hmore : left = 0
    · rw [if_pos hmore, if_pos hmore, filter_exhausted]
    · rw [if_neg hmore, if_neg hmore]
      obtain ⟨received, w', hreceived⟩ : ∃ received w',
          transport.receive.run w = (received, w') := ⟨_, _, rfl⟩
      have hreceived' : (receiveInput transport.observed : Action (Deed ν κ) σ _).run w =
          (received, w') := by
        rw [run_receiveInput]
        exact (congrFun (run_told _ _) w).trans hreceived
      rw [filter_events_bind (filter_receiveInput w) hreceived', hreceived]
      cases received with
      | error e => exact filter_abandon ..
      | ok token => rfl

/-- **A round that leads on gives nothing back.** -/
theorem Leads.releases_eq {s s' : Stage κ σ} (h : Leads mechanism transport request s s') :
    s.releases mechanism transport request = s'.releases mechanism transport request := by
  cases h with
  | round hleft hmore hstatus hsent hreceived =>
    rw [releases_of_sent hleft hsent, hstatus]
    dsimp only
    rw [if_neg hmore, hreceived]

/-- So what a run gives back can be read off any stage that it passes. -/
theorem Passes.releases_eq {s s' : Stage κ σ} (h : Passes mechanism transport request s s') :
    s.releases mechanism transport request = s'.releases mechanism transport request := by
  induction h with
  | refl => rfl
  | tail _ hleads ih => rw [ih, hleads.releases_eq]

/-- What establishing gives back is what is given back from the first stage on. -/
theorem filter_establish {maxRounds : Nat} {target : String} {requested : Flags}
    {wanted : Option Oid} {name : ν} {w' : σ}
    (hname : (mechanism.importName target).run w = (.ok name, w')) :
    ((establish mechanism.observed transport.observed maxRounds target requested
        wanted).events w).filter Deed.givesBack =
      releases mechanism transport ⟨name, wanted, requested ||| .of [.replay], maxRounds⟩
        (.first ⟨name, wanted, requested ||| .of [.replay], maxRounds⟩ w') := by
  rw [events_establish mechanism transport hname]
  rfl

/-- A stage that a run passes tells of the whole run, with its deeds looked at: what comes
of it and what it gives back are what comes of the stage and is given back from there. -/
theorem Passes.observed_eq {maxRounds : Nat} {target : String} {requested : Flags}
    {wanted : Option Oid} {name : ν} {w' : σ} {s : Stage κ σ}
    (hname : (mechanism.importName target).run w = (.ok name, w'))
    (h : Passes mechanism transport ⟨name, wanted, requested ||| .of [.replay], maxRounds⟩
      (.first ⟨name, wanted, requested ||| .of [.replay], maxRounds⟩ w') s) :
    let observed : Action (Deed ν κ) σ _ :=
      establish mechanism.observed transport.observed maxRounds target requested wanted
    s.rest mechanism transport ⟨name, wanted, requested ||| .of [.replay], maxRounds⟩ =
        observed.run w ∧
      s.releases mechanism transport ⟨name, wanted, requested ||| .of [.replay], maxRounds⟩ =
        (observed.events w).filter Deed.givesBack := by
  intro observed
  have hunseen : observed.run w =
      (establish mechanism transport maxRounds target requested wanted).run w :=
    congrFun (run_establish_observed mechanism transport ..) w
  constructor
  · rw [hunseen, run_establish_first hname, h.rest_eq]
  · rw [filter_establish hname, h.releases_eq]

/-- **How a run ends that comes to nothing.** It passes a last stage, and what is
given back is what is held there: from before, if no round was left, and else what
the step of that stage left. A step that completed came to nothing only because its
token was not sent. -/
theorem exists_last {s : Stage κ σ} {e : NegotiationError}
    (h : (s.rest mechanism transport request).1 = .error e) :
    ∃ s', Passes mechanism transport request s s' ∧
      ((s'.left = 0 ∧ s.releases mechanism transport request =
          s'.ctx.handle.toList.map .released) ∨
        (s.releases mechanism transport request =
            (s'.stepped mechanism request).handle.toList.map .released ∧
          ((s'.taken mechanism request).1.1.status = .complete → ∃ error w,
            e = .transport error ∧
            (sendOutput transport (s'.taken mechanism request).1.1.output).run
              (s'.taken mechanism request).2 = (.error error, w)))) := by
  generalize hleft : s.left = left
  -- by induction on the rounds that are left, from any stage
  induction left generalizing s with
  | zero => exact ⟨s, .refl, .inl ⟨hleft, releases_of_noneLeft hleft⟩⟩
  | succ left ih =>
    obtain ⟨sent, w, hsent⟩ : ∃ sent w, (sendOutput transport
        (s.taken mechanism request).1.1.output).run (s.taken mechanism request).2 = (sent, w) :=
      ⟨_, _, rfl⟩
    cases sent with
    -- the token is lost: what the step left is given back, and the error is the transport's
    | error error =>
      rw [rest_of_unsent hleft hsent] at h
      exact ⟨s, .refl, .inr ⟨releases_of_unsent hleft hsent,
        fun _ => ⟨error, w, (Except.error.inj h).symm, hsent⟩⟩⟩
    | ok sent =>
      have hreleases := releases_of_sent hleft hsent
      rw [rest_of_sent hleft hsent] at h
      cases hstatus : (s.taken mechanism request).1.1.status with
      | failure status =>
        rw [hstatus] at hreleases
        exact ⟨s, .refl, .inr ⟨hreleases, fun hcomplete => by cases hstatus.symm.trans hcomplete⟩⟩
      | complete =>
        rw [hstatus] at h
        cases h
      | continueNeeded =>
        rw [hstatus] at h hreleases
        dsimp only at h hreleases
        -- the step asked for an answer, so it is none of those that completed
        have hdone : (s.taken mechanism request).1.1.status ≠ .complete := by
          rw [hstatus]
          exact nofun
        by_cases hmore : left = 0
        · rw [if_pos hmore] at hreleases
          exact ⟨s, .refl, .inr ⟨hreleases, fun hcomplete => absurd hcomplete hdone⟩⟩
        · rw [if_neg hmore] at h hreleases
          obtain ⟨received, w', hreceived⟩ : ∃ received w',
              transport.receive.run w = (received, w') := ⟨_, _, rfl⟩
          rw [hreceived] at h hreleases
          cases received with
          | error error =>
            exact ⟨s, .refl, .inr ⟨hreleases, fun hcomplete => absurd hcomplete hdone⟩⟩
          | ok token =>
            obtain ⟨s', hpasses, hlast⟩ := ih h rfl
            rw [← (Leads.round hleft hmore hstatus hsent hreceived).releases_eq] at hlast
            exact ⟨s', .head (.round hleft hmore hstatus hsent hreceived) hpasses, hlast⟩

end Negotiation.Stage

/-! ## Runs of uses

Between two uses anything may happen in the world, and every use begins with the context
that the one before it left. What is to hold of all uses is shown with an invariant of
the context in between. -/

/-- A use, and what happens in the world before it. -/
structure Occasion (σ : Type) where
  meanwhile : σ → σ
  use : Use

/-- Dropping a context closes it, if it is not closed. -/
def Occasion.drop : Occasion σ := ⟨id, .release⟩

namespace SecurityContext

/-- The uses of a context, each of which begins with what the one before it left. -/
def visits (mechanism : Mechanism (Action ε σ) ν κ) :
    SecurityContext κ → σ → List (Occasion σ) → List (Used ν κ σ)
  | _, _, [] => []
  | ctx, w, occasion :: rest =>
    let first := ctx.used mechanism occasion.use (occasion.meanwhile w)
    first :: visits mechanism first.after first.later rest

variable {mechanism : Mechanism (Action ε σ) ν κ}

/-- What every use keeps and every use shows holds all along. The induction is on the
uses, from any context that has the invariant. -/
theorem forall_visits {I : SecurityContext κ → Prop} {P : Used ν κ σ → Prop}
    (hstep : ∀ ctx use w, I ctx →
      I (ctx.used mechanism use w).after ∧ P (ctx.used mechanism use w))
    {ctx : SecurityContext κ} (hctx : I ctx) (w : σ) (occasions : List (Occasion σ)) :
    ∀ u ∈ ctx.visits mechanism w occasions, P u := by
  induction occasions generalizing ctx w with
  | nil =>
    intro u hu
    cases hu
  | cons occasion rest ih =>
    obtain ⟨hkept, hshown⟩ := hstep ctx occasion.use (occasion.meanwhile w) hctx
    intro u hu
    rcases List.mem_cons.mp hu with rfl | hu
    · exact hshown
    · exact ih hkept _ u hu

/-- A closed context stays closed: closing it once more is the only use that touches the
state. -/
theorem closed_visits {ctx : SecurityContext κ} (hclosed : ctx.state = .closed) (w : σ)
    (occasions : List (Occasion σ)) : ∀ u ∈ ctx.visits mechanism w occasions,
      u.before.state = .closed ∧ u.after.state = .closed := by
  refine forall_visits (I := fun ctx => ctx.state = .closed) ?_ hclosed w occasions
  intro ctx use w hbefore
  have hafter : (ctx.used mechanism use w).after.state = .closed := by
    rw [(ctx.used_does mechanism use w).state_eq]
    show (if use = .release then ContextState.closed else ctx.state) = .closed
    rw [hbefore, ite_self]
  exact ⟨hafter, hbefore, hafter⟩

/-- **Once closed, always closed.** Of any two uses, if the earlier one left the context
closed, then the later one found it so and left it so. -/
theorem pairwise_closed_visits (ctx : SecurityContext κ) (w : σ) (occasions : List (Occasion σ)) :
    (ctx.visits mechanism w occasions).Pairwise fun u u' =>
      u.after.state = .closed → u'.before.state = .closed ∧ u'.after.state = .closed := by
  induction occasions generalizing ctx w with
  | nil => exact .nil
  | cons occasion rest ih =>
    refine .cons ?_ (ih _ _)
    intro u hu hclosed
    exact closed_visits hclosed _ rest u hu

/-- Using a context makes none. -/
theorem countP_makes_visits (ctx : SecurityContext κ) (w : σ) (occasions : List (Occasion σ)) :
    ((ctx.visits mechanism w occasions).flatMap Used.deeds).countP Deed.makes = 0 := by
  induction occasions generalizing ctx w with
  | nil => rfl
  | cons occasion rest ih =>
    have hdoes := ctx.used_does mechanism occasion.use (occasion.meanwhile w)
    rw [visits, List.flatMap_cons, List.countP_append, ih, hdoes.makes_nothing]

/-- **What is held is given back once.** That is the first time that the context is
closed, however often that is done. -/
theorem countP_givesBack_visits (ctx : SecurityContext κ) (w : σ)
    (occasions : List (Occasion σ)) :
    ((ctx.visits mechanism w occasions).flatMap Used.deeds).countP Deed.givesBack =
      if ctx.handle.isSome ∧ ∃ occasion ∈ occasions, occasion.use = .release then 1 else 0 := by
  -- by induction on the uses, from any context: after the first closing nothing is held
  induction occasions generalizing ctx w with
  | nil => simp [visits]
  | cons occasion rest ih =>
    have hdoes := ctx.used_does mechanism occasion.use (occasion.meanwhile w)
    rw [visits, List.flatMap_cons, List.countP_append, ih]
    by_cases huse : occasion.use = .release
    · obtain ⟨hnone, hdeeds⟩ := hdoes.closes huse
      rw [hnone, hdeeds]
      show (ctx.handle.toList.map Deed.released).countP Deed.givesBack + _ = _
      cases ctx.handle <;> simp [huse, Deed.givesBack]
    · obtain ⟨hsame, hcount⟩ := hdoes.keeps huse
      rw [hsame, hcount]
      simp only [List.mem_cons, exists_eq_or_imp, huse, false_or, Nat.zero_add]
      rfl

end SecurityContext

end GssContext
