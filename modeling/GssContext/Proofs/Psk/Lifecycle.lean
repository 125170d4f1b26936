/-
The life of a context.

Whoever holds a context, or none yet, may ask for anything in any order: a step
of the handshake, a message to be made or taken, or what there is to know about
the context. The world is another one each time. What comes of one request is
one of six things, and `Moment.Lawful` lists them; a life is a list of such
moments, each of which begins with what the one before it left.

Two invariants carry a whole life. What successful steps are still to come is
determined by the context alone, so each of them comes once at most and in
order. And of an open context nothing but the two counters of its session ever
changes, upwards.
-/
import GssContext.Proofs.Psk.Agreement
import GssContext.Proofs.Psk.Completion
import GssContext.Proofs.Psk.Delivery

set_option autoImplicit false

namespace GssContext.Psk

variable {ι σ ε : Type}

/-! ## Sessions that go on

A session is changed by calls and by nothing else, and its counters only go up. That one
session is an earlier state of another one is an order, so what a single call does can
be chained over any number of calls, and the beginning of a life compared with its end. -/

namespace Session

/-- The session `s'` is `s` at a later time: it has the same keys, direction,
confidentiality and end, and neither counter went back. -/
structure Precedes (s s' : Session) : Prop where
  fixed : s' = s.withCounters s'.sendSeq s'.lastAccepted
  sent : s.sendSeq ≤ s'.sendSeq
  accepted : ∀ last, s.lastAccepted = some last →
    ∃ last', s'.lastAccepted = some last' ∧ last ≤ last'

theorem Precedes.refl (s : Session) : s.Precedes s where
  fixed := rfl
  sent := UInt64.le_refl _
  accepted last hlast := ⟨last, hlast, UInt64.le_refl _⟩

/-- What comes later still comes later: neither counter went back in between. -/
theorem Precedes.trans {s s' s'' : Session} (h : s.Precedes s') (h' : s'.Precedes s'') :
    s.Precedes s'' where
  fixed := by
    rw [h'.fixed, h.fixed]
    rfl
  sent := UInt64.le_trans h.sent h'.sent
  accepted last hlast := by
    obtain ⟨last', hlast', hle⟩ := h.accepted last hlast
    obtain ⟨last'', hlast'', hle'⟩ := h'.accepted last' hlast'
    exact ⟨last'', hlast'', UInt64.le_trans hle hle'⟩

/-- A number that is used up is left behind. -/
theorem precedes_advanced {s : Session} (hnumber : s.HasNumber) : s.Precedes s.advanced where
  fixed := rfl
  sent := by
    rw [UInt64.le_iff_toNat_le, s.sendSeq_advanced hnumber]
    exact Nat.le_succ _
  accepted last hlast := ⟨last, hlast, UInt64.le_refl _⟩

/-- A fresh number is above the last one. -/
theorem precedes_accepted {s : Session} {seq : UInt64} (hfresh : s.isFresh seq = true) :
    s.Precedes (s.accepted seq) where
  fixed := rfl
  sent := UInt64.le_refl _
  accepted last hlast := by
    unfold isFresh at hfresh
    rw [hlast] at hfresh
    exact ⟨seq, rfl, UInt64.le_of_lt (of_decide_eq_true hfresh)⟩

/-- A call takes a session to a later one. What is sent moves the one counter and what
is accepted the other one, and a refusal moves neither of them back. -/
theorem Step.precedes {s s' : Session} {now : Instant} {call : Call} {answer : Answer}
    (h : s.Step now call answer s') : s.Precedes s' := by
  cases h with
  | expired | exhausted | noEntropy | notUnwrapped | notVerified => exact .refl s
  | tooLong _ hnumber => exact precedes_advanced hnumber
  | wrapOpen _ hnumber => exact precedes_advanced hnumber
  | wrapSealed _ hnumber => exact precedes_advanced hnumber
  | getMic _ hnumber => exact precedes_advanced hnumber
  | unwrapped h =>
    obtain ⟨seq, hfresh, rfl⟩ := accepted_of_unwrap h
    exact precedes_accepted hfresh
  | verified h =>
    obtain ⟨seq, hfresh, rfl⟩ := accepted_of_verifyMic h
    exact precedes_accepted hfresh

end Session

/-! ## Moments

Requests are of three kinds, and the first is left open in what a step is given, so that
initiators and acceptors have lives of the same form. A moment records what was asked,
what was told, and the context before and after. The next moment begins with the context
that this one left, in whatever world. -/

/-- What can be asked of a side, with `ι` for what a step is given. -/
inductive Ask (ι : Type) where
  | step (call : ι)
  | message (call : Call)
  | inquire
  deriving DecidableEq

/-- What a side tells. -/
inductive Told where
  | stepped (step : Step)
  | answered (answer : Answer)
  | info (info : Option ContextInfo)
  deriving DecidableEq

/-- A request, with the context before and after it. -/
structure Moment (ι : Type) where
  before : Option Context
  ask : Ask ι
  told : Told
  after : Option Context
  deriving DecidableEq

/-- One request to a side. There are no messages without a context. -/
def Side.moment (side : Side ι σ) (env : Environment (Action ε σ)) (before : Option Context) :
    Ask ι × σ → Moment ι
  | (.step call, w) =>
    ⟨before, .step call, .stepped (side.turn before (call, w)).step,
      (side.turn before (call, w)).after⟩
  | (.message call, w) =>
    match before with
    | none => ⟨none, .message call, .answered (.refused .noContext), none⟩
    | some c =>
      ⟨some c, .message call, .answered ((c.call env call).run w).1.1,
        some ((c.call env call).run w).1.2⟩
  | (.inquire, _) => ⟨before, .inquire, .info (before.map Context.info), before⟩

section

variable (side : Side ι σ) (env : Environment (Action ε σ))

/-- A step is a turn of the side. -/
theorem Side.moment_step (before : Option Context) (call : ι) (w : σ) :
    side.moment env before (.step call, w) =
      ⟨before, .step call, .stepped (side.turn before (call, w)).step,
        (side.turn before (call, w)).after⟩ := rfl

/-- A message on a context is a call. -/
theorem Side.moment_message (c : Context) (call : Call) (w : σ) :
    side.moment env (some c) (.message call, w) =
      ⟨some c, .message call, .answered ((c.call env call).run w).1.1,
        some ((c.call env call).run w).1.2⟩ := rfl

theorem Side.moment_message_none (call : Call) (w : σ) :
    side.moment env none (.message call, w) =
      ⟨none, .message call, .answered (.refused .noContext), none⟩ := rfl

/-- A moment begins with the context that it is given. -/
@[simp] theorem Side.moment_before (before : Option Context) (ask : Ask ι × σ) :
    (side.moment env before ask).before = before := by
  obtain ⟨ask, w⟩ := ask
  cases ask with
  | step | inquire => rfl
  | message => cases before <;> rfl

end

/-- The moments of a life from a context on. -/
def Side.life (side : Side ι σ) (env : Environment (Action ε σ)) :
    Option Context → List (Ask ι × σ) → List (Moment ι)
  | _, [] => []
  | before, ask :: asks =>
    side.moment env before ask :: side.life env (side.moment env before ask).after asks

/-- The status of a step, unless it failed. -/
def Moment.success? (m : Moment ι) : Option StepStatus :=
  match m.told with
  | .stepped step =>
    match step.status with
    | .failure _ => none
    | status => some status
  | _ => none

/-- What the successful steps that are still to come are, from a context on. -/
def Context.remaining : Option Context → List StepStatus
  | none => [.continueNeeded, .complete]
  | some c => if c.isOpen then [] else [.complete]

/-! ## What a life is

The structure below says what holds of every life. Three of its clauses are about the
whole of it: how the steps succeed one another, that an open context goes on, and that
it always tells the same about itself. The others are about single moments, and tell
what may be asked when, and what a failure leaves. -/

/-- The context `c'` is the open context `c` at a later time: all that is
recorded is the same, and its session is a later one. -/
def Context.Continues (c c' : Context) : Prop :=
  ∃ s s', c.phase = .established s ∧ s.Precedes s' ∧ c' = c.withSession s'

/-- From no context to one that waits, from there to an open one, and no way
back. -/
inductive Moves (waits : Phase → Prop) : Option Context → Option Context → Prop where
  | stays (context : Option Context) : Moves waits context context
  | begins {c : Context} (hwaits : waits c.phase) : Moves waits none (some c)
  | opens {c c' : Context} {s : Session} (hwaits : waits c.phase)
      (hopen : c'.phase = .established s) : Moves waits (some c) (some c')
  | serves {c c' : Context} (hlater : c.Continues c') : Moves waits (some c) (some c')

/-- What holds of the moments of a life. A context waits in the phases that
`waits` says, and with the last step comes a token that `concludes` says. -/
structure Lives (waits : Phase → Prop) (concludes : Bytes → Prop) (life : List (Moment ι)) :
    Prop where
  moves : ∀ m ∈ life, Moves waits m.before m.after
  /-- One step at most asks for an answer, and after it one at most completes. -/
  succeeds : life.filterMap Moment.success? <+: [.continueNeeded, .complete]
  begins : ∀ m ∈ life, ∀ step, m.told = .stepped step → step.status = .continueNeeded →
    step.output ≠ []
  ends : ∀ m ∈ life, ∀ step, m.told = .stepped step → step.status = .complete →
    concludes step.output
  fails : ∀ m ∈ life, ∀ step status, m.told = .stepped step → step.status = .failure status →
    step.output = [] ∧ step.granted = .empty ∧ m.after = m.before
  /-- Before the context is open there are no messages. -/
  early : ∀ m ∈ life, ¬ IsOpen m.before → ∀ call, m.ask = .message call →
    m.told = .answered (.refused .noContext) ∧ m.after = m.before
  /-- After that there are no steps. -/
  late : ∀ m ∈ life, IsOpen m.before → ∀ call, m.ask = .step call →
    ∃ status, m.told = .stepped (.failure status) ∧ m.after = m.before
  /-- An open context goes on. -/
  continues : life.Pairwise fun m m' => ∀ c, m.after = some c → c.isOpen = true →
    ∃ c', m'.after = some c' ∧ c.Continues c'
  /-- What it tells about itself stays the same. -/
  tells : life.Pairwise fun m m' => IsOpen m.before → m.ask = .inquire → m'.ask = .inquire →
    m'.told = m.told

/-! ## Open contexts

Going on is a relation between contexts, and it too can be chained. Where a context goes
on, all that it tells about itself stays the same, since the counters are not part of
that. -/

namespace Context

variable {c c' c'' : Context} {s : Session}

/-- A context is open exactly if it has a session. -/
theorem isOpen_iff : c.isOpen = true ↔ ∃ s, c.phase = .established s := by
  rw [isOpen, Option.isSome_iff_exists]
  exact exists_congr fun s => session?_eq_some_iff

theorem Continues.refl (h : c.isOpen = true) : c.Continues c := by
  obtain ⟨s, hs⟩ := isOpen_iff.mp h
  exact ⟨s, s, hs, .refl s, (withSession_self hs).symm⟩

/-- What continues a continuation continues the first context. -/
theorem Continues.trans (h : c.Continues c') (h' : c'.Continues c'') : c.Continues c'' := by
  obtain ⟨s, s', hs, hlater, rfl⟩ := h
  obtain ⟨_, s'', ⟨⟩, hlater', rfl⟩ := h'
  exact ⟨s, s'', hs, hlater.trans hlater', rfl⟩

theorem Continues.isOpen (h : c.Continues c') : c'.isOpen = true := by
  obtain ⟨s, s', -, -, rfl⟩ := h
  rfl

/-- What a context tells about itself is the same when it goes on. -/
theorem Continues.info (h : c.Continues c') : c'.info = c.info := by
  obtain ⟨s, s', hs, hlater, rfl⟩ := h
  have hends : s'.expiresAt = s.expiresAt := by rw [hlater.fixed]; rfl
  have hopen := isOpen_iff.mpr ⟨s, hs⟩
  unfold Context.info
  rw [hopen, session?_eq_some_iff.mpr hs, Option.bind_some, ← hends]
  rfl

/-- Before the context is established a call is refused, and nothing changes. -/
theorem run_call_closed {env : Environment (Action ε σ)} (hclosed : c.session? = none)
    (call : Call) (w : σ) : ((c.call env call).run w).1 = (.refused .noContext, c) := by
  have hsession : c.session = .error .noContext := by
    rw [Context.session, hclosed]
  cases call with
  | wrap message confidential =>
    rw [Context.call, Action.run_bind, Context.wrap, hsession]
    rfl
  | getMic message =>
    rw [Context.call, run_answer, Context.getMic, hsession]
    rfl
  | unwrap token =>
    rw [Context.call, run_answer, Context.unwrap, hsession]
    rfl
  | verifyMic message token =>
    rw [Context.call, run_answer, Context.verifyMic, hsession]
    rfl

end Context

/-! ## Everything a moment can be

Each moment is one of six. The list is made so that every clause about single moments
can be read off it by cases: a clause that speaks of steps has three of them to look at,
and one that speaks of messages two. That there is no seventh is the step lemma of this
module, and it holds for any side that has two steps. -/

/-- A first step of either side. -/
def Begins (waits : Phase → Prop) (_ : ι) (step : Step) (c : Context) : Prop :=
  waits c.phase ∧ step.status = .continueNeeded ∧ step.output ≠ []

/-- A last step of either side. -/
def Concludes (waits : Phase → Prop) (concludes : Bytes → Prop) (c : Context) (_ : ι)
    (step : Step) (c' : Context) : Prop :=
  waits c.phase ∧ c'.isOpen = true ∧ step.status = .complete ∧ concludes step.output

/-- What can come of one request. -/
inductive Moment.Lawful (waits : Phase → Prop) (concludes : Bytes → Prop) : Moment ι → Prop where
  | begun {call : ι} {step : Step} {c : Context} (hclosed : c.isOpen = false)
      (hbegins : Begins waits call step c) :
      Lawful waits concludes ⟨none, .step call, .stepped step, some c⟩
  | completed {call : ι} {step : Step} {c c' : Context} (hclosed : c.isOpen = false)
      (hconcludes : Concludes waits concludes c call step c') :
      Lawful waits concludes ⟨some c, .step call, .stepped step, some c'⟩
  | failed {before : Option Context} {call : ι} (status : Status) :
      Lawful waits concludes ⟨before, .step call, .stepped (.failure status), before⟩
  | tooEarly {before : Option Context} {call : Call} (hclosed : ¬ IsOpen before) :
      Lawful waits concludes ⟨before, .message call, .answered (.refused .noContext), before⟩
  | served {c c' : Context} {call : Call} {answer : Answer} (hlater : c.Continues c') :
      Lawful waits concludes ⟨some c, .message call, .answered answer, some c'⟩
  | inquired {before : Option Context} :
      Lawful waits concludes ⟨before, .inquire, .info (before.map Context.info), before⟩

section

variable {side : Side ι σ} {env : Environment (Action ε σ)} {waits : Phase → Prop}
  {concludes : Bytes → Prop}

/-- Of a side of two steps every moment is one of the six. The cases are the request and
then the context: a step succeeds only where the side has one of its two, and a message
is served only where there is a session. -/
theorem Side.TakesTwo.moment_lawful
    (h : side.TakesTwo (Begins waits) (Concludes waits concludes)) (hexact : env.Exact)
    (before : Option Context) (ask : Ask ι × σ) :
    (side.moment env before ask).Lawful waits concludes := by
  obtain ⟨ask, w⟩ := ask
  cases ask with
  | step call =>
    rw [Side.moment_step]
    -- without a context only a first step succeeds, with one only a last step
    cases before with
    | none =>
      rcases h.turn_none (call, w) with ⟨status, hturn⟩ | ⟨step, c, hfirst, hturn⟩
      · rw [hturn]
        exact .failed status
      · rw [hturn]
        exact .begun (h.first_waits hfirst) hfirst
    | some c =>
      rcases h.turn_some c (call, w) with ⟨status, hturn⟩ | ⟨step, c', hlast, hturn⟩
      · rw [hturn]
        exact .failed status
      · rw [hturn]
        exact .completed (h.last_waits hlast) hlast
  | message call =>
    cases before with
    | none => exact .tooEarly Bool.false_ne_true
    | some c =>
      rw [Side.moment_message]
      -- whether the call is refused for want of a session is the context's phase alone
      cases hsession : c.session? with
      | none =>
        rw [Context.run_call_closed hsession]
        refine .tooEarly ?_
        rw [IsOpen, Option.any_some, Context.isOpen, hsession]
        exact Bool.false_ne_true
      | some s =>
        have hc := Context.session?_eq_some_iff.mp hsession
        obtain ⟨answer, s', hrun, hstep⟩ := Context.call_run hexact hc call w
        rw [hrun]
        exact .served ⟨s, s', hc, hstep.precedes, rfl⟩
  | inquire => exact .inquired

namespace Moment.Lawful

variable {m : Moment ι}

/-- The context is left, comes into being, is opened, or goes on. -/
theorem moves (h : m.Lawful waits concludes) : Moves waits m.before m.after := by
  cases h with
  | begun _ hbegins => exact .begins hbegins.1
  | completed _ hconcludes =>
    obtain ⟨hwaits, hopen, -, -⟩ := hconcludes
    obtain ⟨s, hs⟩ := Context.isOpen_iff.mp hopen
    exact .opens hwaits hs
  | served hlater => exact .serves hlater
  | failed | tooEarly | inquired => exact .stays _

/-- A step is a first one, a last one, or failed. -/
theorem stepped (h : m.Lawful waits concludes) {step : Step} (htold : m.told = .stepped step) :
    (step.status = .continueNeeded ∧ step.output ≠ []) ∨
      (step.status = .complete ∧ concludes step.output) ∨
      ∃ status, step = .failure status ∧ m.after = m.before := by
  cases h with
  | begun _ hbegins =>
    cases htold
    exact .inl hbegins.2
  | completed _ hconcludes =>
    cases htold
    exact .inr (.inl hconcludes.2.2)
  | failed status =>
    cases htold
    exact .inr (.inr ⟨status, rfl, rfl⟩)
  | tooEarly | served | inquired => cases htold

/-- A step that asks for an answer sends something. -/
theorem begins (h : m.Lawful waits concludes) {step : Step} (htold : m.told = .stepped step)
    (hstatus : step.status = .continueNeeded) : step.output ≠ [] := by
  rcases h.stepped htold with ⟨-, houtput⟩ | ⟨hlast, -⟩ | ⟨status, rfl, -⟩
  · exact houtput
  · cases hlast.symm.trans hstatus
  · cases hstatus

/-- A step that completes sends what a last step sends. -/
theorem ends (h : m.Lawful waits concludes) {step : Step} (htold : m.told = .stepped step)
    (hstatus : step.status = .complete) : concludes step.output := by
  rcases h.stepped htold with ⟨hfirst, -⟩ | ⟨-, houtput⟩ | ⟨status, rfl, -⟩
  · cases hfirst.symm.trans hstatus
  · exact houtput
  · cases hstatus

/-- A step that fails sends nothing, grants nothing and changes nothing. -/
theorem fails (h : m.Lawful waits concludes) {step : Step} {status : Status}
    (htold : m.told = .stepped step) (hstatus : step.status = .failure status) :
    step.output = [] ∧ step.granted = .empty ∧ m.after = m.before := by
  rcases h.stepped htold with ⟨hfirst, -⟩ | ⟨hlast, -⟩ | ⟨status', rfl, hsame⟩
  · cases hfirst.symm.trans hstatus
  · cases hlast.symm.trans hstatus
  · exact ⟨rfl, rfl, hsame⟩

/-- Before the context is open a message is refused, and nothing changes. -/
theorem early (h : m.Lawful waits concludes) (hclosed : ¬ IsOpen m.before) {call : Call}
    (hask : m.ask = .message call) :
    m.told = .answered (.refused .noContext) ∧ m.after = m.before := by
  cases h with
  | tooEarly => exact ⟨rfl, rfl⟩
  | served hlater =>
    obtain ⟨s, -, hs, -, -⟩ := hlater
    exact absurd (Context.isOpen_iff.mpr ⟨s, hs⟩) hclosed
  | begun | completed | failed | inquired => cases hask

/-- Once the context is open a step fails, and nothing changes. -/
theorem late (h : m.Lawful waits concludes) (hopen : IsOpen m.before) {call : ι}
    (hask : m.ask = .step call) :
    ∃ status, m.told = .stepped (.failure status) ∧ m.after = m.before := by
  cases h with
  | begun => cases hopen
  | completed hclosed => exact absurd (hclosed.symm.trans hopen) Bool.false_ne_true
  | failed status => exact ⟨status, rfl, rfl⟩
  | tooEarly | served | inquired => cases hask

/-- Whatever is asked of an open context, it goes on. -/
theorem continues (h : m.Lawful waits concludes) {c : Context} (hbefore : m.before = some c)
    (hopen : c.isOpen = true) : ∃ c', m.after = some c' ∧ c.Continues c' := by
  cases h with
  | begun => cases hbefore
  | completed hclosed =>
    cases hbefore
    -- a context that was still to be completed is not open
    exact absurd (hclosed.symm.trans hopen) Bool.false_ne_true
  | served hlater =>
    cases hbefore
    exact ⟨_, rfl, hlater⟩
  | failed | tooEarly | inquired => exact ⟨c, hbefore, .refl hopen⟩

theorem inquires (h : m.Lawful waits concludes) (hask : m.ask = .inquire) :
    m.told = .info (m.before.map Context.info) ∧ m.after = m.before := by
  cases h with
  | inquired => exact ⟨rfl, rfl⟩
  | begun | completed | failed | tooEarly | served => cases hask

/-- A step that succeeds is the first of those that were still to come. This is the
invariant for the order of the steps: what remains can be told from the context, and
each moment takes off it what succeeded. -/
theorem remaining (h : m.Lawful waits concludes) :
    Context.remaining m.before = m.success?.toList ++ Context.remaining m.after := by
  unfold Moment.success?
  cases h with
  | begun hclosed hbegins =>
    simp only [hbegins.2.1, Context.remaining, hclosed]
    rfl
  | completed hclosed hconcludes =>
    simp only [hconcludes.2.2.1, Context.remaining, hclosed, hconcludes.2.1]
    rfl
  | served hlater =>
    have hopen : (some _ : Option Context).any Context.isOpen = true := hlater.isOpen
    obtain ⟨s, s', hs, -, rfl⟩ := hlater
    simp only [Context.remaining, Context.isOpen_iff.mpr ⟨s, hs⟩]
    rfl
  | failed | tooEarly | inquired => rfl

end Moment.Lawful

/-! ## A whole life

From moments to lives there are two inductions, both on the requests. One follows what
remains of the steps, and the other an open context, which goes on at each moment. Of
what a moment is they use only that it is one of the six. -/

namespace Side

/-- What holds of every moment holds of the moments of a life. -/
theorem forall_life {P : Moment ι → Prop} (hmoment : ∀ before ask, P (side.moment env before ask))
    (before : Option Context) (asks : List (Ask ι × σ)) : ∀ m ∈ side.life env before asks, P m := by
  induction asks generalizing before with
  | nil =>
    intro m hm
    cases hm
  | cons ask asks ih =>
    intro m hm
    rcases List.mem_cons.mp hm with rfl | hm
    · exact hmoment before ask
    · exact ih _ m hm

variable (hlawful : ∀ before ask, (side.moment env before ask).Lawful waits concludes)

include hlawful

/-- The steps that succeed are an initial part of those that were to come. -/
theorem success_prefix (before : Option Context) (asks : List (Ask ι × σ)) :
    (side.life env before asks).filterMap Moment.success? <+: Context.remaining before := by
  -- each step of the induction takes away from the front what the moment used up
  induction asks generalizing before with
  | nil => exact List.nil_prefix
  | cons ask asks ih =>
    have hremaining := (hlawful before ask).remaining
    rw [moment_before] at hremaining
    rw [life, hremaining, List.filterMap_cons]
    cases (side.moment env before ask).success? with
    | none => exact ih _
    | some status => exact List.cons_prefix_cons.mpr ⟨rfl, ih _⟩

/-- An open context goes on through all that follows. By induction on the asks: at each
moment the context is one that continues, and so it is open at the next one. -/
theorem continues_life {c : Context} (hopen : c.isOpen = true) (asks : List (Ask ι × σ)) :
    ∀ m ∈ side.life env (some c) asks, ∃ c', m.after = some c' ∧ c.Continues c' := by
  -- by induction on what is asked, from any open context: the next one is open again
  induction asks generalizing c with
  | nil =>
    intro m hm
    cases hm
  | cons ask asks ih =>
    intro m hm
    obtain ⟨c', hafter, hlater⟩ := (hlawful (some c) ask).continues (moment_before ..) hopen
    rcases List.mem_cons.mp hm with rfl | hm
    · exact ⟨c', hafter, hlater⟩
    · rw [hafter] at hm
      obtain ⟨c'', hafter', hlater'⟩ := ih hlater.isOpen m hm
      exact ⟨c'', hafter', hlater.trans hlater'⟩

/-- Of any two moments the later one has a context that continues the earlier one's. -/
theorem continues_pairwise (before : Option Context) (asks : List (Ask ι × σ)) :
    (side.life env before asks).Pairwise fun m m' => ∀ c, m.after = some c → c.isOpen = true →
      ∃ c', m'.after = some c' ∧ c.Continues c' := by
  induction asks generalizing before with
  | nil => exact .nil
  | cons ask asks ih =>
    refine .cons ?_ (ih _)
    -- all later moments follow on what the first one left
    intro m' hm' c hafter hopen
    rw [hafter] at hm'
    exact continues_life hlawful hopen asks m' hm'

/-- So a side whose every moment is lawful lives as it should. The clauses on one moment
are the law itself, and those on the order of moments follow by induction on the asks. -/
theorem lives_of_lawful (asks : List (Ask ι × σ)) :
    Lives waits concludes (side.life env none asks) := by
  have hall := forall_life hlawful none asks
  have hcontinues := continues_pairwise hlawful none asks
  refine ⟨fun m hm => (hall m hm).moves, success_prefix hlawful none asks,
    fun m hm _ => (hall m hm).begins, fun m hm _ => (hall m hm).ends,
    fun m hm _ _ => (hall m hm).fails, fun m hm hclosed _ => (hall m hm).early hclosed,
    fun m hm hopen _ => (hall m hm).late hopen, hcontinues, ?_⟩
  refine hcontinues.imp_of_mem ?_
  intro m m' hm hm' hlater hopen hask hask'
  -- inquiries leave the context, so it is before them what it is after them
  obtain ⟨htold, hsame⟩ := (hall m hm).inquires hask
  obtain ⟨htold', hsame'⟩ := (hall m' hm').inquires hask'
  obtain ⟨c, hbefore, hc⟩ := exists_of_isOpen hopen
  obtain ⟨c', hafter', hcontinued⟩ := hlater c (hsame.trans hbefore) hc
  rw [htold, htold', hbefore, ← hsame', hafter', Option.map_some, Option.map_some,
    hcontinued.info]

end Side

end

/-! ## Both sides

The two roles differ in the phase in which they wait and in whether their last step
sends something. Both are known from `Proofs.Psk.Agreement` as sides of two steps; here
only what is promised of the two steps is brought into the general form. -/

/-- A side of two steps, by what its steps are. -/
theorem Side.takesTwo_of_is {side : Side ι σ} {waits : Phase → Prop} {concludes : Bytes → Prop}
    {first : ι → Step → Context → Prop} {last : Context → ι → Step → Context → Prop}
    (hwaits : ∀ {c : Context}, waits c.phase → c.isOpen = false)
    (h : side.TakesTwo first last)
    (hfirst : ∀ {call step c}, first call step c → Begins waits call step c)
    (hlast : ∀ {c call step c'}, last c call step c' → Concludes waits concludes c call step c') :
    side.TakesTwo (Begins waits) (Concludes waits concludes) where
  turn before call := by
    have hturn := h.turn before call
    generalize side.turn before call = t at hturn ⊢
    cases hturn with
    | refused status => exact .refused status
    | first hstep => exact .first (hfirst hstep)
    | last hstep => exact .last (hlast hstep)
  first_waits hbegins := hwaits hbegins.1
  last_waits hconcludes := hwaits hconcludes.1
  last_opens hconcludes := hconcludes.2.1

/-- A step that asks for an answer is the first one, and leaves a context. -/
theorem Side.TakesTwo.of_continueNeeded {side : Side ι σ} {waits : Phase → Prop}
    {concludes : Bytes → Prop} (h : side.TakesTwo (Begins waits) (Concludes waits concludes))
    {before : Option Context} {call : ι × σ}
    (hstatus : (side.turn before call).step.status = .continueNeeded) :
    before = none ∧ ∃ c, (side.turn before call).after = some c := by
  cases before with
  | none =>
    rcases h.turn_none call with ⟨status, hturn⟩ | ⟨step, c, -, hturn⟩
    · rw [hturn] at hstatus
      cases hstatus
    · rw [hturn]
      exact ⟨rfl, c, rfl⟩
  | some c =>
    rcases h.turn_some c call with ⟨status, hturn⟩ | ⟨step, c', hlast, hturn⟩
    · rw [hturn] at hstatus
      cases hstatus
    · rw [hturn] at hstatus
      cases hlast.2.2.1.symm.trans hstatus

/-- The phase of an initiator that said hello. -/
def Initiator.Awaits (phase : Phase) : Prop :=
  ∃ hello nonce requested, phase = .awaitingReply hello nonce requested

/-- The phase of an acceptor that replied. -/
def Acceptor.Awaits (phase : Phase) : Prop :=
  ∃ digest proofKey, phase = .awaitingFinish digest proofKey

/-- An initiator waits for the reply, and finishes by sending something. -/
theorem Initiator.side_begins_concludes (env : Environment (Action ε σ)) (config : Config) :
    (side env config).TakesTwo (Begins Awaits) (Concludes Awaits (· ≠ [])) := by
  refine Side.takesTwo_of_is ?_ (side_takesTwo env config) ?_ ?_
  · rintro c ⟨hello, nonce, requested, hphase⟩
    exact Bool.eq_false_iff.mpr (not_isOpen_of_awaitingReply hphase)
  · rintro call step c ⟨nonce, rfl, rfl⟩
    exact ⟨⟨_, _, _, rfl⟩, rfl, Cbor.writeRecord_ne_nil _⟩
  · rintro c call step c' ⟨hello, nonce, requested, token, reply, now, hphase, -, -, rfl, rfl⟩
    exact ⟨⟨_, _, _, hphase⟩, rfl, rfl, Cbor.writeRecord_ne_nil _⟩

/-- An acceptor waits for the finish, and sends nothing when it has it. -/
theorem Acceptor.side_begins_concludes {env : Environment (Action ε σ)} (hexact : env.Exact)
    (acceptor : Acceptor) :
    (acceptor.side env).TakesTwo (Begins Awaits) (Concludes Awaits (· = [])) := by
  refine Side.takesTwo_of_is ?_ (side_takesTwo hexact acceptor) ?_ ?_
  · rintro c ⟨digest, proofKey, hphase⟩
    exact Bool.eq_false_iff.mpr (not_isOpen_of_awaitingFinish hphase)
  · rintro call step c ⟨hello, nonce, -, -, rfl, rfl⟩
    exact ⟨⟨_, _, rfl⟩, rfl, Cbor.writeRecord_ne_nil _⟩
  · rintro c call step c' ⟨digest, proofKey, now, hphase, rfl, rfl⟩
    exact ⟨⟨_, _, hphase⟩, rfl, rfl, rfl⟩

/-- **The life of an initiator's context.** -/
theorem Initiator.lives {env : Environment (Action ε σ)} (hexact : env.Exact) (config : Config)
    (asks : List (Ask InitCall × σ)) :
    Lives Awaits (· ≠ []) ((side env config).life env none asks) :=
  Side.lives_of_lawful ((side_begins_concludes env config).moment_lawful hexact) asks

/-- The life of an acceptor's context: nothing is sent with its last step. -/
theorem Acceptor.lives {env : Environment (Action ε σ)} (hexact : env.Exact)
    (acceptor : Acceptor) (asks : List (Ask Bytes × σ)) :
    Lives Awaits (· = []) ((acceptor.side env).life env none asks) :=
  Side.lives_of_lawful ((side_begins_concludes hexact acceptor).moment_lawful hexact) asks

end GssContext.Psk
