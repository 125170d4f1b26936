/-
A bench with several sides of the pre-shared-key mechanism.

Every side has a clock and randomness of its own. The clocks are started one
shortly after the other, and moments are told from the start of one's own.
Contexts lie in slots beside the sides, and any side may take up the context of
any slot, also one that was made for another side: what it does then is for the
mechanism to say.
-/
import GssContext.Psk.Acceptor
import GssContext.Psk.Initiator
import GssContext.Rehearsal.Exercise

set_option autoImplicit false

namespace GssContext.Rehearsal

inductive Role where
  | initiator (config : Psk.Config)
  | acceptor (acceptor : Psk.Acceptor)

structure Party where
  role : Role
  env : Simulated

/-- What a side has before it when it does an exercise. -/
structure Desk where
  env : Simulated
  context : Option Psk.Context

namespace Desk

variable {ε : Type}

def environment : Environment (Action ε Desk) :=
  Simulated.environment.hoist (Action.onPart env fun d env => { d with env })

/-- Put a context on the desk, or take it off. -/
def place (context : Option Psk.Context) : Action ε Desk Unit :=
  Action.update fun d => { d with context }

def step (operation : Option Psk.Context → Action ε Desk (Step × Option Psk.Context)) :
    Action ε Desk Finding := do
  let (step, context) ← operation (← Action.state).context
  place context
  return .step step

/-- Do something with the context, if there is one. -/
def onContext (operation : Psk.Context → Action ε Desk Finding) : Action ε Desk Finding := do
  match (← Action.state).context with
  | none => return .noContext
  | some context => operation context

/-- Do something with the context that may change it. -/
def onMessage {α : Type} (found : α → Finding)
    (operation : Psk.Context → Action ε Desk (Except Status α × Psk.Context)) :
    Action ε Desk Finding :=
  onContext fun context => do
    let (result, context) ← operation context
    place (some context)
    return .ofStatus found result

/-- The same for an operation that depends on the time. -/
def onTime {α : Type} (found : α → Finding)
    (operation : Psk.Context → Instant → Except Psk.Refusal (α × Psk.Context)) :
    Action ε Desk Finding :=
  onMessage found fun context => do
    let (result, context) ← context.timed environment (operation context)
    return (result.mapError Psk.Refusal.status, context)

/-! ## What each side does -/

def initiate (config : Psk.Config) : Exercise → Action ε Desk Finding
  | .initStep target wanted flags input =>
    match ServiceName.parse target with
    | .error status => return .refused status
    | .ok name => step fun context =>
      Psk.Initiator.initStep environment config context name wanted flags input
  | .wrap message confidential =>
    onMessage .wrapped fun context =>
      (Psk.Initiator.mechanism environment config).wrap context message confidential
  | .verifyMic message token =>
    onTime (fun _ => .verified) fun context now => context.verifyMic now message token
  | .namesFor wanted =>
    return .ofStatus .names ((Psk.Initiator.namesFor wanted).mapError Psk.Refusal.status)
  | .importName name => return .ofStatus .name (ServiceName.parse name)
  | .showConfig => return .config config
  | .release => onContext fun context => do
    (Psk.Initiator.mechanism environment config).release context
    place none
    return .released
  | _ => return .notOffered

def accept (acceptor : Psk.Acceptor) : Exercise → Action ε Desk Finding
  | .acceptStep input => step fun context => acceptor.acceptStep environment context input
  | .getMic message => onTime .token fun context now => context.getMic now message
  | .showName => return .text acceptor.name.text
  | _ => return .notOffered

def contextDebug : Option Psk.Context → String
  | none => "None"
  | some context => "Some(" ++ context.debug ++ ")"

/-- What a side does: what both do, and what only one of them does. -/
def perform (role : Role) (exercise : Exercise) : Action ε Desk Finding := do
  match exercise with
  | .unwrap token => onTime .unwrapped fun context now => context.unwrap now token
  | .inquire => onContext fun context => do
    let start := (← Action.state).env.started
    let ends := context.info.expiresAt.map fun t => (⟨t.sinceOrZero start⟩ : Instant)
    return .info { context.info with expiresAt := ends }
  | .advance span =>
    Action.update fun d => { d with env := d.env.advance span }
    return .elapsed (← Action.state).env.elapsed
  | .showContext => return .text (contextDebug (← Action.state).context)
  | .drop =>
    place none
    return .nothing
  | other =>
    match role with
    | .initiator config => initiate config other
    | .acceptor acceptor => accept acceptor other

end Desk

/-! ## The bench -/

structure Bench where
  parties : Shelf Party
  slots : Shelf Psk.Context := []

/-- A side and the slot that it takes up. -/
structure Seat where
  who : String
  slot : String

namespace Bench

variable {ε : Type}

/-- A bench with empty slots. The clocks are started in the order of the sides. -/
def ofParties (parties : Shelf Party) : Bench where
  parties := parties.mapIdx fun i (name, party) =>
    (name, { party with env := { party.env with started := ⟨⟨i⟩⟩ } })

/-- Let a side do an exercise with the context of a slot, and show the slot
after it. -/
def perform (seat : Seat) (exercise : Exercise) (_ : Unit) :
    Action ε Bench (Finding × Option Psk.Context × Unit) := fun bench =>
  match bench.parties.lookup seat.who with
  | none => ⟨(.notOffered, none, ()), bench, []⟩
  | some party =>
    let o := Desk.perform party.role exercise ⟨party.env, bench.slots.lookup seat.slot⟩
    let after : Bench := {
      parties := bench.parties.put seat.who (some { party with env := o.state.env })
      slots := bench.slots.put seat.slot o.state.context }
    ⟨(o.value, o.state.context, ()), after, o.entries⟩

def run (turns : List (Turn Seat)) (bench : Bench) :
    Outcome ε Bench (List (Finding × Option Psk.Context)) :=
  let all : Action ε Bench (List (Finding × Option Psk.Context) × Unit) :=
    series perform turns [] ()
  let o := all bench
  ⟨o.value.1, o.state, o.entries⟩

end Bench

end GssContext.Rehearsal
