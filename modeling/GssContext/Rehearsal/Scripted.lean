/-
A mechanism that follows a script.

Its steps are laid down in advance, and its protection is transparent: a
wrapped message is the message after four letters and one byte that says
whether it counts as confidential, and a signature is the message after four
letters. Protocols can be rehearsed with it without any key.
-/
import GssContext.Journal
import GssContext.Mechanism

set_option autoImplicit false

namespace GssContext.Rehearsal

/-! ## Events

Simulated parts record what they were asked to do. The events of a run stand in
one sequence, so that it shows which of two happened first. -/

/-- One thing that a simulated part was asked to do. -/
inductive Event where
  | step (status : StepStatus) (output : Bytes)
  | sent (token : Bytes)
  | received (token : Bytes)
  | wrap
  | verifyMic
  | release
  | closed
  deriving DecidableEq

/-! ## Transparent tokens -/

def wrapHead : Bytes := Bytes.ofAscii "wrap"

def signatureHead : Bytes := Bytes.ofAscii "mic:"

/-- A message as a token that shows it. -/
def transparentWrap (message : Bytes) (confidential : Bool) : Bytes :=
  wrapHead ++ [if confidential then 1 else 0] ++ message

def transparentSignature (message : Bytes) : Bytes := signatureHead ++ message

/-- The message in a token that shows it. -/
def transparentUnwrap? (token : Bytes) : Option Unwrapped :=
  if token.take wrapHead.length = wrapHead then
    match token.drop wrapHead.length with
    | confidential :: message => some ⟨message, confidential == 1⟩
    | [] => none
  else none

/-! ## Scripts -/

/-- What one step of a script does. -/
inductive ScriptStep where
  /-- Send a token and wait for one. -/
  | proceed (output : Bytes)
  /-- Send a token, or nothing, and be established. -/
  | complete (output : Bytes) (granted : Flags)
  | fail (status : Status)
  deriving DecidableEq

/-- A script and what follows its end. -/
structure Scripted where
  script : List ScriptStep
  /-- A step to repeat once the script is used up; without it every further
  step fails. -/
  forever : Option ScriptStep := none
  confidentiality : Bool := true
  deriving DecidableEq

namespace Scripted

structure Context where
  rounds : Nat := 0
  /-- The tokens that came in, the last one first. -/
  heard : List Bytes := []
  granted : Flags := .empty
  isOpen : Bool := false
  deriving DecidableEq

/-- The failure of a script that is used up. -/
def usedUp : Status := ⟨.failure, 0xffffffff⟩

/-- The next step, and the script after it. -/
def next (s : Scripted) : ScriptStep × Scripted :=
  match s.script with
  | step :: rest => (step, { s with script := rest })
  | [] => (s.forever.getD (.fail usedUp), s)

/-- The tokens that came in, in their order. -/
def Context.inputs (c : Context) : List Bytes := c.heard.reverse

/-- A context after a token came in, or none did. -/
def Context.fed (c : Context) (input : Option Bytes) : Context :=
  { c with rounds := c.rounds + 1, heard := input.toList ++ c.heard }

/-- What a script's step does to a context. -/
def play (c : Context) : ScriptStep → Step × Context
  | .proceed output => (⟨.continueNeeded, output, .empty⟩, c)
  | .complete output granted =>
    (⟨.complete, output, granted⟩, { c with granted, isOpen := true })
  | .fail status => (.failure status, c)

/-- What a scripted mechanism tells about a context. -/
def Context.info (c : Context) : ContextInfo where
  initiator := "scripted-initiator"
  acceptor := "scripted-acceptor"
  mechanism := .psk
  flags := c.granted
  expiresAt := none
  locallyInitiated := true
  isOpen := c.isOpen

/-- One step. The context comes into being with the first one. -/
def initStep (context : Option Context) (input : Option Bytes) :
    Action Event Scripted (Step × Option Context) := do
  let scripted ← Action.step next
  let (step, context) := play ((context.getD {}).fed input) scripted
  Action.emit (.step step.status step.output)
  return (step, some context)

def wrap (message : Bytes) (confidential : Bool) : Action Event Scripted Wrapped := do
  Action.emit .wrap
  let confidential := confidential && (← Action.state).confidentiality
  return ⟨transparentWrap message confidential, confidential⟩

def mechanism : Mechanism (Action Event Scripted) String Context where
  nameText name := name
  importName name := pure (if name = "" then .error ⟨.badName, 0⟩ else .ok name)
  initStep context _ _ _ input := initStep context input
  wrap context message confidential := do return (.ok (← wrap message confidential), context)
  verifyMic context message token := do
    Action.emit .verifyMic
    return (if token = transparentSignature message then .ok () else .error ⟨.badMic, 0⟩, context)
  inquire context := pure (.ok context.info)
  namesFor _ := pure (.ok [.hostBasedService])
  release _ := Action.emit .release

end Scripted

end GssContext.Rehearsal
