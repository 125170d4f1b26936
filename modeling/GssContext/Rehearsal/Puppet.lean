/-
A mechanism whose every answer is laid down in advance, and that records every
call with its arguments.

Where a script is a plausible mechanism, a puppet need not be one: it may lose
the context in the middle, make none, or answer a message with the status of
another operation. Its context is a number that counts the steps which kept it.
-/
import GssContext.Rehearsal.Scripted

set_option autoImplicit false

namespace GssContext.Rehearsal

/-- What a puppet's step does to the context. -/
inductive Grip where
  /-- Count the step, from zero if there was no context. -/
  | keep
  | leave
  | drop
  deriving DecidableEq

structure PuppetStep where
  step : Step
  grip : Grip := .keep
  deriving DecidableEq

inductive Call where
  | importName (name : String)
  | initStep (target : String) (wanted : Option Oid) (flags : Flags) (input : Option Bytes)
      (context : Option Nat)
  | wrap (message : Bytes) (confidential : Bool) (context : Nat)
  | verifyMic (message token : Bytes) (context : Nat)
  | inquire (context : Nat)
  | namesFor (wanted : Oid)
  | release (context : Nat)
  deriving DecidableEq

/-- The answers that are laid down, and the calls so far, the last one first. -/
structure Puppet where
  importFault : Option Status := none
  steps : List PuppetStep := []
  wraps : List (Except Status Wrapped) := []
  verdicts : List (Option Status) := []
  inquiry : Except Status ContextInfo := .error ⟨.unavailable, 0⟩
  names : Except Status (List Oid) := .ok []
  calls : List Call := []

namespace Puppet

def record (call : Call) : Action Event Puppet Unit :=
  Action.update fun p => { p with calls := call :: p.calls }

def held (context : Option Nat) : Grip → Option Nat
  | .keep => some (context.getD 0 + 1)
  | .leave => context
  | .drop => none

def takeStep (p : Puppet) : Option PuppetStep × Puppet :=
  match p.steps with
  | [] => (none, p)
  | s :: rest => (some s, { p with steps := rest })

/-- Take the next answer about a message; without one it is the letter W and
the message. -/
def takeWrap (message : Bytes) (confidential : Bool) (p : Puppet) :
    Except Status Wrapped × Puppet :=
  match p.wraps with
  | [] => (.ok ⟨Bytes.ofAscii "W" ++ message, confidential⟩, p)
  | w :: rest => (w, { p with wraps := rest })

/-- Take the next verdict about a signature; without one it is good. -/
def takeVerdict (p : Puppet) : Except Status Unit × Puppet :=
  match p.verdicts with
  | [] => (.ok (), p)
  | some status :: rest => (.error status, { p with verdicts := rest })
  | none :: rest => (.ok (), { p with verdicts := rest })

/-- One step. One that is not laid down fails and leaves no event. -/
def initStep (context : Option Nat) (target : String) (wanted : Option Oid) (flags : Flags)
    (input : Option Bytes) : Action Event Puppet (Step × Option Nat) := do
  record (.initStep target wanted flags input context)
  match ← Action.step takeStep with
  | none => return (.failure ⟨.failure, 0⟩, context)
  | some laid =>
    Action.emit (.step laid.step.status laid.step.output)
    return (laid.step, held context laid.grip)

def mechanism : Mechanism (Action Event Puppet) String Nat where
  nameText name := name
  importName name := do
    record (.importName name)
    match (← Action.state).importFault with
    | some status => return .error status
    | none => return .ok name
  initStep := initStep
  wrap context message confidential := do
    record (.wrap message confidential context)
    Action.emit .wrap
    return (← Action.step (takeWrap message confidential), context)
  verifyMic context message token := do
    record (.verifyMic message token context)
    Action.emit .verifyMic
    return (← Action.step takeVerdict, context)
  inquire context := do
    record (.inquire context)
    return (← Action.state).inquiry
  namesFor wanted := do
    record (.namesFor wanted)
    return (← Action.state).names
  release context := do
    record (.release context)
    Action.emit .release

end Puppet

end GssContext.Rehearsal
