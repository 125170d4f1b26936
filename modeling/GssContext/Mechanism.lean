/-
What a security mechanism offers.

A mechanism imports names, produces and consumes the tokens that establish a
context, and protects messages under one. The engine that negotiates and the
session on top of it see only this interface, with a type `ν` for imported
names and a type `κ` for contexts that only the mechanism looks into.

Establishing is a sequence of steps. A step may create the context, change it,
or leave it absent; it hands back the token to send, if there is one, and says
whether the other side has to answer.
-/
import GssContext.Duration
import GssContext.Flags
import GssContext.Oid.Dotted
import GssContext.Status

set_option autoImplicit false

namespace GssContext

/-! ## Steps

A step has three results: where it leaves the negotiation, a token that may be
empty, and the flags. The engine looks at nothing else of what a mechanism does. -/

/-- Where a step leaves the negotiation. -/
inductive StepStatus where
  | complete
  /-- The other side has to send a token. -/
  | continueNeeded
  | failure (status : Status)
  deriving DecidableEq

def StepStatus.debug : StepStatus → String
  | complete => "Complete"
  | continueNeeded => "ContinueNeeded"
  | failure status => "Failure(" ++ status.debug ++ ")"

structure Step where
  status : StepStatus
  /-- The token to send; without bytes there is none. -/
  output : Bytes
  /-- What the context can do. -/
  granted : Flags
  deriving DecidableEq

/-- A step that failed sends and grants nothing. -/
def Step.failure (status : Status) : Step := ⟨.failure status, [], .empty⟩

/-! ## Messages and contexts

What goes in and out of a mechanism beside its tokens. -/

structure Wrapped where
  token : Bytes
  confidential : Bool
  deriving DecidableEq

/-- A message taken out of its protection. -/
structure Unwrapped where
  message : Bytes
  confidential : Bool
  deriving DecidableEq

/-- What a mechanism tells about a context. -/
structure ContextInfo where
  initiator : String
  acceptor : String
  mechanism : Oid
  flags : Flags
  /-- When the context ends, if it ever does. -/
  expiresAt : Option Instant
  locallyInitiated : Bool
  isOpen : Bool
  deriving DecidableEq

/-! ## The interface

Operations that may change a context take it and give it back. An operation that
fails gives a context back too, so whoever calls has one to hold on to whatever
comes of the call. -/

structure Mechanism (m : Type → Type) (ν κ : Type) where
  /-- The written form of a name. -/
  nameText : ν → String
  importName : String → m (Except Status ν)
  /-- One step: the context so far, the name of the acceptor, the identifier of
  the mechanism if one is asked for, the requested flags, and the token that
  came in. -/
  initStep : Option κ → ν → Option Oid → Flags → Option Bytes → m (Step × Option κ)
  wrap : κ → Bytes → Bool → m (Except Status Wrapped × κ)
  verifyMic : κ → Bytes → Bytes → m (Except Status Unit × κ)
  inquire : κ → m (Except Status ContextInfo)
  namesFor : Oid → m (Except Status (List Oid))
  release : κ → m Unit

def Mechanism.hoist {m n : Type → Type} {ν κ : Type} (lift : {α : Type} → m α → n α)
    (mechanism : Mechanism m ν κ) : Mechanism n ν κ where
  nameText := mechanism.nameText
  importName name := lift (mechanism.importName name)
  initStep context target wanted flags input :=
    lift (mechanism.initStep context target wanted flags input)
  wrap context message confidential := lift (mechanism.wrap context message confidential)
  verifyMic context message token := lift (mechanism.verifyMic context message token)
  inquire context := lift (mechanism.inquire context)
  namesFor wanted := lift (mechanism.namesFor wanted)
  release context := lift (mechanism.release context)

end GssContext
