/-
The life of a security context.

A context does not exist until the mechanism makes one; it is negotiated, it is
established, and in the end it is closed. The mechanism's context is held here
for the whole of that time and is given back exactly once: closing takes it
out, so closing again finds nothing to give back.
-/
import GssContext.Journal
import GssContext.Mechanism

set_option autoImplicit false

namespace GssContext

/-- Where a context is in its life. -/
inductive ContextState where
  | notCreated
  | negotiating
  | established
  | closed
  deriving DecidableEq

namespace ContextState

def all : List ContextState := [notCreated, negotiating, established, closed]

def text : ContextState → String
  | notCreated => "not created"
  | negotiating => "negotiating"
  | established => "open"
  | closed => "closed"

def name : ContextState → String
  | notCreated => "NotCreated"
  | negotiating => "Negotiating"
  | established => "Open"
  | closed => "Closed"

end ContextState

/-- A context as the engine holds it. -/
structure SecurityContext (κ : Type) where
  /-- The mechanism's context, from the step that makes it until it is released. -/
  handle : Option κ
  state : ContextState
  granted : Flags
  deriving DecidableEq

namespace SecurityContext

variable {m : Type → Type} [Monad m] [Journal m] {ν κ : Type}

def source : String := "tokenseal_core::context"

def new : SecurityContext κ := ⟨none, .notCreated, .empty⟩

def isOpen (ctx : SecurityContext κ) : Bool := ctx.state == .established

/-- The context after a step left `handle` with it. -/
def stepped (ctx : SecurityContext κ) (handle : Option κ) : SecurityContext κ :=
  { ctx with
    handle
    state := if handle.isSome && ctx.state == .notCreated then .negotiating else ctx.state }

/-- The context once its last step is complete. -/
def opened (ctx : SecurityContext κ) (granted : Flags) : SecurityContext κ :=
  { ctx with state := .established, granted }

/-- Take one step. Whatever the step says, what it left is held afterwards, and the
context is negotiated from the first step on that left something. Only the engine
marks a context as established, after the last token is sent. -/
def initStep (ctx : SecurityContext κ) (mechanism : Mechanism m ν κ) (target : ν)
    (wanted : Option Oid) (flags : Flags) (input : Option Bytes) :
    m (Step × SecurityContext κ) := do
  let (step, handle) ← mechanism.initStep ctx.handle target wanted flags input
  return (step, ctx.stepped handle)

def inquire (ctx : SecurityContext κ) (mechanism : Mechanism m ν κ) :
    m (Except Status ContextInfo) :=
  match ctx.handle with
  | some handle => mechanism.inquire handle
  | none => pure (.error ⟨.noContext, 0⟩)

/-- Close the context and give the mechanism's context back, if it is there. -/
def release (ctx : SecurityContext κ) (mechanism : Mechanism m ν κ) : m (SecurityContext κ) := do
  if let some handle := ctx.handle then
    mechanism.release handle
    note ⟨.debug, source, "security context released", [("state", ctx.state.text)]⟩
  return { ctx with handle := none, state := .closed }

def debug (ctx : SecurityContext κ) : String :=
  "SecurityContext \x7b state: " ++ ctx.state.name ++ ", granted: " ++ ctx.granted.debug ++
  ", has_handle: " ++ toString ctx.handle.isSome ++ ", .. \x7d"

end SecurityContext

end GssContext
