/-
Protecting messages under an established context.

Only an established context protects anything; in any other state the
mechanism is not asked. What the mechanism says about a signature is told
apart by its status: that the token failed validation, or that something else
is wrong, such as the context having expired.
-/
import GssContext.SecurityContext

set_option autoImplicit false

namespace GssContext

/-- Why a message was not protected or not verified. -/
inductive ProtectionError where
  /-- The mechanism refused. -/
  | rejected (status : Status)
  /-- The signature's token failed validation. -/
  | integrityFailed (status : Status)
  /-- The context is in another state than established. -/
  | contextNotOpen (state : ContextState)
  deriving DecidableEq

namespace ProtectionError

def message : ProtectionError → String
  | rejected status => "message protection failed: " ++ status.text
  | integrityFailed status => "verifying signature: " ++ status.text
  | contextNotOpen state => s!"context is {state.text}, not open"

/-- The mechanism's status, if it is the cause. -/
def status? : ProtectionError → Option Status
  | rejected status | integrityFailed status => some status
  | contextNotOpen _ => none

/-- The cause that a status of verifying amounts to. -/
def ofVerifying (status : Status) : ProtectionError :=
  if status.major.isIntegrityFailure then integrityFailed status else rejected status

end ProtectionError

namespace SecurityContext

variable {m : Type → Type} [Monad m] [Journal m] {ν κ : Type}

def messageSource : String := "tokenseal_core::protector"

/-- The mechanism's context of an established context. -/
def openHandle (ctx : SecurityContext κ) : Except ProtectionError κ :=
  match ctx.isOpen, ctx.handle with
  | true, some handle => .ok handle
  | _, _ => .error (.contextNotOpen ctx.state)

def protect (ctx : SecurityContext κ) (mechanism : Mechanism m ν κ) (message : Bytes)
    (confidential : Bool) : m (Except ProtectionError Wrapped × SecurityContext κ) := do
  match ctx.openHandle with
  | .error e => return (.error e, ctx)
  | .ok handle =>
    let (result, handle) ← mechanism.wrap handle message confidential
    let ctx := { ctx with handle := some handle }
    match result with
    | .error status => return (.error (.rejected status), ctx)
    | .ok wrapped =>
      if confidential && !wrapped.confidential then
        note ⟨.warn, messageSource, "message not encrypted", []⟩
      note ⟨.debug, messageSource, "message protected",
        [("plaintext_len", toString message.length),
          ("token_len", toString wrapped.token.length),
          ("confidential", toString wrapped.confidential)]⟩
      return (.ok wrapped, ctx)

/-- Verify a signature over a message. A refusal is told apart by its status alone, so
the mechanism decides whether the token is to blame. -/
def verify (ctx : SecurityContext κ) (mechanism : Mechanism m ν κ) (message token : Bytes) :
    m (Except ProtectionError Unit × SecurityContext κ) := do
  match ctx.openHandle with
  | .error e => return (.error e, ctx)
  | .ok handle =>
    let (result, handle) ← mechanism.verifyMic handle message token
    let ctx := { ctx with handle := some handle }
    match result with
    | .error status => return (.error (.ofVerifying status), ctx)
    | .ok () =>
      note ⟨.debug, messageSource, "signature verified",
        [("plaintext_len", toString message.length)]⟩
      return (.ok (), ctx)

end SecurityContext

end GssContext
