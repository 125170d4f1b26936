/-
Exercises: single operations done in a series, with what was found after each.

The same operations can be asked of one side of a mechanism, of a script, of a
link or of an established context, and each does those that make sense for it.
A token that one exercise yields can be kept under a name, and a later one can
use it, so an exercise is written as what it is once the kept tokens are known.
-/
import GssContext.Protection
import GssContext.Psk.Config
import GssContext.ServiceName
import GssContext.Token

set_option autoImplicit false

namespace GssContext.Rehearsal

/-! ## Operations and findings -/

inductive Exercise where
  | initStep (target : String) (wanted : Option Oid) (flags : Flags) (input : Option Bytes)
  | acceptStep (input : Bytes)
  | wrap (message : Bytes) (confidential : Bool)
  | unwrap (token : Bytes)
  | getMic (message : Bytes)
  | verifyMic (message token : Bytes)
  | inquire
  | namesFor (wanted : Oid)
  | importName (name : String)
  | send (token : Bytes)
  | receive
  | showConfig
  | showName
  | showContext
  | advance (span : Duration)
  | release
  | drop
  | unknown

inductive Finding where
  | step (step : Step)
  | wrapped (wrapped : Wrapped)
  | unwrapped (unwrapped : Unwrapped)
  | token (token : Bytes)
  | verified
  | info (info : ContextInfo)
  | names (names : List Oid)
  | name (name : ServiceName)
  | config (config : Psk.Config)
  | text (text : String)
  | elapsed (span : Duration)
  | sent
  | released
  | nothing
  | refused (status : Status)
  | unprotected (error : ProtectionError)
  | notCarried (error : TransportError)
  /-- The operation needs a context, and there is none. -/
  | noContext
  /-- Whoever was asked has no such operation. -/
  | notOffered

namespace Finding

/-- The finding of an operation that may be refused. -/
def ofStatus {α : Type} (found : α → Finding) : Except Status α → Finding
  | .ok a => found a
  | .error status => refused status

/-- The finding of an operation on a transport. -/
def ofTransport {α : Type} (found : α → Finding) : Except TransportError α → Finding
  | .ok a => found a
  | .error e => notCarried e

/-- The finding of an operation under a context. -/
def ofProtection {α : Type} (found : α → Finding) : Except ProtectionError α → Finding
  | .ok a => found a
  | .error e => unprotected e

def token? : Finding → Option Bytes
  | step s => some s.output
  | wrapped w => some w.token
  | token t => some t
  | _ => none

end Finding

/-! ## Things kept by name -/

/-- Values under names. -/
abbrev Shelf (α : Type) := List (String × α)

namespace Shelf

variable {α : Type}

/-- Put a value under a name, in place of the one that was there; without a
value, clear the name. -/
def put (name : String) (value : Option α) (shelf : Shelf α) : Shelf α :=
  let others := shelf.filter fun entry => entry.1 != name
  match value with
  | some v => (name, v) :: others
  | none => others

end Shelf

/-! ## Series -/

structure Turn (ι : Type) where
  at_ : ι
  /-- What is done, once the kept tokens are known. -/
  exercise : Shelf Bytes → Exercise
  /-- The name under which the token is kept. -/
  keepAs : Option String := none

def kept (keepAs : Option String) (finding : Finding) (shelf : Shelf Bytes) : Shelf Bytes :=
  match keepAs, finding.token? with
  | some name, some token => shelf.put name (some token)
  | _, _ => shelf

/-- Do exercises one after the other, and say after each what was found and
what there was to be seen then. -/
def series {m : Type → Type} [Monad m] {ι κ ω : Type}
    (perform : ι → Exercise → κ → m (Finding × ω × κ)) :
    List (Turn ι) → Shelf Bytes → κ → m (List (Finding × ω) × κ)
  | [], _, s => pure ([], s)
  | turn :: rest, shelf, s => do
    let (finding, seen, s) ← perform turn.at_ (turn.exercise shelf) s
    let (later, s) ← series perform rest (kept turn.keepAs finding shelf) s
    return ((finding, seen) :: later, s)

end GssContext.Rehearsal
