/-
Names of services.

A service is named alone, or with the host it runs on after an at sign. A name
without a host stands for the service on any host, so it matches more names
than it equals. Hosts are compared without regard to the case of ASCII
letters, which is why reading a name lowers them; the service part keeps its
case.
-/
import GssContext.Status
import GssContext.Text.Blank

set_option autoImplicit false

namespace GssContext

/-- A service, on one host or on any. -/
structure ServiceName where
  service : String
  host : Option String
  deriving DecidableEq

namespace ServiceName

/-- Lower the ASCII letters of a text. -/
def lowered (text : List Char) : String := String.ofList (text.map Char.toLower)

/-- Read a name. Blanks, empty parts and a second at sign are refused. -/
def parse? (text : String) : Option ServiceName :=
  let chars := text.toList
  if chars.any Text.isBlank then none
  else
    match chars.span (· ≠ '@') with
    | ([], _) => none
    | (service, []) => some ⟨String.ofList service, none⟩
    | (service, _ :: host) =>
      if host = [] ∨ '@' ∈ host then none
      else some ⟨String.ofList service, some (lowered host)⟩

/-- Read a name, answering a bad one with its status. -/
def parse (text : String) : Except Status ServiceName :=
  match parse? text with
  | some name => .ok name
  | none => .error ⟨.badName, 0⟩

/-- The written form of a name. -/
def text (name : ServiceName) : String :=
  match name.host with
  | some host => name.service ++ "@" ++ host
  | none => name.service

/-- Does `other` name this service? Any host will do for a name without one. -/
def accepts (name other : ServiceName) : Bool :=
  name.service == other.service &&
    match name.host with
    | some host => other.host == some host
    | none => true

@[simp] theorem accepts_self (name : ServiceName) : name.accepts name = true := by
  unfold accepts
  split <;> simp_all

end ServiceName

end GssContext
