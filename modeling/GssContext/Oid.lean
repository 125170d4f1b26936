/-
Object identifiers.

A mechanism or a kind of name is identified by a path of numbers. The first
number is 0, 1 or 2, and below the first two the second number is less than
forty; a path that breaks this rule names nothing, and the constructor for
paths from outside refuses it. A path that arrives inside a message is kept as
it is, whatever it is, and only compared.

This module holds the identifiers and the ones that have a name; their written
forms are in `Oid.Dotted` and `Oid.Der`.
-/
import GssContext.Text.Quoted

set_option autoImplicit false

namespace GssContext

/-- A path of numbers. -/
structure Oid where
  arcs : List UInt32
  deriving DecidableEq

namespace Oid

/-! ## Well-known identifiers

These have a name, which is shown for them. All others are paths like any. -/

def kerberos : Oid := ⟨[1, 2, 840, 113554, 1, 2, 2]⟩
def spnego : Oid := ⟨[1, 3, 6, 1, 5, 5, 2]⟩
def ntlm : Oid := ⟨[1, 3, 6, 1, 4, 1, 311, 2, 2, 10]⟩

/-- The mechanism with a pre-shared key. -/
def psk : Oid := ⟨[1, 3, 6, 1, 3, 7, 1]⟩

/-- Names of the form `service@host`. -/
def hostBasedService : Oid := ⟨[1, 2, 840, 113554, 1, 2, 1, 4]⟩

def userName : Oid := ⟨[1, 2, 840, 113554, 1, 2, 1, 1]⟩
def exportName : Oid := ⟨[1, 3, 6, 1, 5, 6, 4]⟩
def anonymous : Oid := ⟨[1, 3, 6, 1, 5, 6, 3]⟩

def wellKnown : List (Oid × String) := [
  (kerberos, "kerberos_v5"),
  (spnego, "spnego"),
  (ntlm, "ntlmssp"),
  (psk, "tokenseal-psk"),
  (hostBasedService, "GSS_NT_HOSTBASED_SERVICE"),
  (userName, "GSS_NT_USER_NAME"),
  (exportName, "GSS_NT_EXPORT_NAME"),
  (anonymous, "GSS_NT_ANONYMOUS")]

def name? (oid : Oid) : Option String := wellKnown.lookup oid

/-! ## Paths from outside

What is read or built from numbers has to keep the rule for the first two of them.
A path that comes off the wire is not asked for it. -/

inductive Error where
  /-- A field of a dotted text is no number of thirty-two bits. -/
  | nonNumeric (field : String)
  /-- There are fewer than two numbers, or the first two break the rule. -/
  | invalidRoot
  /-- The bytes end inside a number. -/
  | truncated
  /-- A number does not fit in thirty-two bits. -/
  | overflow
  deriving DecidableEq

def Error.message : Error → String
  | nonNumeric field => "non-number in OID: " ++ Text.quoted field
  | invalidRoot => "invalid OID root arcs"
  | truncated => "truncated DER OID"
  | overflow => "OID arc overflows u32"

/-- What two steps come to is what the second makes of the first. -/
theorem bind_eq_ok_iff {α β : Type} {first : Except Error α} {second : α → Except Error β} {b : β} :
    (first >>= second) = .ok b ↔ ∃ a, first = .ok a ∧ second a = .ok b := by
  constructor
  · intro h
    cases first with
    | error cause => cases h
    | ok a => exact ⟨a, rfl, h⟩
  · rintro ⟨a, rfl, h⟩
    exact h

/-- Do the first two numbers keep the rule? -/
def validRoot : List UInt32 → Bool
  | a :: b :: _ => if a = 0 ∨ a = 1 then b < 40 else a = 2
  | _ => false

/-- The identifier of a path that keeps the rule. -/
def ofArcs (arcs : List UInt32) : Except Error Oid :=
  if validRoot arcs then .ok ⟨arcs⟩ else .error .invalidRoot

theorem ofArcs_eq_ok_iff {arcs : List UInt32} {oid : Oid} :
    ofArcs arcs = .ok oid ↔ validRoot arcs = true ∧ oid = ⟨arcs⟩ := by
  unfold ofArcs
  by_cases h : validRoot arcs = true
  · rw [if_pos h]
    exact ⟨fun e => ⟨h, (Except.ok.inj e).symm⟩, fun e => by rw [e.2]⟩
  · rw [if_neg h]
    exact ⟨fun e => (nomatch e), fun e => absurd e.1 h⟩

end Oid

end GssContext
