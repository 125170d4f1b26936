/-
What a security context can do.

The capabilities that are asked for and those that are granted travel as one
word of thirty-two bits, of which nine have a meaning. The other bits are kept
as they come: they count when two sets are compared, and only the display
leaves them out.
-/
import GssContext.Bytes.Hex

set_option autoImplicit false

namespace GssContext

/-! ## Capabilities

Nine bits have a meaning. Their numbers are those of the wire. -/

inductive Capability where
  /-- Credentials are delegated to the acceptor. -/
  | delegation
  /-- The acceptor authenticates itself too. -/
  | mutuality
  /-- Replayed messages are detected. -/
  | replay
  /-- Messages out of order are detected. -/
  | sequence
  /-- Messages can be made confidential. -/
  | confidentiality
  /-- Messages can be given integrity. -/
  | integrity
  /-- The initiator stays anonymous. -/
  | anonymity
  /-- Messages can be protected before the context is complete. -/
  | protReady
  /-- The context can be transferred. -/
  | transfer
  deriving DecidableEq

namespace Capability

/-- All of them, lowest bit first. -/
def all : List Capability :=
  [delegation, mutuality, replay, sequence, confidentiality, integrity, anonymity, protReady,
    transfer]

def bit : Capability → UInt32
  | delegation => 0x001
  | mutuality => 0x002
  | replay => 0x004
  | sequence => 0x008
  | confidentiality => 0x010
  | integrity => 0x020
  | anonymity => 0x040
  | protReady => 0x080
  | transfer => 0x100

def label : Capability → String
  | delegation => "deleg"
  | mutuality => "mutual"
  | replay => "replay"
  | sequence => "sequence"
  | confidentiality => "conf"
  | integrity => "integ"
  | anonymity => "anon"
  | protReady => "prot-ready"
  | transfer => "trans"

def name : Capability → String
  | delegation => "DELEG"
  | mutuality => "MUTUAL"
  | replay => "REPLAY"
  | sequence => "SEQUENCE"
  | confidentiality => "CONF"
  | integrity => "INTEG"
  | anonymity => "ANON"
  | protReady => "PROT_READY"
  | transfer => "TRANS"

end Capability

/-! ## Sets of capabilities

A set is the word itself, so bits without a meaning are carried along. Union,
intersection and inclusion are those of the words; `text` leaves such bits out. -/

/-- A set of capabilities as a word; bits without a meaning are kept. -/
structure Flags where
  bits : UInt32
  deriving DecidableEq

namespace Flags

def empty : Flags := ⟨0⟩

def of (list : List Capability) : Flags := ⟨list.foldl (fun acc c => acc ||| c.bit) 0⟩

def union (a b : Flags) : Flags := ⟨a.bits ||| b.bits⟩

def inter (a b : Flags) : Flags := ⟨a.bits &&& b.bits⟩

instance : OrOp Flags := ⟨union⟩
instance : AndOp Flags := ⟨inter⟩

def contains (a b : Flags) : Bool := a.bits &&& b.bits == b.bits

def has (a : Flags) (c : Capability) : Bool := a.contains (of [c])

/-- What was requested and is not in the set. -/
def missingFrom (granted requested : Flags) : Flags := ⟨requested.bits &&& ~~~granted.bits⟩

/-- The bits with a meaning. -/
def known : Flags := of Capability.all

/-- The set without bits that have no meaning. -/
def truncated (a : Flags) : Flags := a &&& known

/-- The listed words of a set, or `none` for the empty one. -/
def text (a : Flags) : String :=
  if a.bits = 0 then "none"
  else "|".intercalate ((Capability.all.filter a.has).map Capability.label)

/-- The set for diagnostics: names, and the bits without one as a number. -/
def debug (a : Flags) : String :=
  let names := (Capability.all.filter a.has).map Capability.name
  let unknown := a.bits &&& ~~~known.bits
  let rest := if unknown = 0 then [] else ["0x" ++ Hex.ofNat unknown.toNat]
  let list := names ++ rest
  "ContextFlags(" ++ (if list.isEmpty then "0x0" else " | ".intercalate list) ++ ")"

@[simp] theorem bits_union (a b : Flags) : (a ||| b).bits = a.bits ||| b.bits := rfl

@[simp] theorem bits_inter (a b : Flags) : (a &&& b).bits = a.bits &&& b.bits := rfl

@[ext] theorem ext {a b : Flags} (h : a.bits = b.bits) : a = b := by
  cases a; cases b; simp_all

end Flags

end GssContext
