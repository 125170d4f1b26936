/-
Identifiers as DER content octets.

The first two numbers are joined into one, forty times the first plus the
second, and each number is then written in base 128, highest group first, with
the top bit set on every byte but the last. Tag and length octets are not part
of this form.

Reading splits the joined number back: below forty and below eighty the first
number is 0 or 1, and otherwise it is 2. A number may be padded with groups of
value zero; the reader takes no offence, so it accepts more than the writer
writes.
-/
import GssContext.Oid

set_option autoImplicit false

namespace GssContext.Oid

/-! ## Base 128

Seven bits to a byte, the most significant first, with the top bit set on every
byte but the last. Writing gives the shortest form. Reading takes what it gets: a
number with bytes of zeros in front is read like the number itself. -/

/-- The groups of a number, all with the top bit set. -/
def leadingGroups (n : Nat) : Bytes :=
  if n = 0 then [] else leadingGroups (n / 128) ++ [UInt8.ofNat (128 + n % 128)]
termination_by n

def base128 (n : Nat) : Bytes := leadingGroups (n / 128) ++ [UInt8.ofNat (n % 128)]

/-- The largest number the reader carries: the largest that two numbers join
into when the first is taken for any number of thirty-two bits. -/
def readLimit : Nat := 0xffffffff * 40 + 80

/-- The numbers of a byte string, from inside one that has the value `current`
so far; `pending` says that it is unfinished. -/
def readGroups (current : Nat) (pending : Bool) : Bytes → Except Error (List Nat)
  | [] => if pending then .error .truncated else .ok []
  | b :: rest => do
    let value := current * 128 + b.toNat % 128
    if readLimit < value then throw .overflow
    if 128 ≤ b.toNat then readGroups value true rest
    else
      let values ← readGroups 0 false rest
      return value :: values

/-! ## Identifiers

The first two numbers share one, forty times the first plus the second. It can be
taken apart again for a path that keeps the rule, since there the second number is
below forty where the first is below two. -/

/-- The content octets; a path without two numbers has none. -/
def toDer (oid : Oid) : Bytes :=
  match oid.arcs with
  | a :: b :: rest =>
    base128 (a.toNat * 40 + b.toNat) ++ rest.flatMap fun arc => base128 arc.toNat
  | _ => []

def arcOfNat (n : Nat) : Except Error UInt32 :=
  if n ≤ 0xffffffff then .ok (UInt32.ofNat n) else .error .overflow

/-- The first two numbers from the one they are joined into. -/
def splitRoot (joined : Nat) : UInt32 × Nat :=
  if joined < 40 then (0, joined)
  else if joined < 80 then (1, joined - 40)
  else (2, joined - 80)

/-- Numbers as arcs; the first that does not fit decides. -/
def arcsOfNats : List Nat → Except Error (List UInt32)
  | [] => .ok []
  | n :: rest => do
    let arc ← arcOfNat n
    let arcs ← arcsOfNats rest
    return arc :: arcs

/-- The identifier of a list of joined numbers. -/
def ofJoined : List Nat → Except Error Oid
  | [] => .error .invalidRoot
  | joined :: rest => do
    let (first, second) := splitRoot joined
    let second ← arcOfNat second
    let arcs ← arcsOfNats rest
    return ⟨first :: second :: arcs⟩

/-- Read content octets. -/
def ofDer (bytes : Bytes) : Except Error Oid := do ofJoined (← readGroups 0 false bytes)

end GssContext.Oid
