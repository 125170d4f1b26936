/-
Identifiers as dotted text.

The numbers are written in decimal with points between them. Reading is more
lenient than writing: blanks around the whole text, a plus in front of a
number and leading zeros are all accepted, so a text that is read and written
again comes back in its one plain spelling.
-/
import GssContext.Oid
import GssContext.Text.Blank
import GssContext.Text.Decimal
import GssContext.Text.Fields

set_option autoImplicit false

namespace GssContext.Oid

def dottedChars (oid : Oid) : List Char :=
  Text.joinFields '.' (oid.arcs.map fun arc => Decimal.ofNat arc.toNat)

def text (oid : Oid) : String := String.ofList oid.dottedChars

/-- The identifier for diagnostics, with its name if it has one. -/
def debug (oid : Oid) : String :=
  match oid.name? with
  | some name => s!"Oid({oid.text} {name})"
  | none => s!"Oid({oid.text})"

def readArc (field : List Char) : Except Error UInt32 :=
  match Decimal.natural 0xffffffff field with
  | .ok n => .ok (UInt32.ofNat n)
  | .error _ => .error (.nonNumeric (String.ofList field))

/-- The numbers in all fields; the first that is none decides. -/
def readArcs : List (List Char) → Except Error (List UInt32)
  | [] => .ok []
  | field :: rest => do
    let arc ← readArc field
    let arcs ← readArcs rest
    return arc :: arcs

def ofDotted (text : String) : Except Error Oid := do
  ofArcs (← readArcs (Text.fields '.' (Text.trim text.toList)))

end GssContext.Oid
