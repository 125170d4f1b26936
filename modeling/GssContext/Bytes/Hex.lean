/-
Hexadecimal text.

Bytes are written with lower-case digits, two to a byte. Reading accepts
either case and refuses everything else, and it says what it refused: an odd
number of digits is found before any digit is looked at, and otherwise the
first character that is no digit is named with its position. The reader works
on the bytes of the text, so a character outside ASCII is reported as its
first byte.
-/
import GssContext.Bytes

set_option autoImplicit false

namespace GssContext.Hex

def digit (n : Nat) : Char :=
  if n < 10 then Char.ofNat (48 + n) else Char.ofNat (87 + n)

/-- Lower-case hexadecimal text, two digits to a byte. -/
def encode (bytes : Bytes) : String :=
  String.ofList (bytes.flatMap fun b => [digit (b.toNat / 16), digit (b.toNat % 16)])

/-- A number in lower-case hexadecimal without leading zeros. -/
def ofNat (n : Nat) : String := String.ofList (Nat.toDigits 16 n)

/-- A number in lower-case hexadecimal, padded with zeros to `width` digits. -/
def ofNatPadded (width n : Nat) : String :=
  let digits := Nat.toDigits 16 n
  String.ofList (List.replicate (width - digits.length) '0' ++ digits)

inductive Error where
  | oddLength
  /-- A byte of the text is no digit. -/
  | invalidDigit (byte : UInt8) (position : Nat)
  deriving DecidableEq

/-- The value of a digit, in either case. -/
def value? (b : UInt8) : Option Nat :=
  let n := b.toNat
  if 48 ≤ n ∧ n ≤ 57 then some (n - 48)
  else if 65 ≤ n ∧ n ≤ 70 then some (n - 55)
  else if 97 ≤ n ∧ n ≤ 102 then some (n - 87)
  else none

def valueAt (b : UInt8) (position : Nat) : Except Error Nat :=
  match value? b with
  | some n => .ok n
  | none => .error (.invalidDigit b position)

/-- Read pairs of digits, the first of which stands at `position`. -/
def decodeFrom (position : Nat) : Bytes → Except Error Bytes
  | high :: low :: rest => do
    let h ← valueAt high position
    let l ← valueAt low (position + 1)
    let tail ← decodeFrom (position + 2) rest
    return UInt8.ofNat (16 * h + l) :: tail
  | _ => .ok []

/-- Read hexadecimal text, given as its bytes. -/
def decode (text : Bytes) : Except Error Bytes :=
  if text.length % 2 = 1 then .error .oddLength else decodeFrom 0 text

end GssContext.Hex
