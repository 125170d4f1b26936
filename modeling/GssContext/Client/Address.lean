/-
Addresses of hosts.

A host is given as an address of version 4, four numbers with points between
them, or of version 6, eight groups of four hexadecimal digits at most with
colons between them, or by a name that has to be looked up. In the second form
one run of zero groups may be left out, which leaves two colons in its place,
and the last two groups may be written as an address of the first form.
-/
import GssContext.Text.Decimal
import GssContext.Text.Fields

set_option autoImplicit false

namespace GssContext.Client

/-- An address of a host and a port there. -/
structure Address where
  host : String
  /-- Is it an address of version 6? -/
  isLong : Bool
  port : UInt16
  deriving DecidableEq

namespace Address

/-- Address and port in one text; colons of the address are set apart. -/
def text (a : Address) : String :=
  if a.isLong then s!"[{a.host}]:{a.port.toNat}" else s!"{a.host}:{a.port.toNat}"

/-- A number from 0 to 255 without leading zeros. -/
def isOctet (field : List Char) : Bool :=
  field.all Char.isDigit && 1 ≤ field.length && field.length ≤ 3 &&
    (field.length == 1 || field.head? != some '0') &&
    (Decimal.natural 255 field).toOption.isSome

/-- Four such numbers. -/
def isShort (text : List Char) : Bool :=
  let fields := Text.fields '.' text
  fields.length == 4 && fields.all isOctet

/-- One group of an address of version 6. -/
def isGroup (field : List Char) : Bool :=
  1 ≤ field.length && field.length ≤ 4 &&
    field.all fun c => c.isDigit || ('a' ≤ c && c ≤ 'f') || ('A' ≤ c && c ≤ 'F')

/-- How many groups a run of fields stands for, if it is one. The last field
may be an address of version 4 where that is allowed. -/
def groupCount? (shortLast : Bool) : List (List Char) → Option Nat
  | [] => some 0
  | [field] =>
    if isGroup field then some 1 else if shortLast && isShort field then some 2 else none
  | field :: rest => if isGroup field then (groupCount? shortLast rest).map (· + 1) else none

/-- The text before the first two colons in a row, and the text after them. -/
def splitGap : List Char → Option (List Char × List Char)
  | ':' :: ':' :: rest => some ([], rest)
  | c :: rest => (splitGap rest).map fun (before, after) => (c :: before, after)
  | [] => none

/-- The fields of one side of a gap, none if there is nothing. -/
def groupsOf (text : List Char) : List (List Char) :=
  if text.isEmpty then [] else Text.fields ':' text

/-- Is a text an address of version 6? -/
def isLongText (text : List Char) : Bool :=
  match splitGap text with
  | none => groupCount? true (groupsOf text) == some 8
  | some (before, after) =>
    match groupCount? false (groupsOf before), groupCount? true (groupsOf after) with
    | some m, some n => m + n ≤ 7
    | _, _ => false

/-- The address that a text is, if it is one. -/
def ofText? (text : String) (port : UInt16) : Option Address :=
  if isShort text.toList then some ⟨text, false, port⟩
  else if isLongText text.toList then some ⟨text, true, port⟩
  else none

end Address

end GssContext.Client
