/-
Records: maps whose keys are the names of fields.

A record is written with its fields in one order. It is read in any order, and
with fields that it does not have: those are skipped, while a field that comes
twice, or that is missing in the end, is a mismatch. A name may be written as
text or as the bytes of one.

What has been read so far is a value of its own, so a record says only what
each name does to it, and what complete record it amounts to.
-/
import GssContext.Cbor.Read

set_option autoImplicit false

namespace GssContext.Cbor

/-- How deep the values of unknown fields may be nested: one level less than
items may be altogether. -/
def skipDepth : Nat := 255

/-- How a record is read: `ρ` is what has been read so far. -/
structure Record (ρ α : Type) where
  start : ρ
  /-- What the value under a name adds; `none` for a name the record lacks. -/
  field : Bytes → Option (ρ → Reader ρ)
  /-- The record, once its fields are there. -/
  complete : ρ → Option α

/-- Read a field that must not have been read before. -/
def once {α ρ : Type} (before : Option α) (value : Reader α) (store : α → ρ) : Reader ρ :=
  match before with
  | some _ => Reader.fail .mismatch
  | none => do return store (← value)

def fieldName : Reader Bytes := do
  match ← untaggedHead with
  | .text (some length) =>
    if length ≤ pieceSize then wholeText length else Reader.fail .mismatch
  | .bytes (some length) =>
    if length ≤ pieceSize then Reader.take length else Reader.fail .mismatch
  | _ => Reader.fail .mismatch

namespace Record

variable {ρ α : Type}

def entry (r : Record ρ α) (before : ρ) : Reader ρ := do
  match r.field (← fieldName) with
  | some read => read before
  | none =>
    skip skipDepth
    return before

/-- Read as many fields as are announced. -/
def entries (r : Record ρ α) : (count : Nat) → ρ → Reader ρ
  | 0, before => pure before
  | count + 1, before => do r.entries count (← r.entry before)

/-- Read fields up to a break, fewer than the bound has bytes. -/
def entriesUntilStop (r : Record ρ α) : (bound : Bytes) → ρ → Reader ρ
  | [], _ => Reader.fail .truncated
  | _ :: bound, before => do
    if ← atStop then
      let _ ← readHead
      return before
    else r.entriesUntilStop bound (← r.entry before)

def read (r : Record ρ α) : Reader α := do
  let fields ← match ← untaggedHead with
    | .map (some count) => r.entries count r.start
    | .map none => do r.entriesUntilStop (← Reader.ahead) r.start
    | _ => Reader.fail .mismatch
  match r.complete fields with
  | some value => return value
  | none => Reader.fail .mismatch

end Record

/-! ## Writing

Only the forms that the messages need: numbers, texts, lists of numbers, and
records with their fields in the order in which they are declared. -/

def writeNatural (n : Nat) : Bytes := writeHead 0 n

def writeText (text : String) : Bytes :=
  let bytes := Utf8.encode text
  writeHead 3 bytes.length ++ bytes

def writeNaturals (list : List Nat) : Bytes :=
  writeHead 4 list.length ++ list.flatMap writeNatural

/-- Bytes, as the list of their values. -/
def writeByteList (bytes : Bytes) : Bytes := writeNaturals (bytes.map UInt8.toNat)

/-- A record from its fields' names and written values. -/
def writeRecord (fields : List (String × Bytes)) : Bytes :=
  writeHead 5 fields.length ++ fields.flatMap fun (name, value) => writeText name ++ value

theorem writeRecord_ne_nil (fields : List (String × Bytes)) : writeRecord fields ≠ [] := by
  simp [writeRecord, writeHead_ne_nil]

end GssContext.Cbor
