/-
Reading values out of items.

A reader knows what it wants and is lenient about how it is written: tags in
front of a value are skipped, an integer may be wider than it needs to be or a
big number, a list of small numbers may come as a byte string, and strings and
lists may come in pieces. What it does not know, such as the value of a field
that nobody asked for, it skips, whatever it is, down to a bound on nesting.

Where a break ends something, a reader has a bound: the input itself, of which
each item takes at least one byte, so the bound is never used up before it.

Text is read in pieces of bounded size, and a character may be cut by the end
of a piece but not by the end of a segment. Where a text is cut short by the
end of the input, a malformed character in the pieces before it is found first.
-/
import GssContext.Cbor.Head
import GssContext.Text.Utf8

set_option autoImplicit false

namespace GssContext.Cbor

/-! ## Sizes -/

/-- Bytes of a text that are looked at together, and the size up to which a
string is read as a whole. -/
def pieceSize : Nat := 4096

/-- Bytes of a big number that are looked at together, and the most it may
have without its leading zeros. -/
def bigSize : Nat := 16

/-- Bytes of an unfinished character, at most. -/
def maxUnfinished : Nat := 3

/-! ## Strings

A string has its length in front, or comes in segments up to a break. A segment of a
text holds whole characters; how it is cut into pieces while it is read does not
matter. -/

/-- A text of `unread` more bytes, after bytes that begin a character. -/
def textPieces (unread : Nat) (held : Bytes) : Reader (List Char) :=
  if unread = 0 then if held = [] then pure [] else Reader.fail .malformed
  else do
    let count := max 1 (min (pieceSize - held.length) unread)
    let piece ← Reader.take count
    let (chars, rest) := Utf8.split (held ++ piece)
    if maxUnfinished < rest.length then Reader.fail .malformed
    else return chars ++ (← textPieces (unread - max 1 (min (pieceSize - held.length) unread)) rest)
termination_by unread
decreasing_by omega

/-- The parts of a string that comes in segments, up to the break that ends
it. Such a string may itself be a part; `depth` counts the breaks to come. At
most as many heads are read as the bound has bytes. -/
def segments {α : Type} (length? : Head → Option (Option Nat)) (part : Nat → Reader (List α)) :
    (bound : Bytes) → (depth : Nat) → Reader (List α)
  | [], _ => Reader.fail .truncated
  | _ :: bound, depth => do
    let head ← readHead
    match head, length? head with
    | .stop, _ => if depth ≤ 1 then return [] else segments length? part bound (depth - 1)
    | _, some none => segments length? part bound (depth + 1)
    | _, some (some length) => do
      let first ← part length
      return first ++ (← segments length? part bound depth)
    | _, none => Reader.fail .malformed

/-- The length a head gives a byte string. -/
def Head.bytesLength? : Head → Option (Option Nat)
  | .bytes length => some length
  | _ => none

/-- The length a head gives a text. -/
def Head.textLength? : Head → Option (Option Nat)
  | .text length => some length
  | _ => none

/-- The bytes of a byte string after its head. -/
def byteString (length : Option Nat) : Reader Bytes := do
  match length with
  | some length => Reader.take length
  | none => segments Head.bytesLength? Reader.take (← Reader.ahead) 1

/-- The characters of a text after its head. -/
def textString (length : Option Nat) : Reader (List Char) := do
  match length with
  | some length => textPieces length []
  | none => segments Head.textLength? (textPieces · []) (← Reader.ahead) 1

/-! ## Values

Tags in front of a value are passed over, except for those of big numbers. Whoever
wants a number says how large it may be. -/

/-- Read `length` more bytes onto a big number. Leading zeros do not count, and
a number with too many digits is refused as soon as that is seen. -/
def bigPieces (length : Nat) (digits : Bytes) : Reader Bytes :=
  if length = 0 then pure digits
  else do
    let piece ← Reader.take (min bigSize length)
    let digits := (digits ++ piece).dropWhile (· == 0)
    if bigSize < digits.length then Reader.fail .mismatch
    else bigPieces (length - min bigSize length) digits
termination_by length
decreasing_by simp only [bigSize]; omega

/-- The segments of a big number that comes in several, as for `segments`. -/
def bigSegments : (bound : Bytes) → (depth : Nat) → (digits : Bytes) → Reader Bytes
  | [], _, _ => Reader.fail .truncated
  | _ :: bound, depth, digits => do
    match ← readHead with
    | .stop => if depth ≤ 1 then return digits else bigSegments bound (depth - 1) digits
    | .bytes none => bigSegments bound (depth + 1) digits
    | .bytes (some length) => bigSegments bound depth (← bigPieces length digits)
    | _ => Reader.fail .malformed

/-- The value of a big number after its tag. -/
def bigNumber : Reader Nat := do
  match ← readHead with
  | .bytes (some length) => return Bytes.toNatBE (← bigPieces length [])
  | .bytes none => return Bytes.toNatBE (← bigSegments (← Reader.ahead) 1 [])
  | _ => Reader.fail .mismatch

/-- A number that is not above `limit`. -/
def bounded (limit n : Nat) : Reader Nat :=
  if n ≤ limit then pure n else Reader.fail .mismatch

/-- An integer from zero to `limit`, of any width. The tags two and three are
those of big numbers, the second for negative ones; all others are skipped. -/
def natural (limit : Nat) : Reader Nat := do
  match ← headPast (fun tag => tag ≠ 2 ∧ tag ≠ 3) with
  | .unsigned n => bounded limit n
  | .tag 2 => bounded limit (← bigNumber)
  | .tag 3 =>
    let _ ← bigNumber
    Reader.fail .mismatch
  | _ => Reader.fail .mismatch

def text : Reader String := do
  match ← untaggedHead with
  | .text length => return String.ofList (← textString length)
  | _ => Reader.fail .mismatch

/-! ## Lists

The length of a list is a claim of whoever wrote it. Nothing is set aside for the
items before they come, and a list that is too short ends with the input. -/

/-- As many values as are wanted. -/
def times {α : Type} (item : Reader α) : (count : Nat) → Reader (List α)
  | 0 => pure []
  | count + 1 => do
    let first ← item
    return first :: (← times item count)

/-- Does a break come next? It is not taken. -/
def atStop : Reader Bool := do
  return (← headAhead) == .stop

/-- Values up to a break, fewer than the bound has bytes. -/
def untilStop {α : Type} (item : Reader α) : (bound : Bytes) → Reader (List α)
  | [] => Reader.fail .truncated
  | _ :: bound => do
    if ← atStop then
      let _ ← readHead
      return []
    else
      let first ← item
      return first :: (← untilStop item bound)

/-- The values of a list after its head. -/
def items {α : Type} (item : Reader α) (length : Option Nat) : Reader (List α) := do
  match length with
  | some length => times item length
  | none => untilStop item (← Reader.ahead)

/-- A list of integers from zero to `limit`. A byte string is a list of its
bytes. -/
def naturals (limit : Nat) : Reader (List Nat) := do
  match ← untaggedHead with
  | .array length => items (natural limit) length
  | .bytes length => return (← byteString length).map UInt8.toNat
  | _ => Reader.fail .mismatch

/-! ## Skipping

A value that nobody asks for is skipped as a whole. It must still be one: its texts
are checked, and it may be nested only so deep. -/

/-- The bytes of a string that is read as a whole, and that must be text. -/
def wholeText (length : Nat) : Reader Bytes := do
  let bytes ← Reader.take length
  match Utf8.split bytes with
  | (_, []) => return bytes
  | _ => Reader.fail .malformed

def skipText (length : Option Nat) : Reader Unit := do
  match length with
  | some length =>
    if length ≤ pieceSize then
      let _ ← wholeText length
    else
      let _ ← textPieces length []
  | none =>
    let _ ← textString none

/-- Does a tag make a big number of an item with this head, and one of at most
as many digits as are looked at together? -/
def isShortBig (tag : Nat) : Head → Bool
  | .bytes (some length) => (tag == 2 || tag == 3) && length ≤ bigSize
  | _ => false

/-- Skip what a tag is put on, with `inner` for an item that has to be entered.
A short big number is read on the spot, so it is no level of nesting, and a
negative one must not be below the least signed number of as many digits. -/
def skipTagged (tag : Nat) (inner : Reader Unit) : Reader Unit := do
  if isShortBig tag (← headAhead) then
    let n ← bigNumber
    if tag = 3 then
      let _ ← bounded ((1 <<< (8 * bigSize - 1)) - 1) n
  else inner

/-- Skip what a head begins, with `inner` for the items inside it. -/
def skipAfter (head : Head) (inner : Reader Unit) : Reader Unit := do
  match head with
  | .unsigned _ | .negative _ | .float => return
  | .simple n => if 20 ≤ n ∧ n ≤ 23 then return else Reader.fail .mismatch
  | .stop => Reader.fail .mismatch
  | .bytes length =>
    let _ ← byteString length
  | .text length => skipText length
  | .tag tag => skipTagged tag inner
  | .array length =>
    let _ ← items inner length
  | .map length =>
    let entry : Reader Unit := do
      inner
      inner
    let _ ← items entry length

/-- Skip one item. Tags, lists and maps are entered at most `depth` deep. -/
def skip : (depth : Nat) → Reader Unit
  | 0 => do
    match ← readHead with
    | .array _ | .map _ => Reader.fail .tooDeep
    | head => skipAfter head (Reader.fail .tooDeep)
  | depth + 1 => do skipAfter (← readHead) (skip depth)

end GssContext.Cbor
