/-
Control sequences of terminals.

A text that goes to a terminal can hold sequences that are not shown but
obeyed: they begin with an escape character and end in a way that depends on
what the next characters are. Where a text goes elsewhere they are removed,
and so are the single control characters that leave no blank.

A sequence is followed character by character, and what stands inside it is
dropped up to its end. A blank inside a short sequence is shown all the same,
and then everything is shown up to the next control character. A sequence is
made of bytes, so a character beyond ASCII can end one that waits for a byte
which its encoding holds.
-/
import GssContext.Text.Utf8

set_option autoImplicit false

namespace GssContext.Text.ControlSequence

/-- Inside what a character is read. -/
inductive State where
  /-- Inside no sequence. -/
  | ground
  | escape
  /-- Inside a short sequence after an intermediate character. -/
  | intermediate
  | parameters
  /-- At the start of a device control string. -/
  | device
  /-- Inside the parameters of a device control string. -/
  | deviceParameters
  /-- After an intermediate character of a device control string. -/
  | deviceIntermediate
  /-- Inside a string that the terminator byte ends. -/
  | string
  /-- Inside a command to the system, which a bell ends. -/
  | command
  deriving DecidableEq

def isWide (c : Char) : Bool := 0x80 ≤ c.toNat

/-- Is a character between two others, both included? -/
def within (low high c : Char) : Bool := low ≤ c && c ≤ high

/-- A tab, a line feed, a form feed or a carriage return. -/
def isLayout (c : Char) : Bool := c ∈ ['\t', '\n', '\x0c', '\r']

/-- The byte that ends a string. -/
def terminator : UInt8 := 0x9c

namespace State

/-- After the character that follows the escape character. -/
def afterEscape (c : Char) : State :=
  if within ' ' '/' c then intermediate
  else if c = 'P' then device
  else if c ∈ ['X', '^', '_'] then string
  else if c = '[' then parameters
  else if c = ']' then command
  else if within '0' '~' c then ground
  else escape

/-- After a character. Two of them break off any sequence, and the escape
character begins a new one. -/
def after (s : State) (c : Char) : State :=
  if c = '\x18' ∨ c = '\x1a' then ground
  else if c = '\x1b' then escape
  else
    match s with
    | ground => ground
    | escape => afterEscape c
    | intermediate => if within '0' '~' c then ground else intermediate
    | parameters => if within '@' '~' c then ground else parameters
    | device =>
      if within ' ' '/' c then deviceIntermediate
      else if within '0' '?' c then deviceParameters
      else if within '@' '~' c then string
      else device
    | deviceParameters =>
      if within ' ' '/' c then deviceIntermediate
      else if within '<' '~' c then string
      else deviceParameters
    | deviceIntermediate => if within '0' '~' c then string else deviceIntermediate
    | string => if terminator ∈ Utf8.encodeChar c then ground else string
    | command => if c = '\x07' then ground else command

def shows (s : State) (c : Char) : Bool :=
  match s with
  | ground => within ' ' '~' c || isLayout c || isWide c
  | escape | intermediate | parameters => isLayout c
  | _ => false

end State

/-- The characters that are shown. While `showing`, a character is looked at as
if no sequence were open, and the open one goes on when showing ends; only a
character beyond ASCII ends it for good. -/
def shown (showing : Bool) (s : State) : List Char → List Char
  | [] => []
  | c :: rest =>
    if (if showing then State.ground else s).shows c then
      c :: shown true (if isWide c then .ground else if showing then s else s.after c) rest
    else shown false (s.after c) rest

def strip (text : String) : String := String.ofList (shown false .ground text.toList)

/-- The sequence that ends every style. -/
def reset : String := "\x1b[0m"

end GssContext.Text.ControlSequence
