/-
Search patterns.

A pattern is a text with signs for repetition, choice, groups, classes of
characters and positions. Here it is only decided which texts are patterns.

Patterns are searched for without tables of characters. So among characters
there are no classes by property and no case is ignored, and a pattern can ask
where a word ends, but cannot be searched for then; among bytes these things
are known for ASCII, but there nothing may match a byte outside ASCII. No count of repetitions and no name in braces is
accepted, so an opening brace stands only in a class or after a backslash. A
pattern may be nested to a bounded depth, where a repetition, a group, a class,
a sequence and a choice are one level each.

A pattern is read from left to right. What has to be known about the part that
was read is how deep it is, which groups are open, how the rest is read,
whether there is something that can be repeated, and which names groups have.
-/
import GssContext.Bytes.Hex
import GssContext.Text.Alphanumeric
import GssContext.Text.Blank

set_option autoImplicit false

namespace GssContext.Text.Pattern

/-! ## Modes -/

/-- How a part of a pattern is read. -/
structure Mode where
  /-- Are blanks and comments left out? -/
  spaced : Bool := false
  /-- Does the pattern match characters, and not bytes? -/
  unicode : Bool := true
  /-- Is the case of letters ignored? -/
  caseless : Bool := false
  deriving DecidableEq

/-- A text from its first character on that is neither a blank nor inside a
comment. A comment ends with its line. -/
def uncommented (inComment : Bool) : List Char → List Char
  | [] => []
  | c :: rest =>
    if inComment then uncommented (c != '\n') rest
    else if isBlank c then uncommented false rest
    else if c = '#' then uncommented true rest
    else c :: rest

namespace Mode

/-- A text from the first character on that counts. -/
def skip (m : Mode) (text : List Char) : List Char :=
  if m.spaced then uncommented false text else text

/-- The character by which it is told what a dash is for. Blanks in front of it
are left out, and so are one sign of a comment and the blanks behind it. -/
def ahead? (m : Mode) (text : List Char) : Option Char :=
  if m.spaced then
    match text.dropWhile isBlank with
    | '#' :: comment => (comment.dropWhile isBlank).head?
    | rest => rest.head?
  else text.head?

/-- Can single characters be matched? Among all characters their other cases
are not known. -/
def takesCharacters (m : Mode) : Bool := !(m.unicode && m.caseless)

end Mode

/-! ## Single characters -/

/-- What one escape or one character stands for. -/
inductive Atom where
  | literal (c : Char)
  /-- One of several characters. -/
  | choice
  /-- A place between characters. -/
  | position
  /-- A place where a word begins or ends, or where none does. -/
  | wordEnd
  deriving DecidableEq

def hexDigits (m : Mode) : (count n : Nat) → List Char → Option (Nat × List Char)
  | 0, n, text => some (n, text)
  | _ + 1, _, [] => none
  | count + 1, n, c :: rest =>
    if c.toNat < 0x80 then
      (Hex.value? (UInt8.ofNat c.toNat)).bind fun digit =>
        hexDigits m count (16 * n + digit) (m.skip rest)
    else none

/-- The character with a number of `count` digits. Two digits are a byte where
bytes are matched, and then it has to be one of ASCII. -/
def numberedAtom (m : Mode) (count : Nat) (text : List Char) : Option (Atom × List Char) := do
  let (n, rest) ← hexDigits m count 0 (m.skip text)
  if n.isValidChar ∧ (m.unicode ∨ 2 < count ∨ n < 0x80) then
    return (.literal (Char.ofNat n), rest)
  else none

/-- The control character that a letter after a backslash stands for. -/
def namedControl? (c : Char) : Option Char :=
  match c with
  | 'a' => some '\x07'
  | 'f' => some '\x0c'
  | 'n' => some '\n'
  | 'r' => some '\r'
  | 't' => some '\t'
  | 'v' => some '\x0b'
  | _ => none

/-- A character that a backslash takes its meaning from. -/
def isPlainSign (c : Char) : Bool :=
  c.toNat < 0x80 && !c.isAlphanum && c != '<' && c != '>'

/-- What follows a backslash. Digits, blanks and parts of words are known among
bytes alone, and their opposites nowhere. -/
def escaped (m : Mode) : List Char → Option (Atom × List Char)
  | [] => none
  | c :: rest =>
    if c = 'x' then numberedAtom m 2 rest
    else if c = 'u' then numberedAtom m 4 rest
    else if c = 'U' then numberedAtom m 8 rest
    else if c ∈ ['d', 's', 'w'] then if m.unicode then none else some (.choice, rest)
    else if c ∈ ['b', 'B', '<', '>'] then some (.wordEnd, rest)
    else if c ∈ ['A', 'z'] then some (.position, rest)
    else if isPlainSign c then some (.literal c, rest)
    else (namedControl? c).map fun control => (.literal control, rest)

/-! ## Classes -/

def classNames : List String :=
  ["alnum", "alpha", "ascii", "blank", "cntrl", "digit", "graph", "lower", "print", "punct",
    "space", "upper", "word", "xdigit"]

/-- The name of a class, where the opening bracket was read: what is left after
its closing bracket, and whether the class holds all but what it is named for. -/
def className? : List Char → Option (Bool × List Char)
  | ':' :: rest =>
    let negated := rest.head? = some '^'
    let rest := if negated then rest.tail else rest
    let name := rest.takeWhile (· != ':')
    match rest.drop name.length with
    | ':' :: ']' :: rest => if String.ofList name ∈ classNames then some (negated, rest) else none
    | _ => none
  | _ => none

/-- One end of a range, or a member that stands alone. -/
def member (m : Mode) : List Char → Option (Atom × List Char)
  | '\\' :: rest => escaped m rest
  | c :: rest => some (.literal c, rest)
  | [] => none

/-- May a member stand alone in a class? -/
def standsAlone (m : Mode) : Atom → Bool
  | .literal c => m.unicode || c.toNat < 0x80
  | .choice => true
  | .position | .wordEnd => false

def isRange (m : Mode) : Atom → Atom → Bool
  | .literal first, .literal last => first ≤ last && (m.unicode || last.toNat < 0x80)
  | _, _ => false

/-- What is left after a member of a class or a range of members. A dash in
front of a closing bracket or of another dash makes no range. -/
def afterMembers? (m : Mode) (text : List Char) : Option (List Char) := do
  let (first, rest) ← member m text
  let alone : Option (List Char) := if standsAlone m first then some (m.skip rest) else none
  match m.skip rest with
  | '-' :: rest =>
    if m.ahead? rest ∈ [some ']', some '-'] then alone
    else
      let (last, rest) ← member m (m.skip rest)
      if isRange m first last then some rest else none
  | _ => alone

/-- How far a class was read. -/
inductive Place where
  /-- Nothing was read. A closing bracket is a member. -/
  | opening
  /-- Dashes were read. Another one is a member. -/
  | dashes
  | inside
  deriving DecidableEq

/-- Things that stand side by side. They are one level deeper than the deepest
of them, and a single one is as deep as it is. -/
structure Row where
  count : Nat := 0
  deepest : Nat := 0
  deriving DecidableEq

namespace Row

def push (r : Row) (depth : Nat) : Row := ⟨r.count + 1, max r.deepest depth⟩

def depth (r : Row) : Nat := if r.count ≤ 1 then r.deepest else r.deepest + 1

end Row

/-- The part of a class that was read: the members since the last operator, and
how deep the class was in front of it. -/
structure Content where
  members : Row := {}
  left : Option Nat := none
  deriving DecidableEq

namespace Content

/-- How deep the whole of it is. An operator is one level. -/
def depth (c : Content) : Nat :=
  match c.left with
  | none => c.members.depth
  | some left => max left c.members.depth + 1

def push (c : Content) (depth : Nat) : Content := { c with members := c.members.push depth }

def operate (c : Content) : Content := { left := some c.depth }

end Content

/-- What is left after the caret of a class that holds all but its members. Of
bytes these would be others than ASCII. -/
def afterCaret? (m : Mode) (text : List Char) : Option (List Char) :=
  match m.skip text with
  | '^' :: rest => if m.unicode then some rest else none
  | rest => some rest

/-- How deep a class is and what is left after its closing bracket, where the
opening one was read. At most as many members are read, one in the other, as the
bound has characters, which is the text itself: a member takes at least one. -/
def class? (m : Mode) : (bound : List Char) → Place → Content → List Char →
    Option (Nat × List Char)
  | [], _, _, _ => none
  | _ :: bound, place, content, text =>
    let next (rest : List Char) : Option (Nat × List Char) :=
      if m.takesCharacters then class? m bound .inside (content.push 0) rest else none
    match place, m.skip text with
    | _, [] => none
    | .opening, '-' :: rest | .dashes, '-' :: rest =>
      if m.takesCharacters then class? m bound .dashes (content.push 0) rest else none
    | .opening, ']' :: rest => next rest
    | _, '[' :: rest =>
      match className? rest with
      | some (negated, rest) => if negated && !m.unicode then none else next rest
      | none => do
        let (depth, rest) ← class? m bound .opening {} (← afterCaret? m rest)
        class? m bound .inside (content.push depth) rest
    | _, ']' :: rest => some (content.depth + 1, rest)
    | _, '&' :: '&' :: rest | _, '-' :: '-' :: rest | _, '~' :: '~' :: rest =>
      class? m bound .inside content.operate rest
    | _, text => (afterMembers? m text).bind next

/-! ## Groups -/

def flagLetters : List Char := ['i', 'm', 's', 'U', 'u', 'R', 'x']

/-- Are these flags, each at most once, with a dash in front of those that are
turned off? -/
def areFlags (flags : List Char) : Bool :=
  flags.all (fun c => c = '-' || c ∈ flagLetters) && decide flags.Nodup &&
    flags.getLast? != some '-'

/-- Is a flag on after some were set? -/
def setFlag (flag : Char) (flags : List Char) (before : Bool) : Bool :=
  if flag ∈ flags then flag ∈ flags.takeWhile (· != '-') else before

/-- The mode after some flags were set. -/
def Mode.set (m : Mode) (flags : List Char) : Mode where
  spaced := setFlag 'x' flags m.spaced
  unicode := setFlag 'u' flags m.unicode
  caseless := setFlag 'i' flags m.caseless

def isGroupName : List Char → Bool
  | [] => false
  | first :: rest => (first = '_' || isAlphabetic first) &&
    rest.all fun c => c ∈ ['_', '.', '[', ']'] || isAlphanumeric c

inductive Opening where
  /-- A group, with its name if it has one. -/
  | group (mode : Mode) (name : Option (List Char))
  /-- No group: a setting for the rest of the one that is open. -/
  | setting (mode : Mode)

/-- A group with a name, which ends with an angle bracket. -/
def namedGroup? (m : Mode) (text : List Char) : Option (Opening × List Char) :=
  let name := text.takeWhile (· != '>')
  match text.drop name.length with
  | '>' :: rest => if isGroupName name then some (.group m (some name), rest) else none
  | _ => none

/-- A group with flags, or flags alone, of which there must be one. -/
def flagGroup? (m : Mode) (text : List Char) : Option (Opening × List Char) :=
  let flags := text.takeWhile fun c => c != ':' && c != ')'
  if !areFlags flags then none
  else
    match text.drop flags.length with
    | ':' :: rest => some (.group (m.set flags) none, rest)
    | ')' :: rest => if flags.isEmpty then none else some (.setting (m.set flags), rest)
    | _ => none

def opening? (m : Mode) (text : List Char) : Option (Opening × List Char) :=
  match m.skip text with
  | '?' :: 'P' :: '<' :: rest => namedGroup? m rest
  | '?' :: '<' :: rest => namedGroup? m rest
  | '?' :: rest => flagGroup? m rest
  | rest => some (.group m none, rest)

/-! ## Patterns -/

/-- The part of a group that was read. -/
structure Group where
  /-- How the rest of the group is read. -/
  mode : Mode := {}
  alternatives : Row := {}
  /-- The parts of the alternative that is read, without the last one. -/
  parts : Row := {}
  /-- How deep the last part is, if there is one. -/
  last : Option Nat := none
  repeatable : Bool := false
  deriving DecidableEq

namespace Group

/-- The parts of the alternative that is read. -/
def row (g : Group) : Row := g.last.elim g.parts g.parts.push

/-- After one more part of a depth. -/
def push (g : Group) (depth : Nat) : Group :=
  { g with parts := g.row, last := some depth, repeatable := true }

/-- After one more part that cannot be repeated, a setting. -/
def set (g : Group) (mode : Mode) : Group :=
  { g with mode, parts := g.row, last := some 0, repeatable := false }

/-- After a sign of repetition, if there is something to repeat. -/
def repeat? (g : Group) : Option Group :=
  if g.repeatable then some { g with last := g.last.map (· + 1) } else none

def alternate (g : Group) : Group :=
  { mode := g.mode, alternatives := g.alternatives.push g.row.depth }

/-- How deep the whole of it is. -/
def depth (g : Group) : Nat := (g.alternatives.push g.row.depth).depth

end Group

/-- What is known of the part of a pattern that was read. -/
structure Progress where
  /-- The innermost group that is open, or the pattern itself. -/
  group : Group := {}
  /-- What is around it, from the inside to the outside. -/
  around : List Group := []
  names : List (List Char) := []
  /-- Was it asked where a word ends among characters? -/
  asksForWords : Bool := false
  deriving DecidableEq

namespace Progress

/-- After a part that is no group and no class. -/
def past (p : Progress) (depth : Nat) : Progress := { p with group := p.group.push depth }

/-- After an opening parenthesis and what belongs to it. -/
def enter (p : Progress) : Opening → Option Progress
  | .setting mode => some { p with group := p.group.set mode }
  | .group mode none => some { p with group := { mode }, around := p.group :: p.around }
  | .group mode (some name) =>
    if name ∈ p.names then none
    else
      some { p with
        group := { mode }, around := p.group :: p.around, names := name :: p.names }

def leave (p : Progress) : Option Progress :=
  match p.around with
  | [] => none
  | outer :: around => some { p with group := outer.push (p.group.depth + 1), around }

/-- After a sign of repetition. A question mark after it belongs to it. -/
def again (p : Progress) (rest : List Char) : Option (Progress × List Char) := do
  let group ← p.group.repeat?
  return ({ p with group }, if rest.head? = some '?' then rest.tail else rest)

/-- After a single character or what an escape stands for. -/
def single (p : Progress) : Atom → Option Progress
  | .literal _ => if p.group.mode.takesCharacters then some (p.past 0) else none
  | .wordEnd =>
    some { p.past 0 with asksForWords := p.asksForWords || p.group.mode.unicode }
  | .choice | .position => some (p.past 0)

/-- Read one sign. The result is what is left. -/
def step (p : Progress) : List Char → Option (Progress × List Char)
  | [] => none
  | c :: rest =>
    let mode := p.group.mode
    if c = '(' then do
      let (opening, rest) ← opening? mode rest
      return (← p.enter opening, rest)
    else if c = ')' then do return (← p.leave, rest)
    else if c = '|' then some ({ p with group := p.group.alternate }, rest)
    else if c = '[' then do
      let (depth, rest) ← class? mode rest .opening {} (← afterCaret? mode rest)
      return (p.past depth, rest)
    else if c ∈ ['?', '*', '+'] then p.again rest
    else if c = '\x7b' then none
    else if c = '\\' then do
      let (atom, rest) ← escaped mode rest
      return (← p.single atom, rest)
    else if c = '.' then if mode.unicode then some (p.past 0, rest) else none
    else if c ∈ ['^', '$'] then some (p.past 0, rest)
    else do return (← p.single (.literal c), rest)

def maxDepth : Nat := 250

/-- What is known of a whole pattern, after the rest of it was read, if it is in
order. At most `fuel` signs are read. -/
def finish? (p : Progress) (fuel : Nat) (text : List Char) : Option Progress :=
  match fuel, p.group.mode.skip text with
  | _, [] => if p.around.isEmpty && p.group.depth ≤ maxDepth then some p else none
  | 0, _ => none
  | fuel + 1, text =>
    match p.step text with
    | none => none
    | some (p, rest) => p.finish? fuel rest

end Progress

/-- Why a text is no pattern that can be searched for. -/
inductive Flaw where
  | malformed
  /-- It asks where a word ends among characters. -/
  | asksForWords
  deriving DecidableEq

end Pattern

/-- What is wrong with a pattern, if anything is. -/
def patternFlaw? (text : List Char) : Option Pattern.Flaw :=
  match ({} : Pattern.Progress).finish? text.length text with
  | none => some .malformed
  | some p => if p.asksForWords then some .asksForWords else none

end GssContext.Text
