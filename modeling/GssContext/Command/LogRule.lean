/-
Rules about which lines of the journal are shown.

A rule names the part of the program that it is about and the least important
level that is shown of it; without a part it is about all parts, and without a
level it shows everything. In brackets it can also name a stretch of work and,
in braces, a value that a line has to have. Stretches of work are not marked
here, so a rule that asks for one, or for what a value is, decides about no
line.

The signs of a rule are looked for in its text without the blanks at the ends,
and what is between them is cut out of the text as it is, at the same distance
in bytes from its start. With blanks in front a cut can therefore fall into a
character.
-/
import GssContext.Journal
import GssContext.Text.Alphanumeric
import GssContext.Text.Blank
import GssContext.Text.Decimal
import GssContext.Text.Fields
import GssContext.Text.Pattern

set_option autoImplicit false

namespace GssContext.Command

/-! ## Levels -/

/-- How much is shown: nothing, or what is at least as important as a level. -/
abbrev Threshold := Option Level

def shows (threshold : Threshold) (level : Level) : Bool :=
  threshold.any fun least => least.rank ≤ level.rank

/-- The thresholds, the one that shows least first. -/
def thresholds : List Threshold :=
  [none, some .error, some .warn, some .info, some .debug, some .trace]

def thresholdWord : Threshold → String
  | none => "off"
  | some level => level.name.toLower

/-- The threshold that a word or a number from 0 to 5 stands for. -/
def threshold? (text : List Char) : Option Threshold :=
  match (Decimal.natural 5 text).toOption with
  | some n => thresholds[n]?
  | none => thresholds.find? fun t => (thresholdWord t).toList == text.map Char.toLower

/-! ## Values -/

/-- Is a text a number, with or without a sign, a point and an exponent, or a
word for what is no number? -/
def isNumber (text : List Char) : Bool :=
  let unsigned := match text with
    | '+' :: rest | '-' :: rest => rest
    | _ => text
  let whole := unsigned.takeWhile Char.isDigit
  let rest := unsigned.drop whole.length
  let fraction := match rest with
    | '.' :: rest => rest.takeWhile Char.isDigit
    | _ => []
  let rest := match rest with
    | '.' :: rest => rest.drop fraction.length
    | _ => rest
  let exponent := match rest with
    | e :: '+' :: digits | e :: '-' :: digits | e :: digits =>
      (e == 'e' || e == 'E') && !digits.isEmpty && digits.all Char.isDigit
    | [] => true
  String.ofList (unsigned.map Char.toLower) ∈ ["inf", "infinity", "nan"] ||
    !(whole.isEmpty && fraction.isEmpty) && exponent

/-- A value that a line has to have. -/
structure NamedValue where
  name : String
  /-- A number that it has to be, or a pattern that it has to match. -/
  wanted : Option (List Char) := none
  deriving DecidableEq

inductive Fault where
  | unreadable
  | badThreshold
  /-- The value is neither a number nor a pattern. -/
  | badPattern (flaw : Text.Pattern.Flaw)
  /-- A part would begin or end inside a character. -/
  | insideCharacter
  deriving DecidableEq

def Fault.message : Fault → String
  | unreadable => "invalid filter directive"
  | badThreshold =>
    "error parsing level filter: expected one of \"off\", \"error\", \"warn\", \"info\", " ++
      "\"debug\", \"trace\", or a number 0-5"
  | badPattern .malformed => "invalid field filter: error building NFA"
  | badPattern .asksForWords =>
    "invalid field filter: unsupported regex feature for DFAs: cannot build DFAs for regexes " ++
      "with Unicode word boundaries; switch to ASCII word boundaries, or heuristically enable " ++
      "Unicode word boundaries or use a different regex engine"
  | insideCharacter => "a rule is cut inside a character"

/-- A name, and after an equals sign what the value has to be. What comes after
a second equals sign does not matter. -/
def NamedValue.ofText (text : List Char) : Except Fault NamedValue :=
  match Text.fields '=' text with
  | [] => .error .unreadable
  | [name] => .ok { name := String.ofList name }
  | name :: wanted :: _ =>
    let value : NamedValue := { name := String.ofList name, wanted := some wanted }
    if isNumber wanted then .ok value
    else
      match Text.patternFlaw? wanted with
      | none => .ok value
      | some flaw => .error (.badPattern flaw)

/-! ## Rules -/

/-- What is shown of a part of the program. -/
structure Rule where
  /-- The beginning of the part's name; without it the rule is about all. -/
  target : Option (List Char) := none
  /-- The name of a stretch of work. -/
  stretch : Option (List Char) := none
  value : Option NamedValue := none
  threshold : Threshold := some .trace
  deriving DecidableEq

namespace Rule

def canBegin (c : Char) : Bool := c == '-' || c == ':' || c == '_' || Text.isAlphanumeric c

/-! ### Cutting -/

/-- The bytes that characters take. -/
def size (text : List Char) : Nat := text.foldl (fun n c => n + c.utf8Size) 0

/-- A text before and after so many bytes. -/
def cut (bytes : Nat) : List Char → Except Fault (List Char × List Char)
  | [] => if bytes = 0 then .ok ([], []) else .error .insideCharacter
  | c :: rest =>
    if bytes = 0 then .ok ([], c :: rest)
    else if bytes < c.utf8Size then .error .insideCharacter
    else do
      let (front, back) ← cut (bytes - c.utf8Size) rest
      return (c :: front, back)

/-- The part of a text from one place up to another. -/
def piece (text : List Char) (start stop : Nat) : Except Fault (List Char) := do
  let (front, _) ← cut stop text
  return (← cut start front).2

/-! ### Reading -/

/-- The threshold that is written from a place on. -/
def thresholdFrom (text : List Char) (start : Nat) : Except Fault Threshold := do
  let (_, word) ← cut start text
  if word.isEmpty then return some .trace
  else
    match threshold? word with
    | some t => return t
    | none => throw .badThreshold

/-- Read `ahead`, which stands at `start`, after the name of a part, if there is
no bracket there or after the closing one. -/
def readThreshold (text ahead : List Char) (start : Nat) (rule : Rule) : Except Fault Rule :=
  match ahead with
  | [] => .ok rule
  | '=' :: _ => do return { rule with threshold := ← thresholdFrom text (start + 1) }
  | _ => .error .unreadable

/-- Read `ahead`, which stands at `start`, after an opening brace. -/
def readValue (text ahead : List Char) (start : Nat) (rule : Rule) : Except Fault Rule := do
  let inside := ahead.takeWhile (· != '\x7d')
  let stop := start + size inside
  match ahead.drop inside.length with
  | [] => throw .unreadable
  | _ :: ahead =>
    let named ← piece text start stop
    if named.isEmpty then throw .unreadable
    let value ← NamedValue.ofText named
    match ahead with
    | ']' :: ahead => readThreshold text ahead (stop + 2) { rule with value := some value }
    | _ => throw .unreadable

/-- Read `ahead`, which stands at `start`, after an opening bracket. -/
def readStretch (text ahead : List Char) (start : Nat) (rule : Rule) : Except Fault Rule := do
  let inside := ahead.takeWhile fun c => c != ']' && c != '\x7b'
  let stop := start + size inside
  match ahead.drop inside.length with
  | [] => throw .unreadable
  | c :: ahead =>
    let name ← piece text start stop
    if c = ']' then readThreshold text ahead (stop + 1) { rule with stretch := some name }
    else if name.isEmpty then readValue text ahead (stop + 1) rule
    else readValue text ahead (stop + 1) { rule with stretch := some name }

/-- The rule that a text stands for. A text without signs is a level if there is
one of that name, and the name of a part otherwise. -/
def ofText (text : List Char) : Except Fault Rule := do
  let body := Text.trim text
  let name := body.takeWhile fun c => c != '=' && c != '['
  if !body.head?.any (fun c => c == '[' || canBegin c) then throw .unreadable
  match body.drop name.length with
  | [] =>
    match threshold? text with
    | some threshold => return { threshold }
    | none => return { target := some text }
  | '[' :: ahead =>
    if name.isEmpty then readStretch text ahead 1 {}
    else readStretch text ahead (size name + 1) { target := some (← piece text 0 (size name)) }
  | ahead => readThreshold text ahead (size name) { target := some (← piece text 0 (size name)) }

/-! ### Deciding -/

def isDecisive (r : Rule) : Bool := r.stretch.isNone && r.value.all fun v => v.wanted.isNone

def isAbout (r : Rule) (line : LogLine) : Bool :=
  r.isDecisive && r.target.all (fun target => target.isPrefixOf line.source.toList) &&
    r.value.all fun v => v.name == "message" || line.fields.any fun f => f.1 == v.name

/-- How much a rule is to be preferred because of its target: the longer, the more. -/
def weight (r : Rule) : Nat :=
  match r.target with
  | none => 0
  | some target => size target + 1

/-- Is the second of two rules about one line to be preferred, or are they about
the same lines? -/
def yields (r s : Rule) : Bool :=
  r.weight < s.weight || r.weight = s.weight &&
    match r.value, s.value with
    | none, _ => true
    | some _, none => false
    | some v, some w => v.name ≤ w.name

end Rule

end GssContext.Command
