/-
The words after the program's name.

A word is the name of a switch, the name of a parameter, or a positional word;
two dashes alone make every later word positional. A parameter takes its value
from the same word or from the next one, and a value in a word of its own may
not begin with a dash. Single letters can be written together, up to the first
one that takes a value.

The words are read from left to right, and the first fault ends the reading. A
value that stands in a word of its own is looked at only when the next thing
begins, so a word that nobody knows is found before a bad value in front of it.
-/
import GssContext.Client.Config
import GssContext.Text.ControlSequence
import GssContext.Text.Decimal
import GssContext.Text.Likeness

set_option autoImplicit false

namespace GssContext.Command

/-! ## What can be named -/

/-- Something that is on or off. -/
inductive Switch where
  | delegate
  | file
  | sealed
  | mutuality
  deriving DecidableEq

/-- Something that has a value. -/
inductive Parameter where
  | port
  | mechanism
  | keyFile
  | name
  | connectTimeout
  | ioTimeout
  | maxRounds
  | logLevel
  deriving DecidableEq

/-- What the name on a word means. -/
inductive Named where
  | switch (switch : Switch)
  | parameter (parameter : Parameter)
  | help
  | version
  deriving DecidableEq

namespace Named

def all : List Named :=
  [.parameter .port, .parameter .mechanism, .switch .delegate, .switch .file, .switch .sealed,
    .switch .mutuality, .parameter .keyFile, .parameter .name, .parameter .connectTimeout,
    .parameter .ioTimeout, .parameter .maxRounds, .parameter .logLevel, .help, .version]

/-- The name after two dashes. -/
def long : Named → String
  | switch .delegate => "delegate"
  | switch .file => "file"
  | switch .sealed => "seal"
  | switch .mutuality => "mutual"
  | parameter .port => "port"
  | parameter .mechanism => "mech"
  | parameter .keyFile => "psk-file"
  | parameter .name => "name"
  | parameter .connectTimeout => "connect-timeout"
  | parameter .ioTimeout => "io-timeout"
  | parameter .maxRounds => "max-rounds"
  | parameter .logLevel => "log-level"
  | help => "help"
  | version => "version"

/-- The letter after one dash, if there is one. -/
def short? : Named → Option Char
  | switch .delegate => some 'd'
  | switch .file => some 'f'
  | parameter .port => some 'p'
  | help => some 'h'
  | version => some 'V'
  | _ => none

def ofLong? (name : String) : Option Named := all.find? fun n => n.long == name

def ofShort? (letter : Char) : Option Named := all.find? fun n => n.short? == some letter

def placeholder (n : Named) : String :=
  String.ofList (n.long.toList.map fun c => if c = '-' then '_' else c.toUpper)

/-- The name as messages show it, for a parameter with the place of its value. -/
def shown : Named → String
  | parameter p => "--" ++ (parameter p).long ++ " <" ++ (parameter p).placeholder ++ ">"
  | other => "--" ++ other.long

end Named

/-! ## What can go wrong -/

/-- What may have been meant by a word that nobody knows. -/
inductive Hint where
  | nothing
  /-- A name that is like it. -/
  | named (named : Named)
  /-- A positional word, which two dashes in front of it would make it. -/
  | positional
  deriving DecidableEq

/-- What may have been meant by a name that nobody knows. -/
def Hint.ofName (name : String) : Hint :=
  match Named.all.find? fun n => Text.areAlike name n.long with
  | some n => .named n
  | none => .positional

/-- What is wrong with the words. -/
inductive UsageError where
  | valueMissing (parameter : Parameter)
  | repeated (named : Named)
  | badValue (parameter : Parameter) (value why : String)
  /-- A word that nobody knows, or one too many. -/
  | unexpected (word : String) (hint : Hint := .nothing)
  /-- A value for something that takes none. -/
  | valueUnexpected (named : Named) (value : String)
  /-- Something that must be given is not. -/
  | incomplete
  deriving DecidableEq

/-- A word inside a message. It is written in a style of its own, and what ends
the style also ends a control sequence that the word leaves open; then all of
them are removed. -/
def quotedWord (word : String) : String :=
  Text.ControlSequence.strip (word ++ Text.ControlSequence.reset)

namespace UsageError

def message : UsageError → String
  | valueMissing p =>
    "a value is required for '" ++ (Named.parameter p).shown ++ "' but none was supplied"
  | repeated n => "the argument '" ++ n.shown ++ "' cannot be used multiple times"
  | badValue p value why =>
    "invalid value '" ++ quotedWord value ++ "' for '" ++ (Named.parameter p).shown ++ "': " ++ why
  | unexpected word _ => "unexpected argument '" ++ quotedWord word ++ "' found"
  | valueUnexpected n value =>
    "unexpected value '" ++ quotedWord value ++ "' for '" ++ n.shown ++
      "' found; no more were expected"
  | incomplete => "the following required arguments were not provided:"

/-- What can be done about a fault. -/
def tip? : UsageError → Option String
  | unexpected _ (.named n) => some ("a similar argument exists: '--" ++ n.long ++ "'")
  | unexpected word .positional =>
    some ("to pass '" ++ quotedWord word ++ "' as a value, use '" ++ quotedWord ("-- " ++ word) ++
      "'")
  | _ => none

/-- All that is said about a fault. -/
def text (e : UsageError) : String :=
  let tip := e.tip?.elim "" fun tip => "\n\n  tip: " ++ tip
  "error: " ++ e.message ++ tip ++ "\n\nFor more information, try '--help'.\n"

end UsageError

/-- Why reading the words ended before all of them were read. -/
inductive Stop where
  | usage (error : UsageError)
  | help
  | version
  deriving DecidableEq

/-! ## What the words say -/

/-- The words, read and complete. -/
structure Arguments where
  host : String
  service : String
  message : String
  keyFile : String
  port : UInt16
  mechanism : Option Oid
  name : String
  connectTimeout : Option Duration
  ioTimeout : Option Duration
  maxRounds : Nat
  logLevel : String
  delegate : Bool
  file : Bool
  sealed : Bool
  mutuality : Bool
  deriving DecidableEq

/-- The words read so far. -/
structure Draft where
  switches : List Switch := []
  port : Option UInt16 := none
  mechanism : Option Oid := none
  keyFile : Option String := none
  name : Option String := none
  connectTimeout : Option Nat := none
  ioTimeout : Option Nat := none
  maxRounds : Option Nat := none
  logLevel : Option String := none
  positionals : List String := []
  /-- A parameter that was named, and its value once there is one. -/
  pending : Option (Parameter × Option String) := none
  /-- Were two dashes alone read? -/
  onlyPositional : Bool := false

namespace Draft

/-! ## Values -/

/-- The largest number that a word of the machine holds. -/
def wordLimit : Nat := UInt64.size - 1

/-- Read a number of a machine word. -/
def readWord (value : String) : Except String Nat :=
  (Decimal.natural wordLimit value.toList).mapError Decimal.Error.message

def readPort (value : String) : Except String UInt16 := do
  let n ← (Decimal.integer (1 <<< 63) ((1 <<< 63) - 1) value.toList).mapError
    Decimal.Error.message
  if 0 ≤ n ∧ n ≤ 65535 then return UInt16.ofNat n.toNat
  else throw (toString n ++ " is not in 0..=65535")

def readMechanism (value : String) : Except String Oid :=
  (Oid.ofDotted value).mapError Oid.Error.message

def isGiven (d : Draft) : Parameter → Bool
  | .port => d.port.isSome
  | .mechanism => d.mechanism.isSome
  | .keyFile => d.keyFile.isSome
  | .name => d.name.isSome
  | .connectTimeout => d.connectTimeout.isSome
  | .ioTimeout => d.ioTimeout.isSome
  | .maxRounds => d.maxRounds.isSome
  | .logLevel => d.logLevel.isSome

def read (d : Draft) (p : Parameter) (value : String) : Except String Draft := do
  match p with
  | .port => return { d with port := some (← readPort value) }
  | .mechanism => return { d with mechanism := some (← readMechanism value) }
  | .keyFile => return { d with keyFile := some value }
  | .name => return { d with name := some value }
  | .connectTimeout => return { d with connectTimeout := some (← readWord value) }
  | .ioTimeout => return { d with ioTimeout := some (← readWord value) }
  | .maxRounds => return { d with maxRounds := some (← readWord value) }
  | .logLevel => return { d with logLevel := some value }

/-- Give a parameter its value. The name of a file may not be empty. -/
def assign (d : Draft) (p : Parameter) (value : String) : Except Stop Draft :=
  if d.isGiven p then .error (.usage (.repeated (.parameter p)))
  else if p = .keyFile ∧ value = "" then .error (.usage (.valueMissing p))
  else (d.read p value).mapError fun why => .usage (.badValue p value why)

/-! ## Words -/

/-- Finish the parameter that waits, if one does. -/
def settle (d : Draft) : Except Stop Draft :=
  match d.pending with
  | none => .ok d
  | some (p, none) => .error (.usage (.valueMissing p))
  | some (p, some value) => { d with pending := none }.assign p value

/-- Name a parameter whose value is yet to come. -/
def await (d : Draft) (p : Parameter) : Except Stop Draft := do
  return { ← d.settle with pending := some (p, none) }

def turnOn (d : Draft) (s : Switch) : Except Stop Draft := do
  let d ← d.settle
  if s ∈ d.switches then throw (.usage (.repeated (.switch s)))
  else return { d with switches := s :: d.switches }

/-- Read the name of anything, where no value stands in the same word. -/
def mention (d : Draft) : Named → Except Stop Draft
  | .switch s => d.turnOn s
  | .parameter p => d.await p
  | .help => do
    let _ ← d.settle
    throw .help
  | .version => do
    let _ ← d.settle
    throw .version

/-- Take a positional word. There are three of them. -/
def position (d : Draft) (word : String) : Except Stop Draft :=
  if d.positionals.length < 3 then do
    let d ← d.settle
    return { d with positionals := d.positionals ++ [word] }
  else .error (.usage (.unexpected word))

/-- Read a word of letters after one dash. -/
def letters (d : Draft) : List Char → Except Stop Draft
  | [] => .ok d
  | c :: rest =>
    match Named.ofShort? c with
    | none => .error (.usage (.unexpected (String.ofList ['-', c]) .positional))
    | some (.parameter p) =>
      match rest with
      | [] => d.await p
      | '=' :: value => do (← d.settle).assign p (String.ofList value)
      | value => do (← d.settle).assign p (String.ofList value)
    | some other => do letters (← d.mention other) rest

/-- Read a name after two dashes, with a value if one stands in the same word. -/
def longName (d : Draft) (name : String) (value : Option String) : Except Stop Draft :=
  match Named.ofLong? name, value with
  | none, _ => .error (.usage (.unexpected ("--" ++ name) (.ofName name)))
  | some (.parameter p), some value => do (← d.settle).assign p value
  | some n, some value => .error (.usage (.valueUnexpected n value))
  | some n, none => d.mention n

/-- A text up to the first equals sign, and what comes after it if there is
one. -/
def splitValue : List Char → List Char × Option (List Char)
  | [] => ([], none)
  | '=' :: rest => ([], some rest)
  | c :: rest => (c :: (splitValue rest).1, (splitValue rest).2)

/-- Read a word that begins with no dash: a value if one is awaited, or else a
positional word. -/
def plain (d : Draft) (word : String) : Except Stop Draft :=
  match d.pending with
  | some (p, none) => .ok { d with pending := some (p, some word) }
  | _ => d.position word

def word (d : Draft) (word : String) : Except Stop Draft :=
  if d.onlyPositional then d.position word
  else
    match word.toList with
    | ['-', '-'] => .ok { d with onlyPositional := true }
    | '-' :: '-' :: rest =>
      let (name, value) := splitValue rest
      d.longName (String.ofList name) (value.map String.ofList)
    | '-' :: c :: rest => d.letters (c :: rest)
    | _ => d.plain word

/-- Complete what was read with what is understood where nothing is said. -/
def complete (d : Draft) : Except Stop Arguments :=
  match d.keyFile, d.positionals with
  | some keyFile, [host, service, message] => .ok {
      host, service, message, keyFile
      port := d.port.getD Client.defaultPort
      mechanism := d.mechanism
      name := d.name.getD "tokenseal-client"
      connectTimeout := d.connectTimeout.map .ofSeconds
      ioTimeout := d.ioTimeout.map .ofSeconds
      maxRounds := d.maxRounds.getD Negotiation.defaultMaxRounds
      logLevel := d.logLevel.getD "info"
      delegate := d.switches.contains .delegate
      file := d.switches.contains .file
      sealed := d.switches.contains .sealed
      mutuality := d.switches.contains .mutuality }
  | _, _ => .error (.usage .incomplete)

end Draft

def Arguments.ofWords (words : List String) : Except Stop Arguments := do
  let draft ← words.foldlM Draft.word {}
  (← draft.settle).complete

namespace Arguments

/-- The context flags that are asked for. -/
def flags (a : Arguments) : Flags :=
  (if a.delegate then .of [.delegation] else .empty) |||
    (if a.mutuality then .of [.mutuality] else .empty)

/-- Where to connect, and within which bounds. -/
def config (a : Arguments) : Client.Config where
  host := a.host
  port := a.port
  connectTimeout := a.connectTimeout
  ioTimeout := a.ioTimeout
  maxRounds := a.maxRounds

def request (a : Arguments) : Client.Request where
  service := a.service
  flags := a.flags
  wanted := a.mechanism
  payload := if a.file then .file a.message else .literal a.message
  sealed := a.sealed

end Arguments

end GssContext.Command
