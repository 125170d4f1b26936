/-
Which lines of the journal are shown, and how.

A filter is a list of rules with commas between them. Of the rules that are
about a line, the one with the longest name of a part decides; of two with the
same name the one that asks for a value, of two that do so the one whose
value's name comes last, and of two about the same lines the later one. A line
that no rule is about is not shown.

The filter of the command line is read leniently: what is no rule is left out,
and where nothing is left errors are shown. The filter of the environment
stands only if all of it can be read, and it may be empty. What is left out of
the first one is told, and a rule that is cut inside a character ends the
program.
-/
import GssContext.Command.LogRule
import GssContext.Duration
import GssContext.Text.Quoted

set_option autoImplicit false

namespace GssContext.Command

/-- The rules, in the order in which they are written. -/
structure LogFilter where
  rules : List Rule := []
  deriving DecidableEq

namespace LogFilter

/-! ## Reading -/

/-- The texts between commas, the empty ones left out. -/
def parts (text : String) : List (List Char) :=
  (Text.fields ',' text.toList).filter fun part => !part.isEmpty

/-- The filter that shows errors. -/
def errors : LogFilter := ⟨[{ threshold := some .error }]⟩

/-- What was said while a filter was read, and the filter, if the program can go
on. -/
structure Reading (α : Type) where
  said : List String := []
  result : Option α

/-- What is said about a rule that is cut inside a character. -/
def brokenText : String := Fault.insideCharacter.message ++ "\n"

/-- What is said about a rule that is left out. -/
def ignoredText (part : List Char) (fault : Fault) : String :=
  "ignoring `" ++ String.ofList part ++ "`: " ++ fault.message ++ "\n"

/-- The rules in some texts, without what cannot be read. -/
def readable : List (List Char) → Reading (List Rule)
  | [] => { result := some [] }
  | part :: rest =>
    match Rule.ofText part with
    | .ok rule =>
      let later := readable rest
      { later with result := later.result.map (rule :: ·) }
    | .error .insideCharacter => { said := [brokenText], result := none }
    | .error fault =>
      let later := readable rest
      { later with said := ignoredText part fault :: later.said }

/-- The filter of a text that need not be in order. -/
def ofReadable (text : String) : Reading LogFilter :=
  let rules := readable (parts text)
  { rules with result := rules.result.map fun r => if r.isEmpty then errors else ⟨r⟩ }

/-- The rules that some texts stand for, or the first fault in them. -/
def strict (parts : List (List Char)) : Except Fault (List Rule) := parts.mapM Rule.ofText

/-- The filter of a run: the environment's if it has one that can be read, and
otherwise that of the command line. -/
def choose (fromEnvironment : Option String) (fromArguments : String) : Reading LogFilter :=
  match fromEnvironment.map fun text => strict (parts text) with
  | some (.ok rules) => { result := some ⟨rules⟩ }
  | some (.error .insideCharacter) => { said := [brokenText], result := none }
  | some (.error _) | none => ofReadable fromArguments

/-! ## Deciding -/

def deciding? (f : LogFilter) (line : LogLine) : Option Rule :=
  (f.rules.filter fun r => r.isAbout line).foldl (fun best r =>
    match best with
    | none => some r
    | some b => if b.yields r then some r else some b) none

def passes (f : LogFilter) (line : LogLine) : Bool :=
  (f.deciding? line).any fun r => shows r.threshold line.level

end LogFilter

/-! ## Writing

A line is one row: the moment, its level, the part that speaks, the message and
the named values. A message can quote a name that came from elsewhere, so the
characters in it that a terminal obeys are written as numbers, but the ends of
lines are not. -/

/-- A character of a message. The bell, the backspace, the form feed, the
escape character and the delete character are written with two digits, and the
controls above ASCII in braces. -/
def messageChar (c : Char) : List Char :=
  if c ∈ ['\x07', '\x08', '\x0c', '\x1b', '\x7f'] then
    '\\' :: 'x' :: (Hex.encode [UInt8.ofNat c.toNat]).toList
  else if '\u0080' ≤ c ∧ c ≤ '\u009f' then Text.numbered c
  else [c]

def levelText (level : Level) : String :=
  String.ofList (List.replicate (5 - level.name.length) ' ') ++ level.name

def lineText (moment : Instant) (line : LogLine) : String :=
  line.fields.foldl (fun t f => t ++ " " ++ f.1 ++ "=" ++ f.2)
    (moment.since.debug ++ " " ++ levelText line.level ++ " " ++ line.source ++ ": " ++
      String.ofList (line.message.toList.flatMap messageChar)) ++ "\n"

end GssContext.Command
