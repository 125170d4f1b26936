/-
The whole program, run in memory.

Everything that the program takes from the system it runs on is given: the
words after its name, the variable that chooses what is logged, the files, the
time, the randomness and the network. What it leaves can then be looked at.
-/
import GssContext.Command.Run
import GssContext.Rehearsal.Files
import GssContext.Rehearsal.Loopback

set_option autoImplicit false

namespace GssContext.Rehearsal

open GssContext.Command

structure Program where
  words : List String
  /-- The variable that chooses what is logged, if it is set. -/
  logVariable : Option String := none
  files : Files
  env : Simulated
  network : Loopback

structure Ended where
  exit : Exit
  /-- The lines of the journal that are shown. -/
  lines : List LogLine := []
  network : Loopback

/-- All that is written about the run: what was complained of, and the journal. -/
def Ended.report (e : Ended) : String :=
  e.exit.complaint ++ String.join (e.lines.map (lineText ⟨.zero⟩))

/-- A line without the sign that ends it beside the line feed, if it is there. -/
def bareLine (line : List Char) : List Char :=
  if line.getLast? = some '\r' then line.dropLast else line

/-- A line that begins as a usage error does, or one that is a warning or an
error behind its moment, which ends with the first space. -/
def trouble? (line : List Char) : Option (List Char) :=
  let later := (line.dropWhile (· != ' ')).dropWhile Text.isBlank
  if "error:".toList.isPrefixOf line then some line
  else if "WARN ".toList.isPrefixOf later || "ERROR ".toList.isPrefixOf later then some later
  else none

/-- The lines of the report that tell of troubles, without their moments. -/
def Ended.troubles (e : Ended) : List String :=
  (((Text.fields '\n' e.report.toList).map bareLine).filterMap trouble?).map String.ofList

namespace Program

variable {ε : Type}

/-- The time and the randomness. No two readings of the clock are the same. -/
def environment : Environment (Action ε (Simulated × Loopback)) where
  now := do
    Action.update fun (env, network) => (env.advance ⟨1⟩, network)
    return (← Action.state).1.now
  draw := (Simulated.environment.hoist Action.onFst).draw

def surroundings (p : Program) : Client.Surroundings (Action ε (Simulated × Loopback)) where
  readFile path := pure (p.files.read path)
  now := environment.now

def run (p : Program) : Ended :=
  match Arguments.ofWords p.words with
  | .error stop => { exit := stop.exit, network := p.network }
  | .ok arguments =>
    match LogFilter.choose p.logVariable arguments.logLevel with
    | ⟨said, none⟩ => { exit := broken said, network := p.network }
    | ⟨said, some filter⟩ =>
      let o : Outcome Event (Simulated × Loopback) Exit :=
        perform environment p.surroundings Loopback.connector arguments (p.env, p.network)
      { exit := { o.value with complaint := String.join said }
        lines := o.lines.filter filter.passes, network := o.state.2 }

end Program

end GssContext.Rehearsal
