/-
The program: its words and one variable in, its exit code out.
-/
import GssContext.Command.Run
import GssContext.Host.Network

set_option autoImplicit false

open GssContext

/-- Read the words, and run the session that they ask for. -/
def main (words : List String) : IO UInt32 := do
  let ended ← match Command.Arguments.ofWords words with
    | .error stop => pure stop.exit
    | .ok arguments =>
      match Command.LogFilter.choose (← IO.getEnv "RUST_LOG") arguments.logLevel with
      | ⟨said, none⟩ => pure (Command.broken said)
      | ⟨said, some filter⟩ =>
        IO.eprint (String.join said)
        let session := Command.perform Host.environment Host.surroundings Host.network.connector
          arguments
        session.run filter
  IO.print ended.output
  IO.eprint ended.complaint
  return ended.code
