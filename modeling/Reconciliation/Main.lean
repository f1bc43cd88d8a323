import Reconciliation.CommandLine.Execution

/-! # The program

Reads the files that a command line names, runs it and prints what it has to say.
-/

open Reconciliation.CommandLine

/-- The text of a file, if it can be read. -/
def readText? (path : String) : IO (Option String) := do
  try return some (← IO.FS.readFile path) catch _ => return none

def main (words : List String) : IO UInt32 := do
  let names := [Reconciliation.Settings.parallelismVariable .legacy,
    Reconciliation.Settings.parallelismVariable .cloud, Invocation.settingsVariable]
  let settings ← names.filterMapM fun name => do return (← IO.getEnv name).map (name, ·)
  let environment (name : String) : Option String := settings.lookup name
  let paths := ((Invocation.ofWords? environment words).map Invocation.paths).getD []
  let texts ← paths.filterMapM fun path => do return (← readText? path).map (path, ·)
  let ending := Ending.ofWords environment (texts.lookup ·) words
  IO.print ending.text
  match ending with
  | .misused => IO.eprintln "error: the arguments ask for nothing that can be done"
  | .failed failure => IO.eprintln s!"error: {failure.message}"
  | .finished _ => pure ()
  return ending.exitCode.toUInt32
