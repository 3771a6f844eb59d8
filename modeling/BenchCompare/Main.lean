import BenchCompare.CommandLine.Run

/-!
# The executable

Reads the configuration file that the command line names, runs the program and prints what it leaves behind. The
executable has no network and no keyboard of its own, so requests fail and the dashboard does not open.
-/

namespace BenchCompare.CommandLine

/-- The configuration file that a command line names. -/
def configPath? (args : List String) : Option String :=
  match Invocation.ofArguments args with
  | .ok i => i.options.configPath
  | .error _ => none

/-- The bytes of a file, if it can be read. -/
def readFile? (path : String) : IO (Option (List UInt8)) := do
  try
    return some (← IO.FS.readBinFile path).toList
  catch _ => return none

end BenchCompare.CommandLine

open BenchCompare.CommandLine in
def main (args : List String) : IO UInt32 := do
  let path? := configPath? args
  let bytes? ← match path? with
    | some path => readFile? path
    | none => pure none
  let machine : Machine :=
    { file? := fun path => if some path = path? then bytes? else none, network := none, now := "" }
  let output := run machine args
  for line in output.lines do
    IO.println line
  for notice in output.notices do
    IO.eprintln notice.line
  return output.code.toUInt32
