import DungeonScript.Report

/-!
The program: reads the files and variables a command line needs, answers it, and writes
the log to standard error.
-/

namespace DungeonScript

/-- The contents of a file, if it can be read. -/
def readFile? (path : String) : IO (Option ByteArray) := do
  try
    return some (← IO.FS.readBinFile path)
  catch _ =>
    return none

/-- Splits the octets of an environment into its variables, each ended by a zero. -/
def splitEnvironment (octets : ByteArray) : List (String × String) :=
  ((Utf8.decode octets.toList).splitOn "\x00").filterMap fun entry =>
    match entry.splitOn "=" with
    | name :: value :: more => some (name, "=".intercalate (value :: more))
    | _ => none

/-- The variables of the environment. -/
def environment : IO (List (String × String)) := do
  match ← readFile? "/proc/self/environ" with
  | some octets => return splitEnvironment octets
  | none => return []

/-- What an invocation finds around it. -/
def surroundings (i : CommandLine.Invocation) : IO Surroundings := do
  let files ← (i.script :: i.config.toList.flatMap Settings.filePlaces).mapM fun path => do
    return (path, ← readFile? path)
  return ⟨fun path => (files.find? (·.1 == path)).bind (·.2), ← environment⟩

/-- Writes what is left to say when a command line has ended. -/
def conclude (e : Ending) : IO Unit :=
  match e with
  | .done => pure ()
  | .stopped .asked => IO.println CommandLine.help
  | .stopped .misused => IO.eprintln CommandLine.help
  | .failed f => IO.eprintln s!"Error: {f.message}"

end DungeonScript

open DungeonScript

/-- Answers the command line of the program. -/
def main (arguments : List String) : IO UInt32 := do
  let around ← match CommandLine.parse arguments with
    | .ok i => surroundings i
    | .error _ => pure ⟨fun _ => none, []⟩
  let answer := CommandLine.answer around arguments
  for line in answer.log do
    IO.eprintln s!"{line.weight.label} {line.text}"
  conclude answer.ending
  return .ofNat answer.ending.code
