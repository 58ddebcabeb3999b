import RepoCollector.Collection.Basic
import RepoCollector.CommandLine.Usage

/-!
# The program

Reads the command line and the environment.  A command line that leads to no run is answered with a
text; otherwise the program says what the run is made of, or why it fails before it begins.  Git and
the network are not part of the library, so the program makes no step of the run itself.
-/

namespace RepoCollector.Program

/-- The values of the environment variables that options fall back to. -/
def readEnvironment : IO (List (String × String)) := do
  let names := CommandLine.downloadRules.filterMap (·.fallback)
  let values ← names.mapM fun name => return (← IO.getEnv name).map ((name, ·))
  return values.filterMap id

/-- The number of processors that the number of workers follows. -/
def processorCount : Nat := 4

/-- Reads the command line, and answers with a text and a status. -/
def run (arguments : List String) : IO UInt32 := do
  match CommandLine.ofArguments (← readEnvironment) ("gitcollector" :: arguments) with
  | .error fault =>
    if fault.isRequest then IO.println fault.report else IO.eprintln fault.report
    return fault.status
  | .ok line =>
    match Collection.start processorCount line.command with
    | .error error =>
      IO.eprintln ("Error: " ++ "\nCaused by: ".intercalate error.texts)
      return 1
    | .ok _ =>
      IO.println (line.command.plan processorCount)
      return 0

end RepoCollector.Program

def main (arguments : List String) : IO UInt32 :=
  RepoCollector.Program.run arguments
