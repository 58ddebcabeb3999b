import RepoCollector.CommandLine.Arguments

/-!
# Usage

What the program says about a command line that leads to no run, and the status that it ends with.
-/

namespace RepoCollector

namespace CommandLine

/-- The line of help for an option. -/
def helpLine (rule : OptionRule OptionName) : String :=
  let letter := rule.letter.elim "    " fun letter => "-" ++ letter.toString ++ ", "
  let value := if rule.shape.takesValue then " <VALUE>" else ""
  let needed := if rule.required then " (required)" else ""
  let fallback := rule.fallback.elim "" fun name => " [env: " ++ name ++ "]"
  "  " ++ letter ++ "--" ++ rule.long ++ value ++ needed ++ fallback

/-- A paragraph of help: a title and the options under it. -/
def helpBlock (title : String) (rules : List (OptionRule OptionName)) : String :=
  "\n".intercalate (title :: rules.map helpLine)

/-- The help of the program. -/
def help : String :=
  "\n\n".intercalate
    ["Usage: gitcollector [OPTIONS] <download|update|help> [OPTIONS]",
     helpBlock "Options:" programRules,
     helpBlock "Options of download:" downloadRules,
     helpBlock "Options of update:" updateRules]

def version : String := "gitcollector 0.1.0"

end CommandLine

namespace UsageFault

/-- Whether the user asked for nothing but a text. -/
def isRequest : UsageFault → Bool
  | .displayHelp | .displayVersion => true
  | _ => false

/-- What the program says. -/
def report : UsageFault → String
  | .displayHelp | .displayHelpInstead => CommandLine.help
  | .displayVersion => CommandLine.version
  | fault => "error: " ++ fault.name ++ "\n\nFor more information, try '--help'."

/-- The status that the program ends with. -/
def status (fault : UsageFault) : UInt32 :=
  if fault.isRequest then 0 else 2

end UsageFault

end RepoCollector
