import RepoCollector.CommandLine.Grammar
import RepoCollector.Number.Signed

/-!
# The command line

The program has two commands.  `download`, or `dl` for short, collects the repositories of
organizations; `update` refreshes what the library holds.  `help` shows the help of a command.  Some
options may come from the environment instead.

`CommandLine.ofArguments` reads a whole command line, the program's name first.
-/

namespace RepoCollector

/-- The options of the program and of its commands. -/
inductive OptionName where
  | library
  | workers
  | queueSize
  | jobTimeout
  | printMetrics
  | logLevel
  | orgs
  | token
  | noUpdates
  | noForks
  | noArchived
  | waitNewRepos
  | waitOnRateLimit
  | pollInterval
  | enqueueTimeout
  | stopTimeout
  | help
  | version
deriving DecidableEq, Repr

/-- What every command is told. -/
structure PoolArguments where
  /-- The library's directory. -/
  library : String
  /-- The number of workers; zero means twice the number of processors. -/
  workers : Nat := 0
  queueSize : Nat := 50
  /-- Seconds that one job may take. -/
  jobTimeout : Option Nat := none
  printMetrics : Bool := false
deriving DecidableEq, Repr

/-- What a download is told; times are in seconds. -/
structure DownloadArguments where
  pool : PoolArguments
  orgs : List String
  token : Option String := none
  noUpdates : Bool := false
  noForks : Bool := false
  noArchived : Bool := false
  waitNewRepos : Bool := false
  waitOnRateLimit : Bool := false
  pollInterval : Nat := 3600
  enqueueTimeout : Nat := 5
  stopTimeout : Nat := 10
deriving DecidableEq, Repr

/-- A command with what it is told. -/
inductive Command where
  | download (arguments : DownloadArguments)
  | update (arguments : PoolArguments)
deriving DecidableEq, Repr

/-- A command line that leads to a run. -/
structure CommandLine where
  command : Command
  logLevel : String := "info"
deriving DecidableEq, Repr

namespace CommandLine

/-- A path must not be empty. -/
def checkPath (value : String) : Except UsageFault Unit :=
  if value = "" then .error .invalidValue else .ok ()

/-- A number must fit 64 bits. -/
def checkNumber (value : String) : Except UsageFault Unit :=
  match unsigned64? value.toList with
  | some _ => .ok ()
  | none => .error .valueValidation

/-- An option that takes a number. -/
def numberRule (name : OptionName) (long : String) : OptionRule OptionName :=
  { name, long, shape := .single, check := checkNumber }

/-- An option without a value. -/
def flagRule (name : OptionName) (long : String) : OptionRule OptionName :=
  { name, long, shape := .flag }

def helpRule : OptionRule OptionName :=
  { name := .help, long := "help", letter := some 'h', shape := .request .displayHelp }

def versionRule : OptionRule OptionName :=
  { name := .version, long := "version", letter := some 'V', shape := .request .displayVersion }

/-- The option that may stand before or behind the command's name. -/
def logLevelRule : OptionRule OptionName :=
  { name := .logLevel, long := "log-level", letter := some 'l', shape := .single }

/-- The options before the command's name. -/
def programRules : List (OptionRule OptionName) :=
  [logLevelRule, helpRule, versionRule]

/-- The options of every command. -/
def poolRules : List (OptionRule OptionName) :=
  [{ name := .library, long := "library", shape := .single, check := checkPath,
     fallback := some "GITCOLLECTOR_LIBRARY", required := true },
   { numberRule .workers "workers" with letter := some 'w' },
   numberRule .queueSize "queue-size",
   numberRule .jobTimeout "job-timeout",
   flagRule .printMetrics "print-metrics"]

/-- The options of `update`. -/
def updateRules : List (OptionRule OptionName) :=
  poolRules ++ [logLevelRule, helpRule]

/-- The options of `download`. -/
def downloadRules : List (OptionRule OptionName) :=
  poolRules ++
    [{ name := .orgs, long := "orgs", shape := .many ',', fallback := some "GITCOLLECTOR_ORGS",
       required := true },
     { name := .token, long := "token", shape := .single, fallback := some "GITHUB_TOKEN" },
     flagRule .noUpdates "no-updates",
     flagRule .noForks "no-forks",
     flagRule .noArchived "no-archived",
     flagRule .waitNewRepos "wait-new-repos",
     flagRule .waitOnRateLimit "wait-on-rate-limit",
     numberRule .pollInterval "poll-interval",
     numberRule .enqueueTimeout "enqueue-timeout",
     numberRule .stopTimeout "stop-timeout",
     logLevelRule, helpRule]

/-- A command by itself. -/
inductive CommandName where
  | download
  | update
  | help
deriving DecidableEq, Repr

/-- The command that a word names. -/
def CommandName.ofWord? : String → Option CommandName
  | "download" | "dl" => some .download
  | "update" => some .update
  | "help" => some .help
  | _ => none

/-- The single value of an option. -/
def text? (reading : Reading OptionName) (name : OptionName) : Option String :=
  (reading.values? name).bind (·.head?)

/-- The number that an option gives. -/
def number? (reading : Reading OptionName) (name : OptionName) : Option Nat :=
  (text? reading name).bind fun value => unsigned64? value.toList

/-- Whether an option was given. -/
def isGiven (reading : Reading OptionName) (name : OptionName) : Bool :=
  (reading.values? name).isSome

def poolOf (reading : Reading OptionName) : PoolArguments :=
  let base : PoolArguments := { library := (text? reading .library).getD "" }
  { base with
    workers := (number? reading .workers).getD base.workers
    queueSize := (number? reading .queueSize).getD base.queueSize
    jobTimeout := number? reading .jobTimeout
    printMetrics := isGiven reading .printMetrics }

def downloadOf (reading : Reading OptionName) : DownloadArguments :=
  let base : DownloadArguments :=
    { pool := poolOf reading, orgs := (reading.values? .orgs).getD [] }
  { base with
    token := text? reading .token
    noUpdates := isGiven reading .noUpdates
    noForks := isGiven reading .noForks
    noArchived := isGiven reading .noArchived
    waitNewRepos := isGiven reading .waitNewRepos
    waitOnRateLimit := isGiven reading .waitOnRateLimit
    pollInterval := (number? reading .pollInterval).getD base.pollInterval
    enqueueTimeout := (number? reading .enqueueTimeout).getD base.enqueueTimeout
    stopTimeout := (number? reading .stopTimeout).getD base.stopTimeout }

/-- What is wrong with a request for the help of commands, which is never a run. -/
def helpFault : List String → UsageFault
  | [] => .displayHelp
  | word :: rest =>
    if (CommandName.ofWord? word).isSome && rest.isEmpty then .displayHelp else .invalidSubcommand

/-- What is wrong with a word where the command's name is expected. -/
def strayFault (reading : Reading OptionName) (word : String) : UsageFault :=
  if reading.escaped && (CommandName.ofWord? word).isSome then .unknownArgument
  else .invalidSubcommand

/-- A command with its own arguments.  Its log level wins over one that stands before its name. -/
def ofCommand (environment : List (String × String)) (before : Reading OptionName)
    (name : CommandName) (arguments : List String) : Except UsageFault CommandLine := do
  let (reading, command) ← match name with
    | .help => .error (helpFault arguments)
    | .update =>
      let reading ← Reading.ofArguments updateRules environment arguments
      pure (reading, Command.update (poolOf reading))
    | .download =>
      let reading ← Reading.ofArguments downloadRules environment arguments
      pure (reading, Command.download (downloadOf reading))
  let before ← before.settle
  let logLevel := ((text? reading .logLevel).or (text? before .logLevel)).getD "info"
  return { command, logLevel }

/-- Reads arguments up to the command's name, and the command. -/
def ofWords (environment : List (String × String)) :
    Reading OptionName → List String → Except UsageFault CommandLine
  | reading, [] => do
    let reading ← reading.settle
    .error (if reading.given.isEmpty then .displayHelpInstead else .missingSubcommand)
  | reading, word :: rest => do
    let name := if reading.escaped || reading.awaitsValue then none else CommandName.ofWord? word
    match name with
    | some name => ofCommand environment reading name rest
    | none => ofWords environment (← reading.take programRules (strayFault reading word) word) rest

/-- Reads a command line, the program's name first. -/
def ofArguments (environment : List (String × String)) (arguments : List String) :
    Except UsageFault CommandLine :=
  ofWords environment {} (arguments.drop 1)

end CommandLine

end RepoCollector
