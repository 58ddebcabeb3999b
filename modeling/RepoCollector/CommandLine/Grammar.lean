import RepoCollector.Text.Cut

/-!
# Reading arguments

A command takes options only.  An option has a long name behind two dashes and perhaps a letter
behind one; its value follows as the next argument, behind an equals sign, or at once behind the
letter.  Letters of options without a value can be run together.

`Reading` is what has been read of the arguments.  The value of an option is looked at when the next
option is met or the arguments end, not when it is read; so an unknown argument behind a bad value
is what is reported.
-/

namespace RepoCollector

/-- Why a command line leads to no run. -/
inductive UsageFault where
  | missingRequiredArgument
  | unknownArgument
  | invalidSubcommand
  | missingSubcommand
  /-- A value is missing, or empty where it must not be. -/
  | invalidValue
  /-- A value is not a number. -/
  | valueValidation
  /-- An option is given twice. -/
  | argumentConflict
  /-- A value for an option that takes none. -/
  | tooManyValues
  | displayHelp
  | displayVersion
  /-- Nothing was given at all, so help is shown. -/
  | displayHelpInstead
deriving DecidableEq, Repr

/-- The name of what is wrong. -/
def UsageFault.name : UsageFault → String
  | .missingRequiredArgument => "MissingRequiredArgument"
  | .unknownArgument => "UnknownArgument"
  | .invalidSubcommand => "InvalidSubcommand"
  | .missingSubcommand => "MissingSubcommand"
  | .invalidValue => "InvalidValue"
  | .valueValidation => "ValueValidation"
  | .argumentConflict => "ArgumentConflict"
  | .tooManyValues => "TooManyValues"
  | .displayHelp => "DisplayHelp"
  | .displayVersion => "DisplayVersion"
  | .displayHelpInstead => "DisplayHelpOnMissingArgumentOrSubcommand"

/-- What an option takes. -/
inductive OptionShape where
  /-- Nothing; it may be given once. -/
  | flag
  /-- A value; it may be given once. -/
  | single
  /-- Values with a separator between them; it may be given any number of times. -/
  | many (separator : Char)
  /-- Nothing; it asks for something else than a run. -/
  | request (answer : UsageFault)
deriving DecidableEq, Repr

/-- Whether an option takes a value. -/
def OptionShape.takesValue : OptionShape → Bool
  | .single | .many _ => true
  | .flag | .request _ => false

/-- An option known to its name. -/
structure OptionRule (α : Type) where
  name : α
  long : String
  letter : Option Char := none
  shape : OptionShape
  /-- Looks at a value. -/
  check : String → Except UsageFault Unit := fun _ => .ok ()
  /-- The environment variable that stands in for the option. -/
  fallback : Option String := none
  required : Bool := false

/-- What has been read of the arguments of a command. -/
structure Reading (α : Type) where
  /-- The options given so far, with their values. -/
  given : List (α × List String) := []
  /-- The last option, while its value is missing or was not looked at. -/
  pending : Option (OptionRule α × Option String) := none
  /-- Whether two dashes alone have been read. -/
  escaped : Bool := false

namespace Reading

variable {α : Type} [DecidableEq α]

/-- The values of an option. -/
def values? (reading : Reading α) (name : α) : Option (List String) :=
  reading.given.lookup name

/-- Whether the next argument is the value of the last option, whatever it looks like. -/
def awaitsValue (reading : Reading α) : Bool :=
  reading.pending.any (·.2.isNone)

/-- Takes an option with its values into account. -/
def store (reading : Reading α) (rule : OptionRule α) (value : Option String) :
    Except UsageFault (Reading α) := do
  let before := reading.values? rule.name
  let values ← match rule.shape with
    | .request answer => .error answer
    | .flag | .single =>
      if before.isSome then .error .argumentConflict else .ok value.toList
    | .many separator =>
      .ok (value.elim [] fun text => (Text.pieces separator text.toList).map String.ofList)
  values.forM rule.check
  let others := reading.given.filter (·.1 ≠ rule.name)
  return { reading with given := others ++ [(rule.name, before.getD [] ++ values)] }

/-- Looks at the value of the last option. -/
def settle (reading : Reading α) : Except UsageFault (Reading α) :=
  match reading.pending with
  | none => .ok reading
  | some (_, none) => .error .invalidValue
  | some (rule, some value) => store { reading with pending := none } rule (some value)

/-- An option whose value, if it takes one, is known. -/
def complete (reading : Reading α) (rule : OptionRule α) (value : Option String) :
    Except UsageFault (Reading α) := do
  (← reading.settle).store rule value

/-- An option whose value comes next. -/
def await (reading : Reading α) (rule : OptionRule α) : Except UsageFault (Reading α) := do
  return { ← reading.settle with pending := some (rule, none) }

/-- Reads an argument that begins with two dashes. -/
def takeLong (rules : List (OptionRule α)) (body : List Char) (reading : Reading α) :
    Except UsageFault (Reading α) :=
  let (name, value) := match Text.cutAtChar '=' body with
    | some (name, value) => (name, some (String.ofList value))
    | none => (body, none)
  match rules.find? (·.long.toList = name), value with
  | none, _ => .error .unknownArgument
  | some rule, none =>
    if rule.shape.takesValue then reading.await rule else reading.complete rule none
  | some rule, some value =>
    if rule.shape.takesValue then reading.complete rule (some value) else .error .tooManyValues

/-- Reads the letters behind one dash. -/
def takeLetters (rules : List (OptionRule α)) :
    List Char → Reading α → Except UsageFault (Reading α)
  | [], reading => .ok reading
  | letter :: rest, reading =>
    match rules.find? (·.letter = some letter) with
    | none => .error .unknownArgument
    | some rule =>
      if rule.shape.takesValue then
        match rest with
        | [] => reading.await rule
        | '=' :: value => reading.complete rule (some (String.ofList value))
        | value => reading.complete rule (some (String.ofList value))
      else do takeLetters rules rest (← reading.complete rule none)

/-- Reads an argument that is no option: the value of the last one, or nothing that `stray` lets
pass. -/
def takeWord (stray : UsageFault) (word : String) (reading : Reading α) :
    Except UsageFault (Reading α) :=
  match reading.escaped, reading.pending with
  | false, some (rule, none) => .ok { reading with pending := some (rule, some word) }
  | _, _ => .error stray

/-- Reads one argument.  `stray` is what is wrong with an argument that has no place. -/
def take (rules : List (OptionRule α)) (stray : UsageFault) (argument : String)
    (reading : Reading α) : Except UsageFault (Reading α) :=
  if reading.escaped then reading.takeWord stray argument
  else
    match argument.toList with
    | ['-', '-'] => .ok { reading with escaped := true }
    | '-' :: '-' :: body => reading.takeLong rules body
    | '-' :: letter :: rest => reading.takeLetters rules (letter :: rest)
    | _ => reading.takeWord stray argument

/-- Fills in options that were not given from the environment. -/
def fallBack (rules : List (OptionRule α)) (environment : List (String × String))
    (reading : Reading α) : Except UsageFault (Reading α) :=
  rules.foldlM (fun reading rule =>
    match reading.values? rule.name, rule.fallback.bind (List.lookup · environment) with
    | none, some value => reading.store rule (some value)
    | _, _ => .ok reading) reading

/-- Looks at the last option, then at the environment, then at what is required. -/
def close (rules : List (OptionRule α)) (environment : List (String × String))
    (reading : Reading α) : Except UsageFault (Reading α) := do
  let reading ← (← reading.settle).fallBack rules environment
  if rules.all fun rule => !rule.required || (reading.values? rule.name).isSome then
    return reading
  else .error .missingRequiredArgument

/-- Reads all arguments of a command. -/
def ofArguments (rules : List (OptionRule α)) (environment : List (String × String))
    (arguments : List String) : Except UsageFault (Reading α) := do
  let reading ← arguments.foldlM
    (fun reading argument => reading.take rules .unknownArgument argument) ({} : Reading α)
  reading.close rules environment

end Reading

end RepoCollector
