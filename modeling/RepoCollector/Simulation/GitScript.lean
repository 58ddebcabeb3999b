import RepoCollector.Library.Inventory

/-!
# A library with a prepared git

A git program that answers by rules: how a clone of an endpoint goes, how a fetch into a clone goes
and what it says about a clone's URL.  Without a rule every command succeeds.  A clone that git
makes is a directory with a file `origin` that holds the endpoint, and git reads the URL of a clone
from there.

`Library` is a library together with its files and this git, which keeps account of the commands
that it answered.
-/

namespace RepoCollector

/-- How git goes about a command. -/
structure GitRule where
  report : GitReport := {}
  /-- Whether a clone leaves a directory behind; by default it does if it succeeds. -/
  create : Option Bool := none
  /-- Whether the command never ends. -/
  hangs : Bool := false
deriving Repr

/-- The rules of a prepared git. -/
structure GitScript where
  /-- Rules for clones, by endpoint. -/
  clones : List (String × GitRule) := []
  /-- Rules for fetches, by the path of the clone below the library's directory. -/
  fetches : List (String × GitRule) := []
  /-- Rules for questions about a clone, by its path below the library's directory. -/
  origins : List (String × GitRule) := []
  /-- Whether there is no such program at all. -/
  missing : Bool := false
deriving Repr

namespace GitScript

/-- The file in which a clone keeps its URL. -/
def originFile (clone : Place) : Place :=
  clone ++ ["origin".toList]

/-- The rule for a clone at a place. -/
def ruleAt (rules : List (String × GitRule)) (place : Place) : Option GitRule :=
  rules.lookup (String.ofList (Endpoint.joined place))

/-- A clone with its URL is put at a place. -/
def makeClone (files : Files) (endpoint : String) (target : Place) : Files :=
  match files.makeDirectories target with
  | .ok files => files.put (originFile target) (.file endpoint)
  | .error _ => files

/-- What git reads about the URL of a clone. -/
def readOrigin (files : Files) (clone : Place) : GitReport :=
  match files.at? (originFile clone) with
  | some (.file text) => { stdout := text ++ "\n" }
  | _ => { exit := 1 }

/-- What a clone that never ends has made by the time it waits; none if that is there already. -/
def stalled? (script : GitScript) (action : GitAction) (files : Files) : Option Files :=
  match action with
  | .clone endpoint target =>
    let rule := (script.clones.lookup endpoint).getD {}
    if rule.hangs ∧ rule.create.getD (rule.report.exit = 0) ∧ files.at? target = none then
      (files.makeDirectories target).toOption.map fun _ => makeClone files endpoint target
    else none
  | _ => none

/-- What git does for an action and leaves behind; none if it never ends. -/
def answer (script : GitScript) (action : GitAction) (files : Files) :
    Option (GitReport × Files) :=
  match action with
  | .clone endpoint target =>
    let rule := (script.clones.lookup endpoint).getD {}
    if rule.hangs then none
    else if rule.create.getD (rule.report.exit = 0) then
      some (rule.report, makeClone files endpoint target)
    else some (rule.report, files)
  | .refresh _ place =>
    let rule := (ruleAt script.fetches place).getD {}
    if rule.hangs then none else some (rule.report, files)
  | .readOrigin place =>
    match ruleAt script.origins place with
    | some rule => if rule.hangs then none else some (rule.report, files)
    | none => some (readOrigin files place, files)

end GitScript

/-- A library, its files and its git. -/
structure Library where
  config : LibraryConfig
  files : Files := {}
  git : GitScript := {}
  /-- The commands that git answered, the last one first. -/
  commands : List GitCommand := []
deriving Repr

namespace Library

/-- Lets git answer, unless the command never ends. -/
def ask (library : Library) (action : GitAction) : Option (GitReport × Library) :=
  (library.git.answer action library.files).map fun (report, files) =>
    (report,
      { library with files, commands := action.command library.config :: library.commands })

/-- How starting git goes. -/
def launchFault (library : Library) : Option FileFault :=
  if library.git.missing then some .notFound else none

/-- The tag of a staging directory.  One is enough, because git makes a clone at once. -/
def tag : String := "*"

/-- One step of an operation on the library; none if it waits for git or is over.  A clone that
never ends makes its directory first. -/
def operate (library : Library) (cancelled : Bool) (op : Operation) :
    Option (Operation × Library) :=
  let take (library : Library) (surroundings : Surroundings) : Option (Operation × Library) :=
    (op.step library.config surroundings library.files).map fun (op, files) =>
      (op, { library with files })
  match op.phase with
  | .launching _ => take library { fault := library.launchFault }
  | .running task =>
    if cancelled then take library { cancelled }
    else
      match library.ask task.action with
      | some (report, library) => take library { report }
      | none =>
        (library.git.stalled? task.action library.files).map fun files =>
          (op, { library with files })
  | _ => take library { tag }

/-- One step of an inventory of the library; none if it waits for git or is over. -/
def inspect (library : Library) (inventory : Inventory) : Option (Inventory × Library) :=
  match inventory.phase with
  | .launching _ =>
    (inventory.step library.config { fault := library.launchFault } library.files).map
      (·, library)
  | .running place _ =>
    match library.ask (.readOrigin place) with
    | some (report, library) =>
      (inventory.step library.config { report } library.files).map (·, library)
    | none => none
  | _ => (inventory.step library.config {} library.files).map (·, library)

/-- What is put into a library beforehand. -/
inductive Furnishing where
  /-- A clone, with its URL or without. -/
  | clone (place : Place) (origin : Option String)
  | directory (place : Place)
  | file (place : Place)
deriving Repr

/-- Puts something into a library. -/
def furnish (files : Files) : Furnishing → Files
  | .clone place origin =>
    let files := (files.makeDirectories place).toOption.getD files
    origin.elim files fun text => files.put (GitScript.originFile place) (.file text)
  | .directory place => (files.makeDirectories place).toOption.getD files
  | .file place =>
    let files :=
      if place = [] then files else (files.makeDirectories place.dropLast).toOption.getD files
    files.put place (.file "")

end Library

end RepoCollector
