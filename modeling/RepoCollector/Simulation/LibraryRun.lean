import RepoCollector.Simulation.GitScript

/-!
# A library at work

Runs downloads, updates and questions on a library with a prepared git, one after the other.  An
operation that is told to give up beforehand finds that git never ends by itself.
-/

namespace RepoCollector.LibraryRun

/-- What is done with the library. -/
inductive Op where
  | work (kind : JobKind) (endpoints : List String) (cancelled : Bool)
  | contains (endpoint : String)
  | path (endpoint : String)
  | repositories
deriving Repr

inductive Answer where
  | done (result : Except LibraryError Unit)
  | present (result : Except LibraryError Bool)
  | path (result : Except LibraryError String)
  | urls (result : Except LibraryError (List String))
  /-- Git never ended. -/
  | waiting
deriving Repr

/-- An answer, the commands that git answered for it, and the files then. -/
structure Step where
  answer : Answer
  commands : List GitCommand
  files : Files
deriving Repr

/-- Runs an operation to its end. -/
def runOperation (cancelled : Bool) : Nat → Library → Operation → Library × Operation
  | 0, library, op => (library, op)
  | fuel + 1, library, op =>
    match library.operate cancelled op with
    | some (op, library) => runOperation cancelled fuel library op
    | none => (library, op)

/-- Runs an inventory to its end. -/
def runInventory : Nat → Library → Inventory → Library × Inventory
  | 0, library, inventory => (library, inventory)
  | fuel + 1, library, inventory =>
    match library.inspect inventory with
    | some (inventory, library) => runInventory fuel library inventory
    | none => (library, inventory)

/-- The inventory of a library. -/
def inventory (library : Library) : Library × Option (Except LibraryError (List String)) :=
  let (library, inventory) := runInventory (2 * library.files.entries.length + 2) library {}
  (library, inventory.result?)

/-- Whether a library has the clone for an endpoint. -/
def contains? (library : Library) (endpoint : String) : Except LibraryError Bool :=
  match Endpoint.clonePath? endpoint with
  | .error error => .error error
  | .ok place =>
    match library.files.contains? place with
    | .ok present => .ok present
    | .error fault => .error (.io fault)

/-- Does one thing with the library. -/
def perform (op : Op) (library : Library) : Library × Answer :=
  match op with
  | .work kind endpoints cancelled =>
    let op := Operation.start kind endpoints
    let (library, op) := runOperation cancelled op.stepBound library op
    (library, op.result?.elim .waiting .done)
  | .contains endpoint => (library, .present (contains? library endpoint))
  | .path endpoint => (library, .path (repositoryPath library.config.root endpoint))
  | .repositories =>
    let (library, urls) := inventory library
    (library, urls.elim .waiting .urls)

/-- Does one thing after the other. -/
def run (library : Library) (script : List Op) : List Step :=
  (script.foldl (fun (library, steps) op =>
    let (library, answer) := perform op { library with commands := [] }
    let step : Step := { answer, commands := library.commands.reverse, files := library.files }
    (library, step :: steps)) (library, ([] : List Step))).2.reverse

end RepoCollector.LibraryRun
