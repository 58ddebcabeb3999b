import RepoCollector.Collection.Basic
import RepoCollector.Simulation.Crew
import RepoCollector.Simulation.GitScript
import RepoCollector.Simulation.PageServer

/-!
# A command at work

Runs a command on a library with a prepared git and a server of listings.  The command can be
interrupted when a number of requests and git commands have been made and everybody waits.
-/

namespace RepoCollector.CollectionRun

/-- When and how often the command is interrupted. -/
structure Interrupt where
  /-- The requests that must have been made. -/
  requests : Nat := 0
  /-- The git commands that must have been answered. -/
  commands : Nat := 0
  times : Nat := 1
deriving Repr

/-- The command, everything around it, and the clock. -/
structure State where
  now : Instant := 0
  collection : Collection
  library : Library
  server : PageServer
  /-- The listing of each gatherer. -/
  listings : List OrgListing
  inventory : Inventory := {}
  /-- The operations of workers. -/
  operations : List (Nat × Operation) := []
  /-- Whether an interrupt has come and was not noticed yet. -/
  interrupted : Bool := false

/-- A step of the collection that is told the given tidings. -/
def State.tell (s : State) (client : Client) (tidings : Tidings) : Option State :=
  (s.collection.step s.now client tidings).map fun collection => { s with collection }

/-- One step of the command.  An interrupt that lets it go on is used up. -/
def stepCommand (s : State) : Option State :=
  match s.tell Collection.command {} with
  | some s => some s
  | none =>
    if s.interrupted then
      { s with interrupted := false }.tell Collection.command { interrupted := true }
    else none

/-- One step of a gatherer, whose listing is asked when it waits for an answer. -/
def stepGatherer (index : Nat) (s : State) : Option State :=
  match s.collection.gatherers[index]?, s.listings[index]? with
  | some { provider := { phase := .asking, .. }, .. }, some listing =>
    let (server, after, answer) := s.server.serve false listing
    { s with server, listings := s.listings.set index after }.tell (.provider index)
      { repository := some answer }
  | _, _ => s.tell (.provider index) {}

/-- Whether the updates provider waits for the inventory. -/
def needsInventory (s : State) : Bool :=
  match s.collection.updates with
  | some { phase := .listing, .. } => true
  | _ => false

/-- One step of the inventory, or else of the updates provider. -/
def stepUpdates (s : State) : Option State :=
  if needsInventory s then
    match s.library.inspect s.inventory with
    | some (inventory, library) => some { s with inventory, library }
    | none => s.tell Collection.updater { inventory := s.inventory.result? }
  else s.tell Collection.updater {}

/-- A step of a worker whose work has the given answer; work that is over, or whose job ran out of
time, is gone. -/
def State.answer (s : State) (index : Nat) (work : Option JobResult) : Option State :=
  (s.tell (.worker index) { work }).map fun s =>
    { s with operations := s.operations.filter (·.1 ≠ index) }

/-- One step of a worker, or of the operation that it is at. -/
def stepWorker (index : Nat) (s : State) : Option State :=
  match (s.collection.pool.workers[index]?).bind (·.job?) with
  | none => s.tell (.worker index) {}
  | some job =>
    match s.operations.lookup index with
    | none =>
      match job.ready? with
      | .error error => s.answer index (some (.error error))
      | .ok lane =>
        some { s with operations := (index, .start lane job.endpoints) :: s.operations }
    | some op =>
      match op.result? with
      | some result => s.answer index (some (JobResult.ofLibrary result))
      | none =>
        match s.library.operate s.collection.pool.cancelled op with
        | some (op, library) =>
          let others := s.operations.filter (·.1 ≠ index)
          some { s with library, operations := (index, op) :: others }
        | none => s.answer index none

def crew : Crew State where
  now s := s.now
  setNow now s := { s with now }
  clients s :=
    s.collection.pool.source.download.due ++ s.collection.pool.source.update.due ++
      [Collection.command, Collection.updater] ++
      (List.range s.collection.pool.workers.length).map .worker ++
      (List.range s.collection.gatherers.length).map .provider
  step
    | .task 0, s => stepCommand s
    | .task _, s => stepUpdates s
    | .provider index, s => stepGatherer index s
    | .worker index, s => stepWorker index s
  deadlines s := s.collection.deadlines

/-- Whether the command is over. -/
def isOver (s : State) : Bool := s.collection.outcome?.isSome

/-- The pause after an interrupt. -/
def pause : Nat := 10

/-- Interrupts the command a number of times.  An interrupt that nobody notices is lost. -/
def press : Nat → State → State
  | 0, s => s
  | times + 1, s =>
    let s := crew.settle { s with interrupted := true }
    press times (crew.runUntil (s.now + pause) { s with interrupted := false })

/-- Whether enough has happened for the interrupt. -/
def Interrupt.isDue (interrupt : Interrupt) (s : State) : Bool :=
  interrupt.requests ≤ s.server.requests.length && interrupt.commands ≤ s.library.commands.length

/-- Runs a command until it is over, or until a moment that it has to be over by. -/
def run (interrupt : Option Interrupt) (limit : Instant) (s : State) : State :=
  match interrupt with
  | none => crew.waitFor isOver limit s
  | some interrupt =>
    let s := crew.waitFor (fun s => isOver s || interrupt.isDue s) limit s
    if isOver s then s else crew.waitFor isOver limit (press interrupt.times s)

end RepoCollector.CollectionRun
