import RepoCollector.Discovery.Updates
import RepoCollector.Metrics.Counts
import RepoCollector.Simulation.Crew
import RepoCollector.Simulation.LibraryRun

/-!
# An updates provider at work

Runs an updates provider over a library and a queue.  If the provider has to wait because the queue
is full, it is cancelled, or the queue is closed, or everything is received until the queue ends.
-/

namespace RepoCollector.UpdatesRun

/-- What happens when the queue is full and the provider waits. -/
inductive WhenFull where
  | nothing
  | cancel
  | close
  | drain
deriving DecidableEq, Repr

/-- The provider, the inventory it works through, the queue and what was received. -/
structure State where
  provider : UpdatesProvider
  inventory : Inventory := {}
  library : Library
  queue : JobQueue LibraryJob
  /-- Whether jobs are reported to a collector. -/
  metrics : Bool := true
  tally : Tally := {}
  /-- The last one first. -/
  received : List LibraryJob := []

/-- The provider, as a client of the queue. -/
def me : Client := .provider 0

/-- Counts a job that was put into the queue. -/
def State.count (s : State) (job : LibraryJob) : State :=
  if s.metrics then { s with tally := s.tally.record ⟨job.kind.label, .discovered⟩ } else s

/-- One step of the inventory, or else of the provider. -/
def step (s : State) : Option State :=
  match s.library.inspect s.inventory with
  | some (inventory, library) => some { s with inventory, library }
  | none =>
    (s.provider.step me s.inventory.result? s.queue).map fun (provider, queue, job) =>
      let s := { s with provider, queue }
      job.elim s s.count

def crew : Crew State where
  now _ := 0
  setNow _ s := s
  clients _ := [me]
  step _ s := step s
  deadlines _ := []

/-- Receives until the queue ends, letting the provider go on after each job. -/
def drain : Nat → State → State
  | 0, s => s
  | fuel + 1, s =>
    match s.queue.tryRecv with
    | (queue, .received job) =>
      drain fuel (crew.settle { s with queue, received := job :: s.received })
    | (queue, _) => { s with queue }

/-- Runs the provider to its end. -/
def run (whenFull : WhenFull) (s : State) : State :=
  let s := crew.settle s
  if s.provider.result?.isSome then s
  else
    match whenFull with
    | .nothing => s
    | .cancel => crew.settle { s with provider := { s.provider with cancelled := true } }
    | .close => crew.settle { s with queue := s.queue.close }
    | .drain => drain (s.library.files.entries.length + 1) s

end RepoCollector.UpdatesRun
