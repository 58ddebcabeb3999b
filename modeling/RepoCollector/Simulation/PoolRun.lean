import RepoCollector.Pool.Basic
import RepoCollector.Simulation.Crew

/-!
# A pool at work

Runs a pool over the two lanes through events at given times.  The work of a job is prepared: it
takes a time, ends with a prepared outcome, and gives up when it is told to unless it is deaf.  What
the work does is kept in a log.
-/

namespace RepoCollector.PoolRun

/-- How the work of a job goes. -/
structure Prepared where
  millis : Nat := 0
  failure : Option JobError := none
  /-- Whether it ignores that it is told to give up. -/
  deaf : Bool := false
deriving Repr

/-- What a line of the log says of a job. -/
inductive Note where
  | started
  | ended
  | cancelled
deriving DecidableEq, Repr

def Note.label : Note → String
  | .started => "start"
  | .ended => "end"
  | .cancelled => "cancelled"

/-- A line of the log; a job is known by its first endpoint. -/
structure Line where
  note : Note
  lane : JobKind
  job : String
  now : Instant
deriving Repr

/-- The work of a worker's job. -/
structure Work where
  lane : JobKind
  job : String
  endsAt : Instant
  prepared : Prepared
deriving Repr

/-- An event. -/
inductive Event where
  | run
  | send (lane : JobKind) (job : LibraryJob)
  | close (lane : JobKind)
  | setWorkers (count : Nat)
  | stop (immediate : Bool)
  | wait (within : Nat)
  | stats
deriving Repr

inductive Answer where
  | ok
  | refused (error : RunError)
  | sent
  | notSent (fault : SendFault) (job : LibraryJob)
  | nothing
  | drained
  | stillRunning
  | stats (stats : PoolStats) (running : Bool)
deriving Repr

structure Step where
  answer : Answer
  now : Instant
  sizes : Nat × Nat
deriving Repr

/-- The pool, the work in progress, the log and the clock. -/
structure State where
  now : Instant := 0
  pool : Pool Lanes Attempt
  prepared : List (String × Prepared)
  /-- The work of each worker's job. -/
  works : List (Nat × Work) := []
  /-- The last line first. -/
  log : List Line := []
  tally : Tally := {}

/-- Adds a line to the log. -/
def State.note (s : State) (note : Note) (lane : JobKind) (job : String) : State :=
  { s with log := ⟨note, lane, job, s.now⟩ :: s.log }

/-- Takes over a step of the pool. -/
def State.take (s : State) (step : Option (Pool Lanes Attempt × Option Report)) : Option State :=
  step.map fun (pool, report) =>
    { s with pool, tally := report.elim s.tally s.tally.record }

/-- A step of the pool in which a worker's work has the given answer; work that is over, or whose
job ran out of time, is gone. -/
def State.answer (s : State) (index : Nat) (answer : Option JobResult) : Option State :=
  (s.take (s.pool.stepWorker Lanes.policy s.now index answer {})).map fun s =>
    { s with works := s.works.filter (·.1 ≠ index) }

/-- Begins the work of a worker's job, or ends the job if it has none. -/
def startWork (index : Nat) (job : LibraryJob) (s : State) : Option State :=
  match job.ready? with
  | .error error => s.answer index (some (.error error))
  | .ok lane =>
    let name := job.endpoint?.getD ""
    let prepared := (s.prepared.lookup name).getD {}
    let work := { lane, job := name, endsAt := s.now + prepared.millis, prepared }
    some ({ s with works := (index, work) :: s.works }.note .started lane name)

/-- Takes the work of a worker's job further.  A cancellation is noticed before the end. -/
def stepWork (index : Nat) (work : Work) (s : State) : Option State :=
  if s.pool.cancelled && !work.prepared.deaf then
    (s.note .cancelled work.lane work.job).answer index (some (.error .cancelled))
  else if work.endsAt ≤ s.now then
    let result : JobResult := match work.prepared.failure with
      | some error => .error error
      | none => .ok ()
    (s.note .ended work.lane work.job).answer index (some result)
  else s.answer index none

/-- One step of a worker. -/
def stepWorker (index : Nat) (s : State) : Option State :=
  match (s.pool.workers[index]?).bind (·.job?) with
  | some job =>
    match s.works.lookup index with
    | some work => stepWork index work s
    | none => startWork index job s
  | none => s.take (s.pool.stepWorker Lanes.policy s.now index none {})

def crew : Crew State where
  now s := s.now
  setNow now s := { s with now }
  clients s :=
    s.pool.source.download.due ++ s.pool.source.update.due ++
      (List.range s.pool.workers.length).map .worker
  step
    | .worker index, s => stepWorker index s
    | _, _ => none
  deadlines s :=
    s.pool.workers.filterMap (Pool.deadline? Lanes.policy) ++ s.works.map (·.2.endsAt)

/-- Waits for a while for the pool to be drained. -/
def awaitDrained (within : Nat) (s : State) : State :=
  if s.pool.isDrained then s else crew.waitFor (·.pool.isDrained) (s.now + within) s

/-- Sends a job if there is a slot for it. -/
def send (lane : JobKind) (job : LibraryJob) (s : State) : State × Except SendFault Unit :=
  let (q, answer) := (s.pool.source.queue lane).trySend (.task 0) job
  ({ s with pool := { s.pool with source := s.pool.source.setQueue lane q } }, answer)

def close (lane : JobKind) (s : State) : State :=
  { s with pool := { s.pool with source := s.pool.source.modify lane (·.close) } }

/-- Makes one event happen. -/
def perform (event : Event) (s : State) : State × Answer :=
  match event with
  | .run =>
    match s.pool.run true with
    | (pool, .ok ()) => ({ s with pool }, .ok)
    | (pool, .error error) => ({ s with pool }, .refused error)
  | .send lane job =>
    match send lane job s with
    | (s, .ok ()) => (s, .sent)
    | (s, .error fault) => (s, .notSent fault job)
  | .close lane => (close lane s, .nothing)
  | .setWorkers count => ({ s with pool := s.pool.setWorkers count }, .nothing)
  | .stop immediate => ({ s with pool := s.pool.stop immediate }, .nothing)
  | .wait within =>
    let s := awaitDrained within s
    (s, if s.pool.isDrained then .drained else .stillRunning)
  | .stats => (s, .stats s.pool.stats s.pool.running)

def sizes (s : State) : Nat × Nat :=
  (s.pool.source.download.size, s.pool.source.update.size)

/-- Makes events happen at their times, one whose time has passed at once. -/
def performAll (events : List (Instant × Event)) (s : State) : State × List Step :=
  let (s, steps) := events.foldl (fun (s, steps) (moment, event) =>
    let (s, answer) := perform event (crew.runUntil moment s)
    let step : Step := { answer, now := s.now, sizes := sizes s }
    (s, step :: steps)) (s, ([] : List Step))
  (s, steps.reverse)

/-- Fills the lanes, closes some, makes the events happen and waits for the pool. -/
def run (pool : Pool Lanes Attempt) (prepared : List (String × Prepared))
    (jobs : List (JobKind × LibraryJob)) (closed : List JobKind)
    (events : List (Instant × Event)) (limit : Nat) : State × List Step :=
  let s : State := { pool, prepared }
  let s := jobs.foldl (fun s (lane, job) => (send lane job s).1) s
  let s := closed.foldl (fun s lane => close lane s) s
  let (s, steps) := performAll events s
  (awaitDrained limit s, steps)

end RepoCollector.PoolRun
