import RepoCollector.Metrics.Counts
import RepoCollector.Pool.Stats
import RepoCollector.Schedule.Scheduler

/-!
# The worker pool

Workers ask the scheduler for jobs and process them.  The number of workers can be changed at any
time: missing workers are added at once, and a surplus worker retires when it is between two jobs.
The workers leave for good when the scheduler has nothing more for them.

`Pool.stepWorker` is one step of one worker.  What the step cannot know is given to it: the answer
of the work that the worker's job consists of, if that has ended, and what chance decides.  A worker
goes from one phase to another within a step, so a job is either in a queue or in the hands of a
worker that processes it.
-/

namespace RepoCollector

/-- The pool's settings. -/
structure PoolConfig where
  workers : Nat := 4
  /-- How long one job may take. -/
  jobTimeout : Option Duration := none
deriving DecidableEq, Repr

/-- Why a pool cannot be started. -/
inductive RunError where
  | alreadyRunning
  /-- There is nothing for the workers to run on. -/
  | noRuntime
deriving DecidableEq, Repr

/-- The name of the kind of failure. -/
def RunError.name : RunError → String
  | .alreadyRunning => "AlreadyRunning"
  | .noRuntime => "NoRuntime"

def RunError.message : RunError → String
  | .alreadyRunning => "Pool is already running"
  | .noRuntime => "Worker pool must be started inside a tokio runtime"

/-- What a worker is doing. -/
inductive WorkerPhase (κ : Type) where
  /-- It is between two jobs and about to look whether it is needed. -/
  | between
  /-- It waits for its next job. -/
  | asking (request : JobRequest κ)
  /-- It processes a job. -/
  | working (job : LibraryJob) (deadline : Option Instant)
  /-- It left because the pool was made smaller. -/
  | retired
  /-- It left because there was nothing more for it. -/
  | exited
deriving Repr

/-- A worker. -/
structure Worker (κ : Type) where
  phase : WorkerPhase κ := .between
  /-- How many changes of the pool's size the worker has seen. -/
  seen : Nat
deriving Repr

namespace Worker

variable {κ : Type}

/-- Whether the worker has left. -/
def isGone (worker : Worker κ) : Bool :=
  match worker.phase with
  | .retired | .exited => true
  | _ => false

/-- The job in the worker's hands. -/
def job? (worker : Worker κ) : Option LibraryJob :=
  match worker.phase with
  | .working job _ => some job
  | _ => none

end Worker

/-- What chance decides in a step of a worker. -/
structure Chance where
  /-- The share of the jitter in an idle delay that begins. -/
  draw : Float := 0.0
  /-- Whether a worker that waits notices a change of the pool's size before it looks for a job. -/
  resizeFirst : Bool := false

/-- A pool over a scheduler whose policy works on a state `σ` with attempts in progress `κ`. -/
structure Pool (σ κ : Type) where
  source : σ
  opts : SchedulerOpts
  jobTimeout : Option Duration
  /-- The number of workers asked for. -/
  target : Nat
  /-- How often the number asked for was set. -/
  resizes : Nat := 0
  /-- The number of workers that count as alive. -/
  live : Nat := 0
  running : Bool := false
  /-- Whether the scheduler was told to stop. -/
  stopped : Bool := false
  /-- Whether the jobs in progress were told to give up. -/
  cancelled : Bool := false
  workers : List (Worker κ) := []
  active : Nat := 0
  completed : Nat := 0
  failed : Nat := 0

namespace Pool

variable {σ κ : Type}

/-- A pool that does not run yet. -/
def make (source : σ) (opts : SchedulerOpts) (config : PoolConfig) : Pool σ κ :=
  { source, opts, jobTimeout := config.jobTimeout, target := config.workers }

def stats (pool : Pool σ κ) : PoolStats :=
  { workers := pool.target, live := pool.live, active := pool.active,
    completed := pool.completed, failed := pool.failed }

/-- Adds workers. -/
def spawn (pool : Pool σ κ) (count : Nat) : Pool σ κ :=
  { pool with
    live := pool.live + count,
    workers := pool.workers ++ List.replicate count { seen := pool.resizes } }

/-- Starts the workers, once. -/
def run (pool : Pool σ κ) (runtime : Bool) : Pool σ κ × Except RunError Unit :=
  if !runtime then (pool, .error .noRuntime)
  else if pool.running then (pool, .error .alreadyRunning)
  else (({ pool with running := true }).spawn pool.target, .ok ())

/-- Sets the number of workers; a pool that runs gets the missing ones at once. -/
def setWorkers (pool : Pool σ κ) (count : Nat) : Pool σ κ :=
  let pool := { pool with target := count, resizes := pool.resizes + 1 }
  if pool.running then pool.spawn (count - pool.live) else pool

/-- Sets the number of workers where there may be nothing for new ones to run on. -/
def resize (pool : Pool σ κ) (runtime : Bool) (count : Nat) : Pool σ κ :=
  if runtime then pool.setWorkers count
  else { pool with target := count, resizes := pool.resizes + 1 }

/-- Stops handing out jobs; an immediate stop also tells the jobs in progress to give up. -/
def stop (pool : Pool σ κ) (immediate : Bool) : Pool σ κ :=
  { pool with stopped := true, cancelled := pool.cancelled || immediate }

/-- Whether every worker has left. -/
def isDrained (pool : Pool σ κ) : Bool :=
  pool.live = 0 && pool.workers.all (·.isGone)

/-- Puts a worker into a phase. -/
def setPhase (pool : Pool σ κ) (index : Nat) (phase : WorkerPhase κ) : Pool σ κ :=
  { pool with workers := pool.workers.modify index fun worker => { worker with phase } }

/-- A worker takes a job into its hands. -/
def begin (pool : Pool σ κ) (now : Instant) (index : Nat) (job : LibraryJob) : Pool σ κ :=
  let deadline := pool.jobTimeout.map (·.after now)
  { pool.setPhase index (.working job deadline) with active := pool.active + 1 }

/-- A worker's job has ended. -/
def finish (pool : Pool σ κ) (index : Nat) (job : LibraryJob) (result : JobResult) :
    Pool σ κ × Report :=
  let pool := { pool.setPhase index .between with active := pool.active - 1 }
  match JobStatus.ofResult result with
  | .succeeded =>
    ({ pool with completed := pool.completed + 1 }, ⟨job.kind.label, .succeeded⟩)
  | .failed | .cancelled =>
    ({ pool with failed := pool.failed + 1 }, ⟨job.kind.label, .failed⟩)

/-- A worker leaves because there is nothing more for it. -/
def exit (pool : Pool σ κ) (index : Nat) : Pool σ κ :=
  { pool.setPhase index .exited with live := pool.live - 1 }

/-- A worker between two jobs retires if there are more workers than asked for, and asks for a job
otherwise. -/
def look (pool : Pool σ κ) (index : Nat) : Pool σ κ :=
  let pool :=
    { pool with
      workers := pool.workers.modify index fun worker => { worker with seen := pool.resizes } }
  if pool.target < pool.live then
    { pool.setPhase index .retired with live := pool.live - 1 }
  else pool.setPhase index (.asking (.start pool.opts))

/-- A worker that waits for a job lets go of its request, to look again whether it is needed. -/
def reconsider (policy : Policy σ κ LibraryJob) (pool : Pool σ κ) (index : Nat)
    (request : JobRequest κ) : Pool σ κ :=
  { pool.setPhase index .between with
    source := request.abandon policy (.worker index) pool.source }

/-- A step of a worker that waits for its next job. -/
def stepAsking (policy : Policy σ κ LibraryJob) (now : Instant) (index : Nat) (chance : Chance)
    (pool : Pool σ κ) (resized : Bool) (request : JobRequest κ) : Option (Pool σ κ) :=
  if resized && chance.resizeFirst then some (pool.reconsider policy index request)
  else
    match request.step policy pool.opts pool.stopped now (.worker index) chance.draw
      pool.source with
    | some (source, .inl request) =>
      some ({ pool with source }.setPhase index (.asking request))
    | some (source, .inr (some job)) => some ({ pool with source }.begin now index job)
    | some (source, .inr none) => some ({ pool with source }.exit index)
    | none => if resized then some (pool.reconsider policy index request) else none

/-- One step of a worker, and what it reports; none if the worker has to wait or is gone. -/
def stepWorker (policy : Policy σ κ LibraryJob) (now : Instant) (index : Nat)
    (answer : Option JobResult) (chance : Chance) (pool : Pool σ κ) :
    Option (Pool σ κ × Option Report) :=
  match pool.workers[index]? with
  | none => none
  | some worker =>
    match worker.phase with
    | .between => some (pool.look index, none)
    | .asking request =>
      (pool.stepAsking policy now index chance (worker.seen != pool.resizes) request).map
        (·, none)
    | .working job deadline =>
      match answer with
      | some result =>
        let (pool, report) := pool.finish index job result
        some (pool, some report)
      | none =>
        if deadline.any (· ≤ now) then
          let limit := pool.jobTimeout.getD .zero
          let (pool, report) := pool.finish index job (.error (.timeout limit))
          some (pool, some report)
        else none
    | .retired | .exited => none

/-- When a worker that waits goes on by itself. -/
def deadline? (policy : Policy σ κ LibraryJob) (worker : Worker κ) : Option Instant :=
  match worker.phase with
  | .asking request => request.deadline? policy
  | .working _ deadline => deadline
  | _ => none

end Pool

end RepoCollector
