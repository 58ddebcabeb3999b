import RepoCollector.Discovery.Provider
import RepoCollector.Metrics.Counts
import RepoCollector.Simulation.Crew

/-!
# A provider at work

Runs a discovery provider over a prepared source, through events at given times: jobs are received,
the queue is closed, the provider is stopped.  The provider is given up at the end of a given time,
and its log says when the source was asked and how stops ended.
-/

namespace RepoCollector.ProviderRun

/-- An answer of the source, and how long it takes. -/
structure Prepared where
  answer : Except DiscoveryError Repository
  delay : Nat := 0

/-- A line of the log. -/
inductive Note where
  | asked
  | stop (result : Except ProviderError Unit)

/-- An event. -/
inductive Event where
  | recv
  | close
  | stop
  | stats
deriving Repr

inductive Answer where
  | received (job : LibraryJob)
  | empty
  | closed
  | nothing
  | stats (stopping : Bool) (discovered : Nat)
deriving Repr

structure Step where
  answer : Answer
  now : Instant
  size : Nat
deriving Repr

/-- A task that stops the provider. -/
inductive Stopper where
  | fresh
  | waiting (call : StopCall)
  | over
deriving Repr

/-- How the run of the provider ended. -/
inductive Result where
  | ended (error : ProviderError)
  | stillRunning
  | neverStarted

/-- What a run is made of. -/
structure Setup where
  /-- When the provider is started, if ever. -/
  startAt : Option Instant := some 0
  /-- When the provider is given up. -/
  limit : Instant := 100000
  /-- Whether jobs are reported to a collector. -/
  metrics : Bool := true

/-- The provider, its queue and source, the stops, the log and the clock. -/
structure State where
  now : Instant := 0
  setup : Setup
  provider : Provider
  queue : JobQueue LibraryJob
  script : List Prepared
  after : Prepared
  /-- The answer that the source prepares, and when it is ready. -/
  coming : Option (Instant × Except DiscoveryError Repository) := none
  started : Bool := false
  stoppers : List Stopper := []
  /-- The last line first. -/
  log : List (Instant × Note) := []
  tally : Tally := {}
  result : Option (Result × Instant) := none

/-- The provider, as a client of the queue. -/
def me : Client := .provider 0

/-- The source is asked. -/
def ask (s : State) : State :=
  let (prepared, script) := match s.script with
    | prepared :: rest => (prepared, rest)
    | [] => (s.after, [])
  { s with
    script, coming := some (s.now + prepared.delay, prepared.answer),
    log := (s.now, .asked) :: s.log }

/-- Follows up what a step of the provider did. -/
def follow (s : State) : Option ProviderEvent → State
  | none => s
  | some .asked => ask s
  | some (.enqueued job) =>
    if s.setup.metrics then { s with tally := s.tally.record ⟨job.kind.label, .discovered⟩ } else s
  | some (.ended error) => { s with result := some (.ended error, s.now) }

/-- The answer of the source, if it is ready. -/
def ready? (s : State) : Option (Except DiscoveryError Repository) :=
  match s.coming with
  | some (moment, answer) => if moment ≤ s.now then some answer else none
  | none => none

/-- One step of the provider, which begins its run at its time and is given up at the limit. -/
def stepProvider (s : State) : Option State :=
  if s.result.isSome then none
  else
    let due := s.setup.startAt.any (· ≤ s.now)
    if due && !s.started then some { s with started := true, provider := s.provider.start }
    else
      match s.provider.step s.now me (ready? s) none s.queue with
      | some (provider, queue, event) => some (follow { s with provider, queue } event)
      | none =>
        if s.setup.limit ≤ s.now then
          let (provider, queue) := s.provider.drop me s.queue
          let result := if s.setup.startAt.isSome then Result.stillRunning else .neverStarted
          some { s with provider, queue, result := some (result, s.now) }
        else none

/-- One step of a task that stops the provider. -/
def stepStopper (number : Nat) (s : State) : Option State :=
  match s.stoppers[number]? with
  | some .fresh =>
    let (provider, call) := StopCall.start s.now s.provider
    some { s with provider, stoppers := s.stoppers.set number (.waiting call) }
  | some (.waiting call) =>
    (call.step s.now s.provider).map fun result =>
      { s with
        stoppers := s.stoppers.set number .over, log := (s.now, .stop result) :: s.log }
  | _ => none

/-- The moments at which the provider goes on by itself. -/
def providerDeadlines (s : State) : List Instant :=
  if s.result.isSome then []
  else
    let start := if s.started then [] else s.setup.startAt.toList
    s.setup.limit :: start ++ s.provider.deadline?.toList ++ (s.coming.map (·.1)).toList

def Stopper.deadline? : Stopper → Option Instant
  | .waiting call => some call.deadline
  | _ => none

def crew : Crew State where
  now s := s.now
  setNow now s := { s with now }
  clients s := s.queue.due ++ me :: (List.range s.stoppers.length).map .task
  step
    | .provider _, s => stepProvider s
    | .task number, s => stepStopper number s
    | _, _ => none
  deadlines s := providerDeadlines s ++ s.stoppers.filterMap Stopper.deadline?

/-- Makes one event happen. -/
def perform (event : Event) (s : State) : State × Answer :=
  match event with
  | .recv =>
    match s.queue.tryRecv with
    | (queue, .received job) => ({ s with queue }, .received job)
    | (queue, .empty) => ({ s with queue }, .empty)
    | (queue, .closed) => ({ s with queue }, .closed)
  | .close => ({ s with queue := s.queue.close }, .nothing)
  | .stop => ({ s with stoppers := s.stoppers ++ [.fresh] }, .nothing)
  | .stats => (s, .stats s.provider.stopRequested s.tally.total.discovered)

/-- Makes events happen at their times, then waits for the end of the provider and a millisecond
more. -/
def run (s : State) (events : List (Instant × Event)) : State × List Step :=
  let (s, steps) := events.foldl (fun (s, steps) (moment, event) =>
    let (s, answer) := perform event (crew.runUntil moment s)
    let step : Step := { answer, now := s.now, size := s.queue.size }
    (s, step :: steps)) (s, ([] : List Step))
  let s := if s.result.isSome then s else crew.waitFor (·.result.isSome) (s.setup.limit + 1) s
  (crew.runUntil (s.now + 1) s, steps.reverse)

end RepoCollector.ProviderRun
