import RepoCollector.Collection.Setup
import RepoCollector.Discovery.Updates
import RepoCollector.Metrics.Exposition

/-!
# Collections

A collection is a command at work.  Providers gather the repositories of organizations into the
download lane, the updates provider puts the clones of the library into the update lane, and a pool
of workers empties the lanes.

The command itself waits for the providers, closes the download lane, waits for the updates provider
and then until the pool has drained the lanes.  An interrupt stops the providers; another one while
the pool drains cancels the jobs in progress.

`Collection.step` is one step of one of those who take part: the command, a gatherer, the updates
provider or a worker.  What the step cannot know is given to it.
-/

namespace RepoCollector

/-- How the run of a provider came to its end. -/
inductive RunEnd where
  | returned (error : ProviderError)
  /-- The run broke off, and the provider is gone. -/
  | crashed
deriving DecidableEq, Repr

/-- Whether a command counts the end of a run as a failure: all ends but those by being stopped. -/
def RunEnd.isFailure : RunEnd → Bool
  | .returned error => error.kind ≠ .providerStopped
  | .crashed => true

/-- The provider for one organization. -/
structure Gatherer where
  org : String
  provider : Provider
  /-- How its run ended, if it has. -/
  ended : Option RunEnd := none

/-- Whether a provider ended otherwise than by being stopped. -/
def Gatherer.hasFailed (gatherer : Gatherer) : Bool :=
  gatherer.ended.any (·.isFailure)

/-- Where a command stands. -/
inductive CommandPhase where
  /-- The providers gather. -/
  | gathering
  /-- The providers were told to stop, and these have not acknowledged it. -/
  | stopping (calls : List (Nat × StopCall))
  /-- The providers come to their end. -/
  | finishing
  /-- The updates provider goes on alone, and the command ends with this outcome. -/
  | settling (outcome : Except CommandError Unit)
  /-- The command consists of updates only, and the updates provider is at work. -/
  | scheduling
  /-- The pool drains the lanes. -/
  | draining (outcome : Except CommandError Unit)
  /-- The pool comes to its end, its jobs being cancelled. -/
  | cancelling (outcome : Except CommandError Unit)
  | over (outcome : Except CommandError Unit)

/-- A command at work. -/
structure Collection where
  pool : Pool Lanes Attempt
  gatherers : List Gatherer := []
  updates : Option UpdatesProvider := none
  hub : MetricsHub
  printMetrics : Bool
  phase : CommandPhase

/-- What a step of a collection is told from outside. -/
structure Tidings where
  /-- What the source of a gatherer answers, if it has been asked and has answered. -/
  repository : Option (Except DiscoveryError Repository) := none
  /-- The share of the jitter in a delay of a gatherer that begins. -/
  draw : Option Float := none
  /-- Whether the run of a gatherer breaks off here, as it does when the time until a rate limit is
  lifted overflows. -/
  crashes : Bool := false
  /-- The inventory of the library, once it is complete. -/
  inventory : Option (Except LibraryError (List String)) := none
  /-- How the work of a worker's job ended, if it has. -/
  work : Option JobResult := none
  chance : Chance := {}
  /-- Whether the command was interrupted. -/
  interrupted : Bool := false

namespace Collection

/-- The command, as a client. -/
def command : Client := .task 0

/-- The updates provider, as a client of the update lane. -/
def updater : Client := .task 1

/-- A pool at work on two lanes of a given capacity. -/
def startPool (arguments : PoolArguments) (processors : Nat) (reads : LaneChoice) :
    Pool Lanes Attempt :=
  let lanes : Lanes :=
    { reads, download := .make "download" arguments.queueSize,
      update := .make "update" arguments.queueSize }
  ((Pool.make lanes {} (arguments.poolConfig processors)).run true).1

/-- The registry and the collector of a command. -/
def startHub : MetricsHub := (MetricsHub.init {}).addCollector

/-- A download that begins, unless no organization has a name. -/
def download (processors : Nat) (arguments : DownloadArguments) :
    Except CommandError Collection :=
  let orgs := arguments.organizations
  if orgs.isEmpty then .error .noOrganizations
  else
    let reads := if arguments.noUpdates then LaneChoice.downloadOnly else .combined
    let pool := startPool arguments.pool processors reads
    let capacity := pool.source.download.capacity
    let gatherers := orgs.map fun org =>
      { org, provider := (Provider.make arguments.providerOpts capacity .standard).start :
        Gatherer }
    .ok {
      pool, gatherers, hub := startHub, printMetrics := arguments.pool.printMetrics,
      updates := if arguments.noUpdates then none else some {},
      phase := .gathering }

/-- An update that begins. -/
def update (processors : Nat) (arguments : PoolArguments) : Collection :=
  { pool := startPool arguments processors .updateOnly, updates := some {}, hub := startHub,
    printMetrics := arguments.printMetrics, phase := .scheduling }

/-- A command that begins. -/
def start (processors : Nat) : Command → Except CommandError Collection
  | .download arguments => download processors arguments
  | .update arguments => .ok (update processors arguments)

/-- How the command ended, if it has. -/
def outcome? (c : Collection) : Option (Except CommandError Unit) :=
  match c.phase with
  | .over outcome => some outcome
  | _ => none

def setLanes (c : Collection) (lanes : Lanes) : Collection :=
  { c with pool := { c.pool with source := lanes } }

def setQueue (c : Collection) (kind : JobKind) (q : JobQueue LibraryJob) : Collection :=
  c.setLanes (c.pool.source.setQueue kind q)

/-- Closes a lane. -/
def closeLane (c : Collection) (kind : JobKind) : Collection :=
  c.setLanes (c.pool.source.modify kind (·.close))

/-- Counts an event of a job. -/
def record (c : Collection) (report : Report) : Collection :=
  { c with hub := c.hub.record 0 report }

/-- Counts a job that was put into a lane. -/
def discover (c : Collection) (job : LibraryJob) : Collection :=
  c.record ⟨job.kind.label, .discovered⟩

/-- What the command has counted. -/
def tally (c : Collection) : Tally := c.hub.snapshot 0

/-- Whether all providers of organizations have ended. -/
def allEnded (c : Collection) : Bool :=
  c.gatherers.all (·.ended.isSome)

/-- How the command ends as far as the providers of organizations are concerned. -/
def gatheringOutcome (c : Collection) : Except CommandError Unit :=
  match c.gatherers.countP (·.hasFailed) with
  | 0 => .ok ()
  | failures => .error (.providersFailed failures)

/-- The command goes on after the last provider of an organization has ended. -/
def leaveGathering (c : Collection) : Collection :=
  { c.closeLane .download with phase := .settling c.gatheringOutcome }

/-- All providers of organizations are told to stop. -/
def beginStop (now : Instant) (c : Collection) : Collection :=
  let begun := c.gatherers.map fun gatherer => StopCall.start now gatherer.provider
  let gatherers := c.gatherers.zipWith (fun gatherer (provider, _) =>
    { gatherer with provider }) begun
  let calls := (begun.zipIdx).map fun ((_, call), index) => (index, call)
  { c with gatherers, phase := .stopping calls }

/-- Whether a stop is still waited for. -/
def isWaiting (now : Instant) (c : Collection) (call : Nat × StopCall) : Bool :=
  match c.gatherers[call.1]? with
  | some gatherer => (call.2.step now gatherer.provider).isNone
  | none => false

/-- The updates provider is told to stop. -/
def cancelUpdates (c : Collection) : Collection :=
  { c with updates := c.updates.map fun updates => { updates with cancelled := true } }

/-- The updates provider is dropped, and its lane is closed. -/
def dropUpdates (c : Collection) : Collection :=
  let release (q : JobQueue LibraryJob) : JobQueue LibraryJob :=
    match c.updates with
    | some { phase := .sending _ _, .. } => q.abandonSend updater
    | _ => q
  { c.setLanes (c.pool.source.modify .update fun q => (release q).close) with updates := none }

/-- How an update ends when its provider has ended. -/
def schedulingOutcome : Except ProviderError Nat → Except CommandError Unit
  | .ok _ => .ok ()
  | .error error => if error.kind = .providerStopped then .ok () else .error (.unlisted error)

/-- The depths of the queues that are watched. -/
def depths (c : Collection) : List (String × Nat) :=
  c.pool.source.reads.kinds.map fun kind =>
    ((c.pool.source.queue kind).name, (c.pool.source.queue kind).size)

/-- The command ends; the depths of the lanes are taken a last time. -/
def conclude (c : Collection) (outcome : Except CommandError Unit) : Collection :=
  { c with hub := c.hub.sample c.depths, phase := .over outcome }

/-- What the command has printed: the metrics, if they are wanted and it is over. -/
def printed (c : Collection) : String :=
  if c.printMetrics && c.outcome?.isSome then c.hub.exported ++ "\n" else ""

/-- A step of the command; none if it has to wait or is over. -/
def stepCommand (now : Instant) (interrupted : Bool) (c : Collection) : Option Collection :=
  match c.phase with
  | .gathering =>
    if c.allEnded then some c.leaveGathering
    else if interrupted then some (c.beginStop now)
    else none
  | .stopping calls =>
    let waiting := calls.filter (c.isWaiting now)
    if waiting.isEmpty then some { c.cancelUpdates with phase := .finishing }
    else if waiting.length < calls.length then some { c with phase := .stopping waiting }
    else none
  | .finishing => if c.allEnded then some c.leaveGathering else none
  | .settling outcome =>
    if c.updates.all (·.result?.isSome) then some { c with phase := .draining outcome } else none
  | .scheduling =>
    match c.updates.bind (·.result?) with
    | some result => some { c with phase := .draining (schedulingOutcome result) }
    | none =>
      if interrupted then some { c.dropUpdates with phase := .draining (.ok ()) } else none
  | .draining outcome =>
    if c.pool.isDrained then some (c.conclude outcome)
    else if interrupted then
      some { c with pool := c.pool.stop true, phase := .cancelling outcome }
    else none
  | .cancelling outcome => if c.pool.isDrained then some (c.conclude outcome) else none
  | .over _ => none

/-- A gatherer as it is after a step of its provider. -/
def setGatherer (c : Collection) (index : Nat) (provider : Provider) (ended : Option RunEnd) :
    Collection :=
  { c with
    gatherers := c.gatherers.modify index fun gatherer =>
      { gatherer with provider, ended := gatherer.ended.or ended } }

/-- The run of a gatherer breaks off. -/
def crashGatherer (index : Nat) (gatherer : Gatherer) (c : Collection) : Option Collection :=
  if gatherer.provider.isInside then
    let (provider, queue) := gatherer.provider.drop (.provider index) c.pool.source.download
    some ((c.setQueue .download queue).setGatherer index provider (some .crashed))
  else none

/-- A step of a gatherer. -/
def stepGatherer (now : Instant) (index : Nat) (tidings : Tidings) (c : Collection) :
    Option Collection :=
  match c.gatherers[index]? with
  | none => none
  | some gatherer =>
    if tidings.crashes then c.crashGatherer index gatherer
    else
      (gatherer.provider.step now (.provider index) tidings.repository tidings.draw
        c.pool.source.download).map fun (provider, queue, event) =>
          let c := c.setQueue .download queue
          match event with
          | some (.enqueued job) => (c.setGatherer index provider none).discover job
          | some (.ended error) => c.setGatherer index provider (some (.returned error))
          | some .asked | none => c.setGatherer index provider none

/-- A step of the updates provider. -/
def stepUpdates (tidings : Tidings) (c : Collection) : Option Collection :=
  c.updates.bind fun updates =>
    (updates.step updater tidings.inventory c.pool.source.update).map
      fun (updates, queue, job) =>
        let c := { c.setQueue .update queue with updates := some updates }
        job.elim c c.discover

/-- A step of a worker. -/
def stepWorker (now : Instant) (index : Nat) (tidings : Tidings) (c : Collection) :
    Option Collection :=
  (c.pool.stepWorker Lanes.policy now index tidings.work tidings.chance).map
    fun (pool, report) =>
      let c := { c with pool }
      report.elim c c.record

/-- One step of one who takes part; none if that one has to wait or is done. -/
def step (now : Instant) (client : Client) (tidings : Tidings) (c : Collection) :
    Option Collection :=
  match client with
  | .task 0 => c.stepCommand now tidings.interrupted
  | .task _ => c.stepUpdates tidings
  | .provider index => c.stepGatherer now index tidings
  | .worker index => c.stepWorker now index tidings

/-- The moments at which those who wait go on by themselves. -/
def deadlines (c : Collection) : List Instant :=
  let calls := match c.phase with
    | .stopping calls => calls.map (·.2.deadline)
    | _ => []
  calls ++ c.gatherers.filterMap (·.provider.deadline?) ++
    c.pool.workers.filterMap (Pool.deadline? Lanes.policy)

end Collection

end RepoCollector
