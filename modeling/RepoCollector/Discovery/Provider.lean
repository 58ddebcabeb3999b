import RepoCollector.Backoff
import RepoCollector.Discovery.Error
import RepoCollector.Job.Basic
import RepoCollector.Number.Signed
import RepoCollector.Queue.Basic
import RepoCollector.Repository

/-!
# The discovery provider

A provider asks a source for repositories and puts a download job for each into a queue.  When the
queue stays full for too long, the job goes to a buffer that is emptied before the source is asked
again.

A stop is a handshake: the request is noticed whenever the provider is run, and the end of every run
is acknowledged.  `StopCall` is the other side, which waits for the acknowledgement for a bounded
time.

`Provider.step` is one step of a run.  The answer of the source is given to it when there is one.
-/

namespace RepoCollector

/-- The settings of a provider. -/
structure ProviderOpts where
  /-- Go on asking when the source runs dry. -/
  waitNewRepos : Bool := false
  /-- Wait through rate limits. -/
  waitOnRateLimit : Bool := false
  /-- How long a stop waits to be acknowledged. -/
  stopTimeout : Duration := .ofSecs 10
  /-- How long a job waits for a slot in the queue. -/
  enqueueTimeout : Duration := .ofSecs 5
  /-- How many jobs are kept for a later try; zero means twice the capacity of the queue. -/
  maxJobBuffer : Nat := 0
deriving DecidableEq, Repr

namespace ProviderOpts

def defaultStopTimeout : Duration := .ofSecs 10

def defaultEnqueueTimeout : Duration := .ofSecs 5

/-- Replaces zero settings by what they stand for. -/
def normalized (opts : ProviderOpts) (capacity : Nat) : ProviderOpts :=
  { opts with
    stopTimeout := if opts.stopTimeout.isZero then defaultStopTimeout else opts.stopTimeout
    enqueueTimeout :=
      if opts.enqueueTimeout.isZero then defaultEnqueueTimeout else opts.enqueueTimeout
    maxJobBuffer :=
      if opts.maxJobBuffer = 0 then min (capacity * 2) greatest64 else opts.maxJobBuffer }

/-- Whether the provider goes on after a failure of its source, or the error that ends its run. -/
def verdict (opts : ProviderOpts) (failure : DiscoveryError) : Except ProviderError Unit :=
  match failure with
  | .endOfSource _ =>
    if opts.waitNewRepos then .ok ()
    else .error (.stoppedBy (.byDiscovery .newRepositoriesNotFound failure))
  | .rateLimited _ =>
    if opts.waitOnRateLimit then .ok ()
    else .error (.stoppedBy (.byDiscovery .rateLimitExceeded failure))
  | .http _ (some delay) =>
    if delay.isZero then .error (.byDiscovery .discovery failure) else .ok ()
  | _ => .error (.byDiscovery .discovery failure)

end ProviderOpts

/-- The endpoint of a repository, or the error that names it. -/
def resolveEndpoint (repo : Repository) : Except ProviderError String :=
  match repo.endpoint? with
  | some url => .ok url
  | none => .error (.about .endpointsNotFound repo.fullName)

/-- Where a provider's run stands. -/
inductive ProviderPhase where
  /-- No run is in progress. -/
  | outside
  /-- The next job is to be chosen. -/
  | deciding
  /-- The source has been asked. -/
  | asking
  /-- A job waits for a slot until a deadline. -/
  | sending (job : LibraryJob) (deadline : Instant)
  /-- The provider waits before it does anything else. -/
  | resting (wakeAt : Instant)
deriving DecidableEq, Repr

/-- A provider between two steps. -/
structure Provider where
  /-- The settings in effect. -/
  opts : ProviderOpts
  backoff : Backoff Float
  /-- Jobs that found no slot in time. -/
  retry : List LibraryJob := []
  phase : ProviderPhase := .outside
  stopRequested : Bool := false
  /-- Whether the end of a run has been acknowledged. -/
  acknowledged : Bool := false
  /-- Whether the provider is gone for good. -/
  dropped : Bool := false

/-- What a step of a provider does beyond its own state and the queue. -/
inductive ProviderEvent where
  /-- The source is asked for a repository. -/
  | asked
  /-- A job was put into the queue. -/
  | enqueued (job : LibraryJob)
  /-- The run is over. -/
  | ended (error : ProviderError)
deriving DecidableEq, Repr

namespace Provider

/-- A provider for a queue of a given capacity. -/
def make (opts : ProviderOpts) (capacity : Nat) (backoff : Backoff Float) : Provider :=
  { opts := opts.normalized capacity, backoff }

/-- Begins a run. -/
def start (p : Provider) : Provider :=
  { p with phase := .deciding }

/-- Asks the provider to stop. -/
def requestStop (p : Provider) : Provider :=
  { p with stopRequested := true }

/-- Whether a run is in progress. -/
def isInside (p : Provider) : Bool :=
  p.phase ≠ .outside

/-- Lets go of the slot that the provider waits for. -/
def release (p : Provider) (client : Client) (q : JobQueue LibraryJob) : JobQueue LibraryJob :=
  match p.phase with
  | .sending _ _ => q.abandonSend client
  | _ => q

/-- The provider is gone, in the middle of a run or not. -/
def drop (p : Provider) (client : Client) (q : JobQueue LibraryJob) :
    Provider × JobQueue LibraryJob :=
  ({ p with phase := .outside, dropped := true }, p.release client q)

/-- Ends the run and acknowledges its end. -/
def finish (p : Provider) : Provider :=
  { p with phase := .outside, acknowledged := true }

/-- What follows when the queue has answered a send. -/
def afterSend (p : Provider) (q : JobQueue LibraryJob) (job : LibraryJob) :
    Except SendFault Unit → Provider × JobQueue LibraryJob × ProviderEvent
  | .ok () => ({ p with phase := .deciding, backoff := p.backoff.reset }, q, .enqueued job)
  | .error _ => (p.finish, q, .ended (.byQueue .providerStopped q.name))

/-- Offers a job to the queue. -/
def offer (p : Provider) (now : Instant) (client : Client) (q : JobQueue LibraryJob)
    (job : LibraryJob) : Provider × JobQueue LibraryJob × Option ProviderEvent :=
  match q.startSend client job with
  | (q, some answer) =>
    let (p, q, event) := p.afterSend q job answer
    (p, q, some event)
  | (q, none) => ({ p with phase := .sending job (p.opts.enqueueTimeout.after now) }, q, none)

/-- Waits for the next delay of the backoff. -/
def backOff (p : Provider) (now : Instant) (draw : Option Float) : Provider :=
  let (delay, backoff) := p.backoff.next draw
  { p with backoff, phase := .resting (delay.after now) }

/-- Keeps a job for a later try, if there is room. -/
def keep (p : Provider) (job : LibraryJob) : Provider :=
  if p.retry.length < p.opts.maxJobBuffer then { p with retry := p.retry ++ [job] } else p

/-- Waits after a failure of the source: as long as the source said, or for the next delay. -/
def restAfter (p : Provider) (now : Instant) (draw : Option Float) (failure : DiscoveryError) :
    Provider :=
  match failure.retryAfter with
  | some hint =>
    if hint.isZero then p.backOff now draw else { p with phase := .resting (hint.after now) }
  | none => p.backOff now draw

/-- What follows an answer of the source. -/
def afterAnswer (p : Provider) (now : Instant) (client : Client) (draw : Option Float)
    (q : JobQueue LibraryJob) :
    Except DiscoveryError Repository → Provider × JobQueue LibraryJob × Option ProviderEvent
  | .ok repo =>
    match resolveEndpoint repo with
    | .ok endpoint => p.offer now client q (.download [endpoint])
    | .error _ => ({ p with phase := .deciding }, q, none)
  | .error failure =>
    match p.opts.verdict failure with
    | .error error => (p.finish, q, some (.ended error))
    | .ok () => (p.restAfter now draw failure, q, none)

/-- One step of a run; none if it has to wait or there is none.  A requested stop comes before
everything else. -/
def step (now : Instant) (client : Client) (answer : Option (Except DiscoveryError Repository))
    (draw : Option Float) (p : Provider) (q : JobQueue LibraryJob) :
    Option (Provider × JobQueue LibraryJob × Option ProviderEvent) :=
  if p.phase = .outside then none
  else if p.stopRequested then
    some (p.finish, p.release client q, some (.ended .stopped))
  else
    match p.phase with
    | .outside => none
    | .deciding =>
      match p.retry with
      | job :: retry => some (({ p with retry }).offer now client q job)
      | [] => some ({ p with phase := .asking }, q, some .asked)
    | .asking => answer.map (p.afterAnswer now client draw q)
    | .sending job deadline =>
      match q.resumeSend client job with
      | (q, some answer) =>
        let (p, q, event) := p.afterSend q job answer
        some (p, q, some event)
      | (_, none) =>
        if deadline ≤ now then
          some ((p.keep job).backOff now draw, q.abandonSend client, none)
        else none
    | .resting wakeAt =>
      if wakeAt ≤ now then some ({ p with phase := .deciding }, q, none) else none

/-- When a run that waits goes on by itself. -/
def deadline? (p : Provider) : Option Instant :=
  match p.phase with
  | .sending _ deadline => some deadline
  | .resting wakeAt => some wakeAt
  | _ => none

end Provider

/-- A stop that waits to be acknowledged. -/
structure StopCall where
  timeout : Duration
  deadline : Instant
deriving DecidableEq, Repr

namespace StopCall

/-- Requests a stop. -/
def start (now : Instant) (p : Provider) : Provider × StopCall :=
  (p.requestStop, { timeout := p.opts.stopTimeout, deadline := p.opts.stopTimeout.after now })

/-- The outcome of a stop, if it is known.  A provider that is gone needs no acknowledgement. -/
def step (now : Instant) (call : StopCall) (p : Provider) : Option (Except ProviderError Unit) :=
  if p.acknowledged || p.dropped then some (.ok ())
  else if call.deadline ≤ now then some (.error (.stopFailed call.timeout))
  else none

end StopCall

end RepoCollector
