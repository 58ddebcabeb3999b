import RepoCollector.Job.Basic
import RepoCollector.Queue.Basic

/-!
# Lanes

Jobs wait in two queues, one for each kind.  A schedule attempt takes the next job from the lanes
that are read: downloads go first, but after a run of downloads of a given length the update lane is
asked first, until it gives a job.

`Lanes.dispatch` looks at the lanes once.  An `Attempt` waits for a bounded time for something to
arrive: it lines up at every lane that may still give a job, looks again when one of them can, and
ends with `notReady` at its deadline.  A job that arrives at the deadline itself is seen first.
-/

namespace RepoCollector

/-- The answer of one schedule attempt. -/
inductive Scheduled (J : Type) where
  | job (job : J)
  /-- Nothing can be taken now, but more may come. -/
  | notReady
  /-- Every queue that is read is closed and drained. -/
  | exhausted
deriving Repr

/-- Which lanes are read. -/
inductive LaneChoice where
  | combined
  | downloadOnly
  | updateOnly
deriving DecidableEq, Repr

/-- The lanes that are read, the preferred one first. -/
def LaneChoice.kinds : LaneChoice → List JobKind
  | .combined => [.download, .update]
  | .downloadOnly => [.download]
  | .updateOnly => [.update]

/-- The two queues and the rule by which jobs are taken from them. -/
structure Lanes where
  reads : LaneChoice
  download : JobQueue LibraryJob
  update : JobQueue LibraryJob
  /-- How long one attempt waits for a job. -/
  wait : Duration := .ofSecs 1
  /-- The length of a run of downloads after which updates go first once; without it, downloads
  always go first. -/
  maxStreak : Option Nat := some 32
  /-- How many downloads were taken since the last update. -/
  streak : Nat := 0

namespace Lanes

def queue (lanes : Lanes) : JobKind → JobQueue LibraryJob
  | .download => lanes.download
  | .update => lanes.update

def setQueue (lanes : Lanes) (kind : JobKind) (q : JobQueue LibraryJob) : Lanes :=
  match kind with
  | .download => { lanes with download := q }
  | .update => { lanes with update := q }

/-- Changes one queue. -/
def modify (lanes : Lanes) (kind : JobKind)
    (change : JobQueue LibraryJob → JobQueue LibraryJob) : Lanes :=
  lanes.setQueue kind (change (lanes.queue kind))

/-- Whether updates go first. -/
def yields (lanes : Lanes) : Bool :=
  match lanes.maxStreak with
  | some limit => limit ≤ lanes.streak
  | none => false

/-- The lanes in the order in which they are asked. -/
def order (lanes : Lanes) : List JobKind :=
  if lanes.yields then lanes.reads.kinds.reverse else lanes.reads.kinds

/-- Counts a job taken from a lane. -/
def counted (lanes : Lanes) : JobKind → Lanes
  | .download => { lanes with streak := lanes.streak + 1 }
  | .update => { lanes with streak := 0 }

/-- What one look at the lanes finds. -/
inductive Dispatch where
  /-- A job with the work of its lane attached. -/
  | job (job : LibraryJob)
  | empty
  | exhausted
deriving Repr

/-- Asks lanes one after the other.  `drained` says whether all lanes asked so far are closed and
drained. -/
def dispatchFrom (drained : Bool) : List JobKind → Lanes → Lanes × Dispatch
  | [], lanes => (lanes, if drained then .exhausted else .empty)
  | kind :: kinds, lanes =>
    match (lanes.queue kind).tryRecv with
    | (q, .received job) => ((lanes.setQueue kind q).counted kind, .job (job.withWork kind))
    | (q, .empty) => dispatchFrom false kinds (lanes.setQueue kind q)
    | (q, .closed) => dispatchFrom drained kinds (lanes.setQueue kind q)

/-- Takes the next job, if there is one now. -/
def dispatch (lanes : Lanes) : Lanes × Dispatch :=
  dispatchFrom true lanes.order lanes

/-- Lines a client up at every lane that may still give a job.  The answer is whether some lane can
give one at once. -/
def parkAt (client : Client) : List JobKind → Lanes → Lanes × Bool
  | [], lanes => (lanes, false)
  | kind :: kinds, lanes =>
    if (lanes.queue kind).isExhausted then parkAt client kinds lanes
    else
      let (q, found) := (lanes.queue kind).startReady client
      let (lanes, later) := parkAt client kinds (lanes.setQueue kind q)
      (lanes, found || later)

/-- A client leaves the lines at all lanes. -/
def unpark (client : Client) (lanes : Lanes) : Lanes :=
  lanes.reads.kinds.foldl (fun lanes kind => lanes.modify kind (·.abandonReady client)) lanes

/-- Whether some lane has called a client that lined up. -/
def calls (lanes : Lanes) (client : Client) : Bool :=
  lanes.reads.kinds.any fun kind => client ∈ (lanes.queue kind).available.due

end Lanes

/-- A schedule attempt in progress. -/
structure Attempt where
  deadline : Instant
  /-- Whether the client has lined up at the lanes. -/
  parked : Bool := false
deriving DecidableEq, Repr

namespace Attempt

/-- An attempt that begins now. -/
def start (now : Instant) (lanes : Lanes) : Attempt :=
  { deadline := lanes.wait.after now }

/-- One step of an attempt: it goes on, or it ends with an answer, or it has to wait. -/
def step (now : Instant) (client : Client) (attempt : Attempt) (lanes : Lanes) :
    Option (Lanes × (Attempt ⊕ Scheduled LibraryJob)) :=
  if attempt.parked then
    if lanes.calls client then
      some (lanes.unpark client, .inl { attempt with parked := false })
    else if attempt.deadline ≤ now then some (lanes.unpark client, .inr .notReady)
    else none
  else
    match lanes.dispatch with
    | (lanes, .job job) => some (lanes, .inr (.job job))
    | (lanes, .exhausted) => some (lanes, .inr .exhausted)
    | (lanes, .empty) =>
      match lanes.parkAt client lanes.reads.kinds with
      | (lanes, true) => some (lanes.unpark client, .inl attempt)
      | (lanes, false) => some (lanes, .inl { attempt with parked := true })

/-- The client gives up the attempt.  No job is held between two steps, so none is lost. -/
def abandon (client : Client) (attempt : Attempt) (lanes : Lanes) : Lanes :=
  if attempt.parked then lanes.unpark client else lanes

end Attempt

end RepoCollector
