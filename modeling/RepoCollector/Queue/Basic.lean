import RepoCollector.Semaphore
import RepoCollector.Text.Quoted
import RepoCollector.Discovery.Error

/-!
# Job queues

A job queue buffers a bounded number of jobs, first in, first out.  One semaphore counts the free
slots and one the buffered jobs, so that senders and receivers wait for permits and never for each
other.

The producer closes the queue, once.  From then on nothing is accepted, and what is buffered is
still handed out in order.

A send, and the wait until something is buffered, may have to be resumed: the functions whose names
begin with `start` make the first try of a client, those that begin with `resume` a later one, and
`none` as an answer means that the client has to wait.
-/

namespace RepoCollector

/-- Why a job was not accepted. -/
inductive SendFault where
  /-- No slot became free in time. -/
  | timeout
  /-- The queue is closed. -/
  | closed
deriving DecidableEq, Repr

/-- The name of the kind of failure. -/
def SendFault.name : SendFault → String
  | .timeout => "Timeout"
  | .closed => "Closed"

def SendFault.message : SendFault → String
  | .timeout => "Enqueue timed out"
  | .closed => "Queue is closed"

/-- What a receiver that does not wait is told. -/
inductive TryRecv (α : Type) where
  | received (job : α)
  /-- Nothing can be taken now. -/
  | empty
  /-- The queue is closed and drained. -/
  | closed
deriving Repr

/-- A bounded queue of jobs. -/
structure JobQueue (α : Type) where
  name : String
  capacity : Nat
  /-- The buffered jobs, the oldest first. -/
  items : List α
  /-- One permit for every free slot. -/
  slots : Semaphore
  /-- One permit for every buffered job. -/
  available : Semaphore
deriving Repr

namespace JobQueue

variable {α : Type}

/-- An open and empty queue.  It buffers at least one job. -/
def make (name : String) (capacity : Nat) : JobQueue α :=
  { name, capacity := max capacity 1, items := [],
    slots := { permits := max capacity 1 }, available := { permits := 0 } }

def size (q : JobQueue α) : Nat := q.items.length

def isClosed (q : JobQueue α) : Bool := q.slots.closed

/-- Whether the queue is closed and drained. -/
def isExhausted (q : JobQueue α) : Bool := q.isClosed && q.items.isEmpty

/-- Puts a job at the end. -/
def push (q : JobQueue α) (job : α) : JobQueue α :=
  { q with items := q.items ++ [job], available := q.available.release }

/-- Takes the job at the head and frees its slot. -/
def pop (q : JobQueue α) : JobQueue α × Option α :=
  match q.items with
  | [] => (q, none)
  | job :: items => ({ q with items, slots := q.slots.release }, some job)

/-- What a sender is told when its wait for a slot has the given answer. -/
def finishSend (q : JobQueue α) (job : α) : Permit → JobQueue α × Option (Except SendFault Unit)
  | .taken => (q.push job, some (.ok ()))
  | .refused => (q, some (.error .closed))
  | .notNow => (q, none)

/-- The first try of a client to send a job. -/
def startSend (q : JobQueue α) (client : Client) (job : α) :
    JobQueue α × Option (Except SendFault Unit) :=
  if q.isClosed then (q, some (.error .closed))
  else
    let (slots, permit) := q.slots.acquire client
    finishSend { q with slots } job permit

/-- A later try of a client that waits for a slot. -/
def resumeSend (q : JobQueue α) (client : Client) (job : α) :
    JobQueue α × Option (Except SendFault Unit) :=
  let (slots, permit) := q.slots.resume client
  finishSend { q with slots } job permit

/-- A client gives up its wait for a slot. -/
def abandonSend (q : JobQueue α) (client : Client) : JobQueue α :=
  { q with slots := q.slots.abandon client }

/-- Sends a job if there is a slot for it at once. -/
def trySend (q : JobQueue α) (client : Client) (job : α) : JobQueue α × Except SendFault Unit :=
  match q.startSend client job with
  | (q, some answer) => (q, answer)
  | (q, none) => (q.abandonSend client, .error .timeout)

/-- Takes the job at the head without waiting. -/
def tryRecv (q : JobQueue α) : JobQueue α × TryRecv α :=
  let (available, permit) := q.available.tryAcquire
  match permit with
  | .notNow => (q, .empty)
  | .taken =>
    match ({ q with available } : JobQueue α).pop with
    | (q, some job) => (q, .received job)
    | (q, none) => (q, .empty)
  | .refused =>
    match q.pop with
    | (q, some job) => (q, .received job)
    | (q, none) => (q, .closed)

/-- Looks whether something is buffered or the queue is closed, and lines up if not.  Nothing is
taken: a permit goes straight back. -/
def startReady (q : JobQueue α) (client : Client) : JobQueue α × Bool :=
  match q.available.acquire client with
  | (available, .taken) => ({ q with available := available.release }, true)
  | (available, .refused) => ({ q with available }, true)
  | (available, .notNow) => ({ q with available }, false)

/-- A client that lined up looks again. -/
def resumeReady (q : JobQueue α) (client : Client) : JobQueue α × Bool :=
  match q.available.resume client with
  | (available, .taken) => ({ q with available := available.release }, true)
  | (available, .refused) => ({ q with available }, true)
  | (available, .notNow) => ({ q with available }, false)

/-- A client no longer waits for something to be buffered. -/
def abandonReady (q : JobQueue α) (client : Client) : JobQueue α :=
  { q with available := q.available.abandon client }

/-- Closes the queue; closing it again changes nothing. -/
def close (q : JobQueue α) : JobQueue α :=
  { q with slots := q.slots.close, available := q.available.close }

/-- The clients that can resume, senders first. -/
def due (q : JobQueue α) : List Client :=
  q.slots.due ++ q.available.due

/-- The diagnostic text of a queue. -/
def describe (q : JobQueue α) : String :=
  "JobQueue \x7b name: " ++ Text.quoted q.name ++ ", capacity: " ++ toString q.capacity ++
    ", len: " ++ toString q.size ++ ", closed: " ++ toString q.isClosed ++ " \x7d"

@[simp]
theorem items_push (q : JobQueue α) (job : α) : (q.push job).items = q.items ++ [job] := rfl

@[simp]
theorem items_close (q : JobQueue α) : q.close.items = q.items := rfl

@[simp]
theorem isClosed_close (q : JobQueue α) : q.close.isClosed = true := rfl

theorem close_close (q : JobQueue α) : q.close.close = q.close := rfl

/-- Abandoning a wait leaves the buffered jobs alone. -/
@[simp]
theorem items_abandonReady (q : JobQueue α) (client : Client) :
    (q.abandonReady client).items = q.items := rfl

end JobQueue

end RepoCollector
