import RepoCollector.Queue.Call
import RepoCollector.Simulation.Crew

/-!
# A queue at work

Runs a script of operations on one queue.  An operation that may wait is made by the script itself,
which gives it up after a while, or by a task of its own that waits as long as it takes.  After
every operation a millisecond passes, so that the tasks can react.
-/

namespace RepoCollector.QueueRun

/-- An operation of the script. -/
inductive Op where
  | send (job : String)
  | sendTimeout (job : String) (timeout : Duration)
  | recv
  | ready
  | tryRecv
  | close
  | sleep (millis : Nat)
  | debug
deriving Repr

/-- Who makes an operation. -/
inductive Mode where
  /-- The script, for so many milliseconds at most. -/
  | foreground (within : Nat)
  | background
deriving Repr

/-- What the script is told. -/
inductive Answer where
  | reply (reply : Reply String)
  /-- The operation was given up. -/
  | blocked
  /-- The number of the task that makes the operation. -/
  | task (number : Nat)
  | empty
  | closed
  | nothing
  | text (text : String)
deriving Repr

/-- A task's operation that has ended. -/
structure Done where
  task : Nat
  reply : Reply String
  at_ : Instant
deriving Repr

/-- The state of the queue after an operation, and what ended in the meantime. -/
structure Step where
  answer : Answer
  now : Instant
  size : Nat
  isEmpty : Bool
  closed : Bool
  exhausted : Bool
  done : List Done
deriving Repr

/-- The queue, the tasks and the clock. -/
structure State where
  now : Instant := 0
  queue : JobQueue String
  /-- The calls of the tasks, in the order of their numbers. -/
  calls : List (Option (OpenCall String)) := []
  /-- What ended since the last operation, the last first. -/
  done : List Done := []

/-- One step of a task. -/
def stepTask (number : Nat) (s : State) : Option State :=
  match s.calls[number]? with
  | some (some call) =>
    (call.step s.now (.task number) s.queue).map fun
      | (queue, .inl call) => { s with queue, calls := s.calls.set number (some call) }
      | (queue, .inr reply) =>
        { s with queue, calls := s.calls.set number none, done := ⟨number, reply, s.now⟩ :: s.done }
  | _ => none

def crew : Crew State where
  now s := s.now
  setNow now s := { s with now }
  clients s := s.queue.due ++ (List.range s.calls.length).map .task
  step
    | .task number, s => stepTask number s
    | _, _ => none
  deadlines s := s.calls.filterMap fun call => call.bind (·.deadline?)

/-- A call that the script makes itself, as client number 0. -/
def ownCall : Crew.OutsideCall State (OpenCall String) (Reply String) where
  step call s :=
    (call.step s.now (.task 0) s.queue).map fun (queue, next) => ({ s with queue }, next)
  deadline? call := call.deadline?

/-- Makes a call that may wait. -/
def makeCall (call : Call String) (mode : Mode) (s : State) : State × Answer :=
  match mode with
  | .background =>
    ({ s with calls := s.calls ++ [some ⟨call, false⟩] }, .task s.calls.length)
  | .foreground within =>
    match crew.await ownCall (s.now + within) ⟨call, false⟩ s with
    | (s, .inr reply) => (s, .reply reply)
    | (s, .inl call) => ({ s with queue := call.abandon (.task 0) s.queue }, .blocked)

/-- Makes one operation. -/
def perform (op : Op) (mode : Mode) (s : State) : State × Answer :=
  match op with
  | .send job => makeCall (.send job none) mode s
  | .sendTimeout job timeout => makeCall (.send job (some (timeout.after s.now))) mode s
  | .recv => makeCall .recv mode s
  | .ready => makeCall .ready mode s
  | .tryRecv =>
    match s.queue.tryRecv with
    | (queue, .received job) => ({ s with queue }, .reply (.received job))
    | (queue, .empty) => ({ s with queue }, .empty)
    | (queue, .closed) => ({ s with queue }, .closed)
  | .close => ({ s with queue := s.queue.close }, .nothing)
  | .sleep millis => (crew.runUntil (s.now + millis) s, .nothing)
  | .debug => (s, .text s.queue.describe)

/-- Makes one operation and lets a millisecond pass. -/
def step (op : Op) (mode : Mode) (s : State) : State × Step :=
  let (s, answer) := perform op mode s
  let s := crew.runUntil (s.now + 1) s
  ({ s with done := [] },
    { answer, now := s.now, size := s.queue.size, isEmpty := s.queue.items.isEmpty,
      closed := s.queue.isClosed, exhausted := s.queue.isExhausted, done := s.done.reverse })

/-- Runs a script on a new queue.  Number 0 stands for the script, so the tasks count from 1. -/
def run (name : String) (capacity : Nat) (script : List (Op × Mode)) : List Step :=
  let start : State := { queue := .make name capacity, calls := [none] }
  (script.foldl (fun (s, steps) (op, mode) =>
    let (s, result) := step op mode s
    (s, result :: steps)) (start, ([] : List Step))).2.reverse

end RepoCollector.QueueRun
