import RepoCollector.Queue.Call
import RepoCollector.Schedule.Lanes
import RepoCollector.Simulation.Crew

/-!
# Lanes at work

Runs a script on the two lanes: jobs are sent and lanes closed, now or later by a task, and schedule
attempts are made one after the other.  A job that an attempt hands out is processed at once, by
work that only notes which lane it belongs to.
-/

namespace RepoCollector.LaneRun

/-- An operation of the script. -/
inductive Op where
  /-- Sends a job, waiting for a slot no longer than the timeout. -/
  | send (lane : JobKind) (job : LibraryJob) (timeout : Duration)
  /-- Sends a job after a while, waiting as long as it takes. -/
  | sendLater (lane : JobKind) (job : LibraryJob) (after : Nat)
  | close (lane : JobKind)
  | closeLater (lane : JobKind) (after : Nat)
  | sleep (millis : Nat)
  /-- Makes a schedule attempt and gives it up after a while. -/
  | schedule (within : Nat)
deriving Repr

/-- That the work of a lane was done. -/
structure Ran where
  lane : JobKind
  endpoints : List String
  now : Instant
deriving Repr

/-- What the script is told. -/
inductive Answer where
  | sent
  | notSent (fault : SendFault) (job : LibraryJob)
  | later
  | nothing
  | abandoned
  | notReady
  | exhausted
  /-- The job of an attempt, its outcome and the work that was done. -/
  | job (kind : JobKind) (result : JobResult) (ran : List Ran)

/-- The clock and the fill of both lanes after an operation. -/
structure Step where
  answer : Answer
  now : Instant
  sizes : Nat × Nat

/-- What a task does. -/
inductive Task where
  | sendAt (moment : Instant) (lane : JobKind) (job : LibraryJob)
  | sending (lane : JobKind) (call : OpenCall LibraryJob)
  | closeAt (moment : Instant) (lane : JobKind)
  | over

/-- The lanes, the tasks and the clock. -/
structure State where
  now : Instant := 0
  lanes : Lanes
  tasks : List Task := []

def setTask (number : Nat) (task : Task) (s : State) : State :=
  { s with tasks := s.tasks.set number task }

/-- One step of a task. -/
def stepTask (number : Nat) (s : State) : Option State :=
  match s.tasks[number]? with
  | some (.sendAt moment lane job) =>
    if moment ≤ s.now then some (setTask number (.sending lane ⟨.send job none, false⟩) s) else none
  | some (.sending lane call) =>
    (call.step s.now (.task number) (s.lanes.queue lane)).map fun
      | (q, .inl call) =>
        setTask number (.sending lane call) { s with lanes := s.lanes.setQueue lane q }
      | (q, .inr _) => setTask number .over { s with lanes := s.lanes.setQueue lane q }
  | some (.closeAt moment lane) =>
    if moment ≤ s.now then
      some (setTask number .over { s with lanes := s.lanes.modify lane (·.close) })
    else none
  | _ => none

/-- The moment at which a task that waits goes on. -/
def Task.deadline? : Task → Option Instant
  | .sendAt moment _ _ => some moment
  | .closeAt moment _ => some moment
  | _ => none

def crew : Crew State where
  now s := s.now
  setNow now s := { s with now }
  clients s :=
    s.lanes.download.due ++ s.lanes.update.due ++ (List.range s.tasks.length).map .task
  step
    | .task number, s => stepTask number s
    | _, _ => none
  deadlines s := s.tasks.filterMap Task.deadline?

/-- The script's own send. -/
def ownSend (lane : JobKind) : Crew.OutsideCall State (OpenCall LibraryJob) (Reply LibraryJob) where
  step call s :=
    (call.step s.now (.task 0) (s.lanes.queue lane)).map fun (q, next) =>
      ({ s with lanes := s.lanes.setQueue lane q }, next)
  deadline? call := call.deadline?

/-- The script's own schedule attempt. -/
def ownAttempt : Crew.OutsideCall State Attempt (Scheduled LibraryJob) where
  step attempt s :=
    (attempt.step s.now (.task 0) s.lanes).map fun (lanes, next) => ({ s with lanes }, next)
  deadline? attempt := some attempt.deadline

/-- Processes a job that was handed out. -/
def process (now : Instant) (job : LibraryJob) : JobResult × List Ran :=
  match job.ready? with
  | .error error => (.error error, [])
  | .ok lane => (.ok (), [⟨lane, job.endpoints, now⟩])

/-- Makes one operation. -/
def perform (op : Op) (s : State) : State × Answer :=
  match op with
  | .send lane job timeout =>
    let deadline := timeout.after s.now
    match crew.await (ownSend lane) deadline ⟨.send job (some deadline), false⟩ s with
    | (s, .inr (.notSent fault job)) => (s, .notSent fault job)
    | (s, _) => (s, .sent)
  | .sendLater lane job after =>
    ({ s with tasks := s.tasks ++ [.sendAt (s.now + after) lane job] }, .later)
  | .close lane => ({ s with lanes := s.lanes.modify lane (·.close) }, .nothing)
  | .closeLater lane after =>
    ({ s with tasks := s.tasks ++ [.closeAt (s.now + after) lane] }, .nothing)
  | .sleep millis => (crew.runUntil (s.now + millis) s, .nothing)
  | .schedule within =>
    match crew.await ownAttempt (s.now + within) (.start s.now s.lanes) s with
    | (s, .inr (.job job)) =>
      let (result, ran) := process s.now job
      (s, .job job.kind result ran)
    | (s, .inr .notReady) => (s, .notReady)
    | (s, .inr .exhausted) => (s, .exhausted)
    | (s, .inl attempt) =>
      ({ s with lanes := attempt.abandon (.task 0) s.lanes }, .abandoned)

/-- Runs a script.  Number 0 stands for the script, so the tasks count from 1. -/
def run (lanes : Lanes) (script : List Op) : List Step :=
  let start : State := { lanes, tasks := [.over] }
  (script.foldl (fun (s, steps) op =>
    let (s, answer) := perform op s
    let step := { answer, now := s.now, sizes := (s.lanes.download.size, s.lanes.update.size) }
    (s, step :: steps)) (start, ([] : List Step))).2.reverse

end RepoCollector.LaneRun
