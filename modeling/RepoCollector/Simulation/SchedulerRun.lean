import RepoCollector.Schedule.Scheduler
import RepoCollector.Simulation.Crew

/-!
# The scheduler at work

Runs a script on a scheduler whose policy is itself a script: each attempt consumes one prepared
answer, which comes after a delay, and notes when it was made.
-/

namespace RepoCollector.SchedulerRun

/-- A prepared answer of the policy.  Jobs are known by their kind alone. -/
structure Prepared where
  answer : Scheduled String
  delay : Nat := 0

/-- What is left of the policy's script, and when attempts were made, the last first. -/
structure Script where
  rest : List Prepared
  after : Prepared
  askedAt : List Instant := []

/-- An attempt that has consumed its answer. -/
structure Pending where
  answer : Scheduled String
  readyAt : Instant

/-- The next prepared answer. -/
def Script.take (script : Script) : Script × Prepared :=
  match script.rest with
  | prepared :: rest => ({ script with rest }, prepared)
  | [] => (script, script.after)

/-- The policy that follows a script. -/
def policy : Policy Script Pending String where
  start now script :=
    let (script, prepared) := script.take
    ({ script with askedAt := now :: script.askedAt }, ⟨prepared.answer, now + prepared.delay⟩)
  step now _ pending script :=
    if pending.readyAt ≤ now then some (script, .inr pending.answer) else none
  abandon _ _ script := script
  deadline? pending := some pending.readyAt

/-- An operation of the script that uses the scheduler. -/
inductive Op where
  | next (within : Nat)
  | stop
  | stopAfter (millis : Nat)
  | sleep (millis : Nat)
  | debug
deriving Repr

inductive Answer where
  | job (kind : String)
  | none
  /-- The request was given up. -/
  | waiting
  | nothing
  | debug (text : String) (notWait : Bool)
deriving Repr

/-- The clock after an operation, the attempts made during it, and whether the scheduler stopped. -/
structure Step where
  answer : Answer
  now : Instant
  askedAt : List Instant
  stopped : Bool
deriving Repr

/-- The scheduler, the stops to come and the clock. -/
structure State where
  now : Instant := 0
  script : Script
  opts : SchedulerOpts
  stopped : Bool := false
  /-- When tasks stop the scheduler; a task that has done so is gone. -/
  stops : List (Option Instant) := []

def crew : Crew State where
  now s := s.now
  setNow now s := { s with now }
  clients s := (List.range s.stops.length).map .task
  step
    | .task number, s =>
      match s.stops[number]? with
      | some (some moment) =>
        if moment ≤ s.now then
          some { s with stopped := true, stops := s.stops.set number none }
        else none
      | _ => none
    | _, _ => none
  deadlines s := s.stops.filterMap id

/-- A request for a job. -/
def request : Crew.OutsideCall State (JobRequest Pending) (Option String) where
  step request s :=
    (request.step policy s.opts s.stopped s.now (.task 0) 0.0 s.script).map fun (script, next) =>
      ({ s with script }, next)
  deadline? request := request.deadline? policy

/-- Makes one operation. -/
def perform (op : Op) (s : State) : State × Answer :=
  match op with
  | .next within =>
    match crew.await request (s.now + within) (.start s.opts) s with
    | (s, .inr (some kind)) => (s, .job kind)
    | (s, .inr none) => (s, .none)
    | (s, .inl _) => (s, .waiting)
  | .stop => ({ s with stopped := true }, .nothing)
  | .stopAfter millis => ({ s with stops := s.stops ++ [some (s.now + millis)] }, .nothing)
  | .sleep millis => (crew.runUntil (s.now + millis) s, .nothing)
  | .debug => (s, .debug (s.opts.describe s.stopped) s.opts.notWait)

/-- Runs a script on a new scheduler. -/
def run (opts : SchedulerOpts) (rest : List Prepared) (after : Prepared) (script : List Op) :
    List Step :=
  let start : State := { script := { rest, after }, opts }
  (script.foldl (fun (s, steps) op =>
    let (s, answer) := perform op { s with script := { s.script with askedAt := [] } }
    let step :=
      { answer, now := s.now, askedAt := s.script.askedAt.reverse, stopped := s.stopped }
    (s, step :: steps)) (start, ([] : List Step))).2.reverse

end RepoCollector.SchedulerRun
