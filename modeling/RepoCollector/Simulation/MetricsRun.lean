import RepoCollector.Metrics.Exposition
import RepoCollector.Queue.Basic
import RepoCollector.Simulation.Crew

/-!
# A collector at work

Runs a script on one collector of job metrics.  While it is started, the collector samples the
depths of the queues that it watches at every interval; when it is stopped it samples them once
more, unless it is stopped at once.
-/

namespace RepoCollector.MetricsRun

/-- An operation of the script. -/
inductive Op where
  | record (report : Report) (count : Nat)
  | kind (name : String)
  | snapshot
  /-- Watches a new queue. -/
  | track (name : String) (capacity : Nat)
  /-- Puts jobs into a queue, as far as there is room. -/
  | put (queue count : Nat)
  | get (queue count : Nat)
  | start
  | stop (immediate : Bool)
  | sleep (millis : Nat)
  | debug
  | init
  | exported
deriving Repr

inductive Answer where
  | nothing
  | counts (counts : Counts)
  | tally (tally : Tally)
  | size (size : Nat)
  | text (text : String)
  | done
deriving Repr

/-- The collector, the queues, the next sample and the clock. -/
structure State where
  now : Instant := 0
  hub : MetricsHub
  interval : Duration
  /-- Whether a started collector has anything to run on. -/
  runtime : Bool
  queues : List (JobQueue Unit) := []
  /-- When a started collector samples next. -/
  sampleAt : Option Instant := none

/-- The depths of the queues. -/
def depths (s : State) : List (String × Nat) :=
  s.queues.map fun q => (q.name, q.size)

def sample (s : State) : State :=
  { s with hub := s.hub.sample (depths s) }

def crew : Crew State where
  now s := s.now
  setNow now s := { s with now }
  clients _ := [.task 0]
  step _ s :=
    match s.sampleAt with
    | some moment =>
      if moment ≤ s.now then
        some { sample s with sampleAt := some (s.interval.after moment) }
      else none
    | none => none
  deadlines s := s.sampleAt.toList

/-- Repeats a change. -/
def times {α : Type} (count : Nat) (change : α → α) (a : α) : α :=
  Nat.repeat change count a

/-- Makes one operation. -/
def perform (op : Op) (s : State) : State × Answer :=
  match op with
  | .record report count =>
    ({ s with hub := times count (·.record 0 report) s.hub }, .nothing)
  | .kind name => (s, .counts ((s.hub.snapshot 0).kind name))
  | .snapshot => (s, .tally (s.hub.snapshot 0))
  | .track name capacity => ({ s with queues := s.queues ++ [.make name capacity] }, .nothing)
  | .put queue count =>
    let s := { s with
      queues := s.queues.modify queue (times count fun q => (q.trySend (.task 0) ()).1) }
    (s, .size ((s.queues[queue]?.map (·.size)).getD 0))
  | .get queue count =>
    let s := { s with queues := s.queues.modify queue (times count fun q => q.tryRecv.1) }
    (s, .size ((s.queues[queue]?.map (·.size)).getD 0))
  | .start =>
    if s.runtime && s.sampleAt.isNone then
      ({ s with sampleAt := some (s.interval.after s.now) }, .nothing)
    else (s, .nothing)
  | .stop immediate =>
    let s := { s with sampleAt := none }
    (if immediate then s else sample s, .nothing)
  | .sleep millis => (crew.runUntil (s.now + millis) s, .nothing)
  | .debug => (s, .text (describeCollector (s.hub.snapshot 0) s.interval))
  | .init => ({ s with hub := s.hub.init }, .done)
  | .exported => (s, .text s.hub.exported)

/-- Runs a script on a new collector, the registry being initialized. -/
def run (interval : Duration) (runtime : Bool) (script : List Op) : List Answer :=
  let start : State := { hub := (MetricsHub.init {}).addCollector, interval, runtime }
  (script.foldl (fun (s, answers) op =>
    let (s, answer) := perform op s
    (s, answer :: answers)) (start, ([] : List Answer))).2.reverse

end RepoCollector.MetricsRun
