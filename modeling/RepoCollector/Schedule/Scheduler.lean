import RepoCollector.Backoff
import RepoCollector.Schedule.Lanes

/-!
# The scheduler

The scheduler gives a worker its next job.  A policy makes single attempts; the scheduler decides
what follows an attempt that found nothing: it gives up, or idles for a growing delay and lets the
policy try again.  A stop ends every request for a job, waiting or new, and is looked at before
anything else.
-/

namespace RepoCollector

/-- How single attempts to find a job are made, on a state `σ` with attempts in progress `κ`. -/
structure Policy (σ κ J : Type) where
  /-- Begins an attempt. -/
  start : Instant → σ → σ × κ
  /-- Takes an attempt further; none means that it has to wait. -/
  step : Instant → Client → κ → σ → Option (σ × (κ ⊕ Scheduled J))
  /-- Gives an attempt up. -/
  abandon : Client → κ → σ → σ
  /-- When an attempt that waits goes on by itself. -/
  deadline? : κ → Option Instant

/-- The policy of the two lanes. -/
def Lanes.policy : Policy Lanes Attempt LibraryJob where
  start now lanes := (lanes, Attempt.start now lanes)
  step := Attempt.step
  abandon := Attempt.abandon
  deadline? attempt := some attempt.deadline

/-- The scheduler's settings. -/
structure SchedulerOpts where
  /-- Give up as soon as nothing is ready, instead of waiting for the queues to close. -/
  notWait : Bool := false
  /-- The first delay after an attempt that found nothing. -/
  idleLeast : Duration := .ofMillis 100
  /-- The longest delay between two attempts. -/
  idleGreatest : Duration := .ofSecs 2
deriving DecidableEq, Repr

namespace SchedulerOpts

/-- The delays between attempts double. -/
def idle (opts : SchedulerOpts) : Backoff Float :=
  Backoff.make opts.idleLeast opts.idleGreatest 2.0

/-- The diagnostic text of a scheduler. -/
def describe (opts : SchedulerOpts) (stopped : Bool) : String :=
  "JobScheduler \x7b opts: JobSchedulerOpts \x7b not_wait_new_jobs: " ++ toString opts.notWait ++
    ", idle_min: " ++ opts.idleLeast.describe ++ ", idle_max: " ++ opts.idleGreatest.describe ++
    " \x7d, stopped: " ++ toString stopped ++ " \x7d"

end SchedulerOpts

/-- Where a request for the next job stands. -/
inductive RequestPhase (κ : Type) where
  /-- An attempt is about to begin. -/
  | asking
  | attempting (attempt : κ)
  | idling (wakeAt : Instant)
deriving Repr

/-- A worker's request for its next job. -/
structure JobRequest (κ : Type) where
  idle : Backoff Float
  phase : RequestPhase κ := .asking
deriving Repr

namespace JobRequest

variable {σ κ J : Type}

def start (opts : SchedulerOpts) : JobRequest κ :=
  { idle := opts.idle }

/-- One step of a request: it goes on, or it ends with a job or with nothing, or it has to wait.
`draw` is the chance that jitter uses if an idle delay begins. -/
def step (policy : Policy σ κ J) (opts : SchedulerOpts) (stopped : Bool) (now : Instant)
    (client : Client) (draw : Float) (request : JobRequest κ) (state : σ) :
    Option (σ × (JobRequest κ ⊕ Option J)) :=
  match request.phase with
  | .asking =>
    if stopped then some (state, .inr none)
    else
      let (state, attempt) := policy.start now state
      some (state, .inl { request with phase := .attempting attempt })
  | .attempting attempt =>
    if stopped then some (policy.abandon client attempt state, .inr none)
    else
      match policy.step now client attempt state with
      | none => none
      | some (state, .inl attempt) =>
        some (state, .inl { request with phase := .attempting attempt })
      | some (state, .inr (.job job)) => some (state, .inr (some job))
      | some (state, .inr .exhausted) => some (state, .inr none)
      | some (state, .inr .notReady) =>
        if opts.notWait then some (state, .inr none)
        else
          let (delay, idle) := request.idle.next (some draw)
          some (state, .inl { idle, phase := .idling (delay.after now) })
  | .idling wakeAt =>
    if stopped then some (state, .inr none)
    else if wakeAt ≤ now then some (state, .inl { request with phase := .asking })
    else none

/-- The request is given up. -/
def abandon (policy : Policy σ κ J) (client : Client) (request : JobRequest κ) (state : σ) : σ :=
  match request.phase with
  | .attempting attempt => policy.abandon client attempt state
  | _ => state

/-- When a request that waits goes on by itself. -/
def deadline? (policy : Policy σ κ J) (request : JobRequest κ) : Option Instant :=
  match request.phase with
  | .asking => none
  | .attempting attempt => policy.deadline? attempt
  | .idling wakeAt => some wakeAt

end JobRequest

end RepoCollector
