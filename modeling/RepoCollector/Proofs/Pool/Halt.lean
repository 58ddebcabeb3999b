import RepoCollector.Proofs.Pool.Roster
import RepoCollector.Proofs.Schedule.Dispatch

/-! # A pool that was stopped

A request for a job looks at the stop before anything else, so a worker of a stopped pool gives up
the attempt that it was at and leaves (`RepoCollector.JobRequest.step_of_stopped`).  From the stop
on, whatever the state of the pool was then, no worker is given a job, and what becomes of the
queues through the workers is what giving up attempts does to them; the jobs in hand end one by one,
and each of them is reported once (`RepoCollector.Roster.halts_for_good`).
-/

namespace RepoCollector

variable {σ κ β : Type}

/-- Giving up an attempt takes nothing from what is buffered: no job is held between two steps of an
attempt. -/
def Policy.Spares {J : Type} (policy : Policy σ κ J) (buffered : σ → β) : Prop :=
  ∀ client attempt source, buffered (policy.abandon client attempt source) = buffered source

/-- The jobs that wait in the lanes. -/
def Lanes.buffered (lanes : Lanes) (kind : JobKind) : List LibraryJob := (lanes.queue kind).items

theorem Lanes.policy_spares : Lanes.policy.Spares Lanes.buffered :=
  fun client attempt lanes => funext fun kind =>
    ((attempt.abandon_sameJobs client lanes).queue kind).items

namespace JobRequest

variable {J : Type} {policy : Policy σ κ J}

theorem buffered_abandon {buffered : σ → β} (spares : policy.Spares buffered) (client : Client)
    (request : JobRequest κ) (source : σ) :
    buffered (request.abandon policy client source) = buffered source := by
  unfold abandon
  split
  · exact spares _ _ _
  · rfl

end JobRequest

namespace Pool

/-- Whether the job in a worker's hands was told to give up; none if the worker has no job. -/
def told? (pool : Pool σ κ) (index : Nat) : Option Bool :=
  (pool.held index).map fun _ => pool.cancelled

variable {policy : Policy σ κ LibraryJob} {now : Instant} {answer : Option JobResult}
  {chance : Chance} {pool after : Pool σ κ} {front back : List (Worker κ)} {worker : Worker κ}
  {report : Option Report}

/-- **A turn after the stop.**  The worker takes no job into its hands, and does at most give up the
request that it was at. -/
theorem Turn.of_stopped (turn : Turn policy now answer chance pool front worker back after report)
    (shape : pool.workers = front ++ worker :: back) (stopped : pool.stopped = true) :
    pool.begun after front.length = [] ∧
      (after.source = pool.source ∨
        ∃ client request, after.source = JobRequest.abandon policy client request pool.source) := by
  obtain ⟨changed, reshaped⟩ := turn.workers
  rw [begun, held_middle shape, held_middle reshaped]
  cases turn with
  | retires | asks | succeeds | fails =>
      cases List.append_cancel_left reshaped
      simp [Worker.job?]
  | reconsiders =>
      cases List.append_cancel_left reshaped
      exact ⟨by simp [Worker.job?], .inr ⟨_, _, rfl⟩⟩
  | goesOn _ stepped | begins _ stepped =>
      rw [stopped, JobRequest.step_of_stopped] at stepped
      cases stepped
  | exits _ stepped =>
      rw [stopped, JobRequest.step_of_stopped] at stepped
      cases stepped
      cases List.append_cancel_left reshaped
      exact ⟨by simp [Worker.job?], .inr ⟨_, _, rfl⟩⟩

theorem Turn.cancelled_eq
    (turn : Turn policy now answer chance pool front worker back after report) :
    after.cancelled = pool.cancelled := by
  cases turn <;> rfl

end Pool

/-- Whether a move tells the jobs in hand to give up. -/
def RosterMove.isAlarm : RosterMove σ → Bool
  | .stop immediate => immediate
  | _ => false

/-- What is reported of a job that has come to a result. -/
def LibraryJob.reportOf (job : LibraryJob) : JobResult → Report
  | .ok () => ⟨job.kind.label, .succeeded⟩
  | .error _ => ⟨job.kind.label, .failed⟩

namespace Roster

variable {policy : Policy σ κ LibraryJob} {halted : Pool σ κ} {r s : Roster σ κ}

/-- **What holds of a roster from the stop on.**  It began with the jobs that were in hand then. -/
structure Halted (halted : Pool σ κ) (r : Roster σ κ) : Prop where
  stopped : r.pool.stopped = true
  idle : r.started = []
  conserved : (r.finished.map Prod.fst ++ r.pool.hands).Perm halted.hands
  completed : r.pool.completed = halted.completed + r.finished.countP (·.2.event = .succeeded)
  failed : r.pool.failed = halted.failed + r.finished.countP (·.2.event = .failed)
  reports : ∀ entry ∈ r.finished, entry.2.kind = entry.1.kind.label ∧
    (entry.2.event = .succeeded ∨ entry.2.event = .failed)

theorem halted_stop (pool : Pool σ κ) (immediate : Bool) :
    ({ pool := pool.stop immediate } : Roster σ κ).Halted pool where
  stopped := rfl
  idle := rfl
  conserved := .refl _
  completed := rfl
  failed := rfl
  reports := fun _ member => nomatch member

theorem Halted.advance (held : r.Halted halted) {now : Instant} {index : Nat}
    {answer : Option JobResult} {chance : Chance} {after : Pool σ κ} {report : Option Report}
    (stepped : r.pool.stepWorker policy now index answer chance = some (after, report)) :
    (r.advance index after report).Halted halted := by
  obtain ⟨front, worker, back, shape, rfl, turn⟩ := Pool.turn_of_stepWorker stepped
  have nothing := (turn.of_stopped shape held.stopped).1
  have counts := turn.counts shape
  refine ⟨turn.settings.2.2.2.2.trans held.stopped, ?_, ?_, ?_, ?_, ?_⟩
  · simp only [Roster.advance, nothing, List.append_nil]
    exact held.idle
  · have perm := turn.hands_perm shape
    rw [nothing, List.append_nil] at perm
    simp only [Roster.advance, List.map_append, List.append_assoc]
    exact (perm.append_left _).trans held.conserved
  · simp only [Roster.advance, List.countP_append]
    rw [counts.1, held.completed, Nat.add_assoc]
  · simp only [Roster.advance, List.countP_append]
    rw [counts.2.1, held.failed, Nat.add_assoc]
  · intro entry member
    obtain earlier | now := List.mem_append.mp member
    · exact held.reports entry earlier
    · exact counts.2.2 entry now

theorem Halted.joins (held : r.Halted halted) (joins : r.Joins s) : s.Halted halted := by
  obtain ⟨started, finished, target, resizes, running, count, same⟩ := joins
  have hands : s.pool.hands = r.pool.hands := by
    rw [same, Pool.hands_spawn]
    rfl
  refine ⟨?_, started.trans held.idle, ?_, ?_, ?_, ?_⟩
  · rw [same]
    exact held.stopped
  · rw [finished, hands]
    exact held.conserved
  · rw [same, finished]
    exact held.completed
  · rw [same, finished]
    exact held.failed
  · rw [finished]
    exact held.reports

theorem Halted.act {move : RosterMove σ} (held : r.Halted halted)
    (moved : act policy move r = some s) : s.Halted halted := by
  cases move with
  | run runtime => exact held.joins (joins_run moved)
  | resize runtime count => exact held.joins (joins_resize moved)
  | stop immediate =>
      cases moved
      exact ⟨rfl, held.idle, held.conserved, held.completed, held.failed, held.reports⟩
  | worker now index answer chance =>
      obtain ⟨⟨after, report⟩, stepped, rfl⟩ := Option.map_eq_some_iff.mp moved
      exact held.advance stepped
  | outside change =>
      cases moved
      exact ⟨held.stopped, held.idle, held.conserved, held.completed, held.failed, held.reports⟩

/-! ## Tokens -/

theorem cancelled_act {move : RosterMove σ} (moved : act policy move r = some s) :
    s.pool.cancelled = (r.pool.cancelled || move.isAlarm) := by
  cases move with
  | run runtime =>
      obtain ⟨_, _, _, _, _, _, same⟩ := joins_run moved
      rw [same]
      exact (Bool.or_false _).symm
  | resize runtime count =>
      obtain ⟨_, _, _, _, _, _, same⟩ := joins_resize moved
      rw [same]
      exact (Bool.or_false _).symm
  | stop immediate =>
      cases moved
      rfl
  | worker now index answer chance =>
      obtain ⟨⟨after, report⟩, stepped, rfl⟩ := Option.map_eq_some_iff.mp moved
      obtain ⟨front, worker, back, _, _, turn⟩ := Pool.turn_of_stepWorker stepped
      exact turn.cancelled_eq.trans (Bool.or_false _).symm
  | outside change =>
      cases moved
      exact (Bool.or_false _).symm

theorem cancelled_play {moves : List (RosterMove σ)}
    (played : play (act policy) moves r = some s) :
    s.pool.cancelled = (r.pool.cancelled || moves.any (·.isAlarm)) := by
  have kept (past : List (RosterMove σ)) (move : RosterMove σ) (first last : Roster σ κ)
      (before : first.pool.cancelled = (r.pool.cancelled || past.any (·.isAlarm)))
      (moved : act policy move first = some last) :
      last.pool.cancelled = (r.pool.cancelled || (past ++ [move]).any (·.isAlarm)) := by
    rw [cancelled_act moved, before, List.any_append, List.any_cons, List.any_nil, Bool.or_false,
      Bool.or_assoc]
  exact play_follows kept (Bool.or_false _).symm played

/-! ## After the stop -/

/-- The job in a worker's hands can end at any time, with any result. -/
theorem exists_act_of_held {now : Instant} {index : Nat} {job : LibraryJob}
    (held : r.pool.held index = some job) (result : JobResult) (chance : Chance) :
    ∃ s, act policy (.worker now index (some result) chance) r = some s ∧
      s.finished = r.finished ++ [(job, job.reportOf result)] := by
  obtain ⟨worker, found, has⟩ := Option.bind_eq_some_iff.mp held
  obtain ⟨deadline, working⟩ : ∃ deadline, worker.phase = .working job deadline := by
    unfold Worker.job? at has
    split at has
    next phase =>
      cases has
      exact ⟨_, phase⟩
    · cases has
  have reports : (r.pool.finish index job result).2 = job.reportOf result := by
    unfold Pool.finish
    rcases result with error | _
    · cases error <;> rfl
    · rfl
  refine ⟨r.advance index (r.pool.finish index job result).1
    (some (r.pool.finish index job result).2), ?_, ?_⟩
  · simp only [Roster.act, Pool.stepWorker, found, working, Option.map_some]
  · simp only [Roster.advance, Pool.ended, held, reports, Option.toList_some, List.flatMap_cons,
      List.flatMap_nil, List.map_cons, List.map_nil, List.append_nil]

/-- **What is final about a stop.**  The pool was stopped when it was as `halted`, and the jobs that
were in hand have been told to give up or not. -/
structure IsFinal (policy : Policy σ κ LibraryJob) (buffered : σ → β) (halted : Pool σ κ)
    (told : Bool) (r : Roster σ κ) : Prop where
  /-- No worker has been given a job. -/
  idle : r.started = []
  /-- No worker takes a job from the queues. -/
  untouched : ∀ now index answer chance s,
    act policy (.worker now index answer chance) r = some s →
      buffered s.pool.source = buffered r.pool.source
  /-- The jobs that were in hand have ended, each of them once, or are still in hand. -/
  conserved : (r.finished.map Prod.fst ++ r.pool.hands).Perm halted.hands
  counted : r.pool.completed + r.pool.failed =
    halted.completed + halted.failed + r.finished.length
  reports : ∀ entry ∈ r.finished, entry.2.kind = entry.1.kind.label ∧
    (entry.2.event = .succeeded ∨ entry.2.event = .failed)
  /-- A job in hand is recorded when it comes to a result. -/
  ends : ∀ now index job result chance, r.pool.held index = some job →
    ∃ s, act policy (.worker now index (some result) chance) r = some s ∧
      s.finished = r.finished ++ [(job, job.reportOf result)]
  told : ∀ index, r.pool.told? index = (r.pool.held index).map fun _ => told

theorem Halted.counted (held : r.Halted halted) : r.pool.completed + r.pool.failed =
    halted.completed + halted.failed + r.finished.length := by
  have whole : r.finished.length = r.finished.countP (·.2.event = .succeeded) +
      r.finished.countP (·.2.event = .failed) := by
    rw [List.length_eq_countP_add_countP (·.2.event = .succeeded)]
    refine congrArg _ (List.countP_congr fun entry member => ?_)
    obtain event | event := (held.reports entry member).2 <;> simp [event]
  rw [held.completed, held.failed, whole]
  omega

theorem Halted.untouched {buffered : σ → β} (held : r.Halted halted)
    (spares : policy.Spares buffered) {now : Instant} {index : Nat} {answer : Option JobResult}
    {chance : Chance} (moved : Roster.act policy (.worker now index answer chance) r = some s) :
    buffered s.pool.source = buffered r.pool.source := by
  obtain ⟨⟨after, report⟩, stepped, rfl⟩ := Option.map_eq_some_iff.mp moved
  obtain ⟨front, worker, back, shape, rfl, turn⟩ := Pool.turn_of_stepWorker stepped
  change buffered after.source = _
  obtain same | ⟨client, request, given⟩ := (turn.of_stopped shape held.stopped).2
  · rw [same]
  · rw [given, JobRequest.buffered_abandon spares]

/-- **A stop is final.**  Stop a pool in any state, and let anything happen to it afterwards: it may
be started, resized and stopped again, its workers, old and new, go on, and others do to the queues
what they like.  Then no worker is given a job any more or takes one from the queues, every job that
was in hand is recorded once, when it ends, and it has been told to give up exactly if this or
another stop was an immediate one. -/
theorem halts_for_good {buffered : σ → β} (spares : policy.Spares buffered) (pool : Pool σ κ)
    (immediate : Bool) {moves : List (RosterMove σ)}
    (played : play (act policy) moves { pool := pool.stop immediate } = some r) :
    r.IsFinal policy buffered pool
      (pool.cancelled || immediate || moves.any (·.isAlarm)) := by
  have kept (move : RosterMove σ) (first last : Roster σ κ) (_ : True)
      (held : first.Halted pool) (moved : act policy move first = some last) : last.Halted pool :=
    held.act moved
  have held := play_keeps kept (fun _ _ => trivial) (halted_stop pool immediate) played
  exact
    { idle := held.idle
      untouched := fun _ _ _ _ _ => held.untouched spares
      conserved := held.conserved
      counted := held.counted
      reports := held.reports
      ends := fun _ _ _ result chance found => exists_act_of_held found result chance
      told := by
        intro index
        rw [Pool.told?, cancelled_play played]
        rfl }

/-- A pool that runs: one worker has a job in hand, another is at an attempt, and a job is buffered.
-/
def rushHour : Pool Lanes Attempt :=
  { source := { shortLanes with download := (shortLanes.download.startSend (.task 0)
      (.download ["late"])).1 }
    opts := {}
    jobTimeout := none
    target := 2
    live := 2
    running := true
    workers := [{ phase := .working (.download ["early"]) none, seen := 0 },
      { phase := .asking { idle := ({} : SchedulerOpts).idle, phase := .attempting ⟨1000, false⟩ },
        seen := 0 }]
    active := 1 }

/-- The pool is made larger, the worker that waits and the new one leave, and the job is cancelled.
-/
def windUp : List (RosterMove Lanes) :=
  [.resize true 3, .worker 0 1 none {}, .worker 0 2 none {}, .worker 0 2 none {},
    .worker 5 0 (some (.error .cancelled)) {}]

theorem halts_for_good_rushHour :
    ∃ r, play (act Lanes.policy) windUp { pool := rushHour.stop true } = some r ∧
      r.left = [1, 2] ∧ r.pool.source.buffered .download = [.download ["late"]] ∧
      r.finished = [(.download ["early"], ⟨"download", .failed⟩)] ∧
      r.IsFinal Lanes.policy Lanes.buffered rushHour true := by
  refine ⟨_, rfl, rfl, rfl, rfl, ?_⟩
  have played : play (act Lanes.policy) windUp { pool := rushHour.stop true } = some _ := rfl
  exact halts_for_good Lanes.policy_spares rushHour true played

end Roster

end RepoCollector
