import Mathlib.Data.List.Basic
import Mathlib.Logic.Function.Basic
import RepoCollector.Proofs.Play
import RepoCollector.Proofs.Pool.Turn
import RepoCollector.Proofs.Schedule.Dispatch

/-! # The ledger of a pool

A ledger keeps, beside a pool over the lanes, the jobs that each lane has accepted, those that
workers have taken into their hands, and those that have ended.  It is played through anything that
can happen to a pool: steps of its workers, changes of its size, stops, and what senders do with the
lanes.

The ledger is sound at every moment (`RepoCollector.Ledger.Sound`): the jobs that were started on a
lane, followed by those that still wait there, are those that the lane has accepted, and the jobs
that were started are those in hand and those that have ended.  While the pool is asked for at least
one worker and is not stopped, its last worker leaves only when the lanes are exhausted
(`RepoCollector.Ledger.Staffed`).  So a pool whose workers have all left has processed everything
(`RepoCollector.Ledger.processes_every_job`).
-/

namespace RepoCollector

theorem JobKind.label_inj {kind other : JobKind} : kind.label = other.label ↔ kind = other := by
  cases kind <;> cases other <;> decide

/-- A pool over the lanes, and the jobs that went through it. -/
structure Ledger where
  pool : Pool Lanes Attempt
  /-- The jobs that each lane has accepted, the first one first. -/
  accepted : JobKind → List LibraryJob := fun _ => []
  /-- The jobs that workers have taken into their hands, the first one first. -/
  started : List LibraryJob := []
  /-- The jobs that have ended, with what was reported of them. -/
  finished : List (LibraryJob × Report) := []

/-- What can happen to a pool and its lanes. -/
inductive PoolMove where
  | run (runtime : Bool)
  /-- The number of workers is set, where there may be nothing for new ones to run on. -/
  | resize (runtime : Bool) (count : Nat)
  | stop (immediate : Bool)
  | worker (now : Instant) (index : Nat) (answer : Option JobResult) (chance : Chance)
  /-- A sender tries for the first time. -/
  | offer (lane : JobKind) (client : Client) (job : LibraryJob)
  /-- A sender that waits tries again. -/
  | retry (lane : JobKind) (client : Client) (job : LibraryJob)
  | withdraw (lane : JobKind) (client : Client)
  | close (lane : JobKind)

/-- Moves that leave a pool with at least one worker to have. -/
def PoolMove.IsStaffing : PoolMove → Prop
  | .resize _ count => 0 < count
  | .stop _ => False
  | _ => True

namespace Ledger

/-- The ledger of a pool that does not run yet, when the lanes have accepted nothing. -/
def make (lanes : Lanes) (opts : SchedulerOpts) (config : PoolConfig) : Ledger :=
  { pool := .make lanes opts config }

/-- A sender has put jobs at the end of a lane, or has only changed who waits there. -/
def deliver (l : Ledger) (lane : JobKind) (q : JobQueue LibraryJob) (jobs : List LibraryJob) :
    Ledger :=
  { l with
    pool := { l.pool with source := l.pool.source.setQueue lane q }
    accepted := Function.update l.accepted lane (l.accepted lane ++ jobs) }

/-- A worker has made a step, and may have taken a job into its hands or given one up. -/
def advance (l : Ledger) (index : Nat) (pool : Pool Lanes Attempt) (report : Option Report) :
    Ledger :=
  { l with
    pool
    started := l.started ++ l.pool.begun pool index
    finished := l.finished ++ l.pool.ended index report }

/-- Makes a move, if it is possible: a worker that has to wait makes no step. -/
def act (move : PoolMove) (l : Ledger) : Option Ledger :=
  match move with
  | .run runtime => some { l with pool := (l.pool.run runtime).1 }
  | .resize runtime count => some { l with pool := l.pool.resize runtime count }
  | .stop immediate => some { l with pool := l.pool.stop immediate }
  | .worker now index answer chance =>
    (l.pool.stepWorker Lanes.policy now index answer chance).map fun after =>
      l.advance index after.1 after.2
  | .offer lane client job =>
    let told := (l.pool.source.queue lane).startSend client job
    some (l.deliver lane told.1 (SendFault.buffered job told.2))
  | .retry lane client job =>
    let told := (l.pool.source.queue lane).resumeSend client job
    some (l.deliver lane told.1 (SendFault.buffered job told.2))
  | .withdraw lane client =>
    some (l.deliver lane ((l.pool.source.queue lane).abandonSend client) [])
  | .close lane => some (l.deliver lane (l.pool.source.queue lane).close [])

/-- The jobs that were started with the work of a lane. -/
def startedOn (l : Ledger) (lane : JobKind) : List LibraryJob :=
  l.started.filter (·.work = some lane)

/-- The jobs that have ended, having been given the work of a lane. -/
def finishedOn (l : Ledger) (lane : JobKind) : List LibraryJob :=
  (l.finished.map Prod.fst).filter (·.work = some lane)

/-- The jobs that a lane has accepted, with its work attached. -/
def acceptedOn (l : Ledger) (lane : JobKind) : List LibraryJob :=
  (l.accepted lane).map (·.withWork lane)

def waitingOn (l : Ledger) (lane : JobKind) : List LibraryJob :=
  (l.pool.source.queue lane).items.map (·.withWork lane)

/-- **What holds of a ledger at every moment.** -/
structure Sound (l : Ledger) : Prop where
  balanced : l.pool.source.Balanced
  live : l.pool.live = l.pool.staff
  active : l.pool.active = l.pool.hands.length
  idle : l.pool.running = false → l.pool.workers = []
  order : ∀ lane, l.startedOn lane ++ l.waitingOn lane = l.acceptedOn lane
  scheduled : ∀ job ∈ l.started, ∃ lane ∈ l.pool.source.reads.kinds, job.work = some lane
  conserved : (l.finished.map Prod.fst ++ l.pool.hands).Perm l.started
  completed : l.pool.completed = l.finished.countP (·.2.event = .succeeded)
  failed : l.pool.failed = l.finished.countP (·.2.event = .failed)
  reports : ∀ entry ∈ l.finished, entry.2.kind = entry.1.kind.label ∧
    (entry.2.event = .succeeded ∨ entry.2.event = .failed)

/-- What holds besides while the pool is asked for at least one worker and is not stopped. -/
structure Staffed (l : Ledger) : Prop where
  sound : l.Sound
  patient : l.pool.opts.notWait = false
  going : l.pool.stopped = false
  target : 1 ≤ l.pool.target
  /-- The last worker leaves only when there is nothing more for it. -/
  manned : l.pool.running = true → 1 ≤ l.pool.live ∨ l.pool.source.IsExhausted

theorem sound_make {lanes : Lanes}
    (empty : ∀ lane, ∃ name capacity, lanes.queue lane = .make name capacity)
    (opts : SchedulerOpts) (config : PoolConfig) : (make lanes opts config).Sound := by
  refine ⟨fun lane => ?_, rfl, rfl, fun _ => rfl, fun lane => ?_, (fun _ member => nomatch member),
    .refl _, rfl, rfl, (fun _ member => nomatch member)⟩
  · obtain ⟨name, capacity, fresh⟩ := empty lane
    change (lanes.queue lane).Balanced
    rw [fresh]
    exact JobQueue.balanced_make name capacity
  · obtain ⟨name, capacity, fresh⟩ := empty lane
    change (lanes.queue lane).items.map _ = []
    rw [fresh]
    rfl

/-! ## Senders -/

theorem Sound.deliver {l : Ledger} (sound : l.Sound) {lane : JobKind} {q : JobQueue LibraryJob}
    {jobs : List LibraryJob} (balanced : (l.pool.source.queue lane).Balanced → q.Balanced)
    (items : q.items = (l.pool.source.queue lane).items ++ jobs) :
    (l.deliver lane q jobs).Sound := by
  refine ⟨fun other => ?_, sound.live, sound.active, sound.idle, fun other => ?_, ?_,
    sound.conserved, sound.completed, sound.failed, sound.reports⟩
  · change ((l.pool.source.setQueue lane q).queue other).Balanced
    by_cases equal : other = lane
    · subst equal
      rw [Lanes.queue_setQueue_self]
      exact balanced (sound.balanced other)
    · rw [Lanes.queue_setQueue_of_ne _ equal]
      exact sound.balanced other
  · have order := sound.order other
    simp only [startedOn, waitingOn, acceptedOn] at order
    simp only [startedOn, waitingOn, acceptedOn, Ledger.deliver]
    by_cases equal : other = lane
    · subst equal
      rw [Lanes.queue_setQueue_self, Function.update_self, items, List.map_append, List.map_append,
        ← List.append_assoc, order]
    · rw [Lanes.queue_setQueue_of_ne _ equal, Function.update_of_ne equal]
      exact order
  · intro job started
    change ∃ lane' ∈ (l.pool.source.setQueue lane q).reads.kinds, _
    rw [Lanes.reads_setQueue]
    exact sound.scheduled job started

/-- Lanes that are exhausted stay so, since a closed lane takes no job. -/
theorem Staffed.deliver {l : Ledger} (staffed : l.Staffed) {lane : JobKind}
    {q : JobQueue LibraryJob} {jobs : List LibraryJob}
    (balanced : (l.pool.source.queue lane).Balanced → q.Balanced)
    (items : q.items = (l.pool.source.queue lane).items ++ jobs)
    (shut : (l.pool.source.queue lane).isClosed = true → q.isClosed = true ∧ jobs = []) :
    (l.deliver lane q jobs).Staffed := by
  refine ⟨staffed.sound.deliver balanced items, staffed.patient, staffed.going, staffed.target,
    fun running => (staffed.manned running).imp_right fun exhausted => ?_⟩
  intro other read
  rw [show (l.deliver lane q jobs).pool.source = l.pool.source.setQueue lane q from rfl,
    Lanes.reads_setQueue] at read
  have drained := exhausted other read
  change ((l.pool.source.setQueue lane q).queue other).isExhausted = true
  by_cases equal : other = lane
  · subst equal
    rw [Lanes.queue_setQueue_self]
    simp only [JobQueue.isExhausted, Bool.and_eq_true, List.isEmpty_iff] at drained ⊢
    obtain ⟨closed, none⟩ := shut drained.1
    refine ⟨closed, ?_⟩
    rw [items, none, drained.2]
    rfl
  · rw [Lanes.queue_setQueue_of_ne _ equal]
    exact drained

/-! ## Workers -/

/-- A worker's turn takes a job from a lane into the worker's hands, or leaves all jobs where they
are. -/
theorem begun_cases {now : Instant} {answer : Option JobResult} {chance : Chance}
    {pool after : Pool Lanes Attempt} {front back : List (Worker Attempt)}
    {worker : Worker Attempt} {report : Option Report} (balanced : pool.source.Balanced)
    (turn : Pool.Turn Lanes.policy now answer chance pool front worker back after report)
    (shape : pool.workers = front ++ worker :: back) :
    (∃ lane job, pool.begun after front.length = [job.withWork lane] ∧
      Lanes.Took lane job pool.source after.source) ∨
    pool.begun after front.length = [] ∧ pool.source.SameJobs after.source := by
  obtain ⟨changed, reshaped⟩ := turn.workers
  rw [Pool.begun, Pool.held_middle shape, Pool.held_middle reshaped]
  cases turn with
  | retires phase | asks phase =>
      cases List.append_cancel_left reshaped
      refine Or.inr ⟨?_, .refl _⟩
      simp [Worker.job?]
  | succeeds phase | fails phase =>
      cases List.append_cancel_left reshaped
      refine Or.inr ⟨?_, .refl _⟩
      simp [Worker.job?]
  | reconsiders =>
      cases List.append_cancel_left reshaped
      exact Or.inr ⟨by simp [Worker.job?], JobRequest.abandon_sameJobs _ _ _⟩
  | goesOn _ stepped =>
      cases List.append_cancel_left reshaped
      rcases JobRequest.step_cases balanced stepped with ⟨_, _, other, _⟩ | ⟨same, _⟩
      · cases other
      · exact Or.inr ⟨by simp [Worker.job?], same⟩
  | begins asking stepped =>
      cases List.append_cancel_left reshaped
      rcases JobRequest.step_cases balanced stepped with ⟨lane, job, found, took⟩ | ⟨_, other⟩
      · cases found
        exact Or.inl ⟨lane, job, by simp [Worker.job?, asking], took⟩
      · rcases other with ⟨_, other⟩ | ⟨other, _⟩ <;> cases other
  | exits _ stepped =>
      cases List.append_cancel_left reshaped
      rcases JobRequest.step_cases balanced stepped with ⟨_, _, other, _⟩ | ⟨same, _⟩
      · cases other
      · exact Or.inr ⟨by simp [Worker.job?], same⟩

theorem Sound.advance {l : Ledger} (sound : l.Sound) {now : Instant} {index : Nat}
    {answer : Option JobResult} {chance : Chance} {after : Pool Lanes Attempt}
    {report : Option Report}
    (stepped : l.pool.stepWorker Lanes.policy now index answer chance = some (after, report)) :
    (l.advance index after report).Sound := by
  obtain ⟨front, worker, back, shape, rfl, turn⟩ := Pool.turn_of_stepWorker stepped
  have kept := turn.settings
  have counts := turn.counts shape
  have taken := begun_cases sound.balanced turn shape
  refine ⟨?_, turn.live_eq shape sound.live, turn.active_eq shape sound.active, ?_, ?_, ?_, ?_, ?_,
    ?_, ?_⟩
  · rcases taken with ⟨_, _, _, took⟩ | ⟨_, same⟩
    · exact took.balanced sound.balanced
    · exact same.balanced sound.balanced
  · intro idle
    have none := sound.idle (kept.2.2.2.1.symm.trans idle)
    rw [shape] at none
    exact absurd none (List.append_ne_nil_of_right_ne_nil _ (List.cons_ne_nil _ _))
  · intro lane
    have order := sound.order lane
    simp only [startedOn, waitingOn, acceptedOn] at order
    simp only [startedOn, waitingOn, acceptedOn, Ledger.advance, List.filter_append]
    rcases taken with ⟨other, job, begun, took⟩ | ⟨begun, same⟩
    · rw [begun]
      by_cases equal : lane = other
      · subst equal
        rw [took.items, List.map_cons] at order
        simpa [LibraryJob.withWork] using order
      · have different : (job.withWork other).work ≠ some lane :=
          fun same => equal (Option.some.inj same).symm
        rw [took.others lane equal]
        simpa [different] using order
    · rw [begun, (same.queue lane).items, List.filter_nil, List.append_nil]
      exact order
  · intro job started
    change ∃ lane ∈ after.source.reads.kinds, _
    have reads : after.source.reads = l.pool.source.reads := by
      rcases taken with ⟨_, _, _, took⟩ | ⟨_, same⟩
      · exact took.reads
      · exact same.reads
    rw [reads]
    rcases List.mem_append.mp started with earlier | now
    · exact sound.scheduled job earlier
    · rcases taken with ⟨lane, raw, begun, took⟩ | ⟨begun, _⟩
      · rw [begun, List.mem_singleton] at now
        subst now
        exact ⟨lane, took.read, rfl⟩
      · rw [begun] at now
        cases now
  · -- What has ended was in hand, and what was in hand or has begun is in hand or has ended.
    have perm := turn.hands_perm shape
    simp only [Ledger.advance, List.map_append, List.append_assoc]
    refine (perm.append_left _).trans ?_
    rw [← List.append_assoc]
    exact sound.conserved.append_right _
  · simp only [Ledger.advance, List.countP_append]
    rw [counts.1, sound.completed]
  · simp only [Ledger.advance, List.countP_append]
    rw [counts.2.1, sound.failed]
  · intro entry member
    rcases List.mem_append.mp member with earlier | now
    · exact sound.reports entry earlier
    · exact counts.2.2 entry now

/-- The last worker of a pool leaves only when the lanes are exhausted: one that retires leaves
others behind. -/
theorem Staffed.advance {l : Ledger} (staffed : l.Staffed) {now : Instant} {index : Nat}
    {answer : Option JobResult} {chance : Chance} {after : Pool Lanes Attempt}
    {report : Option Report}
    (stepped : l.pool.stepWorker Lanes.policy now index answer chance = some (after, report)) :
    (l.advance index after report).Staffed := by
  have sound := staffed.sound.advance stepped
  obtain ⟨front, worker, back, shape, rfl, turn⟩ := Pool.turn_of_stepWorker stepped
  have kept := turn.settings
  have balanced := staffed.sound.balanced
  refine ⟨sound, kept.1 ▸ staffed.patient, kept.2.2.2.2.trans staffed.going,
    kept.2.1 ▸ staffed.target, fun running => ?_⟩
  have target := staffed.target
  have manned := staffed.manned (kept.2.2.2.1.symm.trans running)
  cases turn with
  | retires _ surplus =>
      exact Or.inl (Nat.le_sub_one_of_lt (Nat.lt_of_le_of_lt target surplus))
  | asks => exact manned
  | reconsiders => exact manned.imp_right (JobRequest.abandon_sameJobs _ _ _).isExhausted
  | goesOn _ asked =>
      rcases JobRequest.step_cases balanced asked with ⟨_, _, other, _⟩ | ⟨same, _⟩
      · cases other
      · exact manned.imp_right same.isExhausted
  | begins _ asked =>
      rcases JobRequest.step_cases balanced asked with ⟨_, _, _, took⟩ | ⟨_, other⟩
      · exact Or.inl (manned.resolve_right took.not_isExhausted)
      · rcases other with ⟨_, other⟩ | ⟨other, _⟩ <;> cases other
  | exits _ asked =>
      rcases JobRequest.step_cases balanced asked with ⟨_, _, other, _⟩ | ⟨same, ended⟩
      · cases other
      · rcases ended with ⟨_, other⟩ | ⟨_, stopped | unwaiting | exhausted⟩
        · cases other
        · exact Bool.noConfusion (staffed.going.symm.trans stopped)
        · exact Bool.noConfusion (staffed.patient.symm.trans unwaiting)
        · exact Or.inr (same.isExhausted exhausted)
  | succeeds | fails => exact manned

/-! ## Runs -/

/-- New workers have no jobs in hand, so they keep a ledger sound. -/
theorem Sound.spawn {l : Ledger} (sound : l.Sound) (count : Nat) (running : l.pool.running = true) :
    ({ l with pool := l.pool.spawn count } : Ledger).Sound := by
  refine ⟨sound.balanced, ?_, ?_, ?_, sound.order, sound.scheduled, ?_, sound.completed,
    sound.failed, sound.reports⟩
  · change l.pool.live + count = (l.pool.spawn count).staff
    rw [Pool.staff_spawn, sound.live]
  · change l.pool.active = (l.pool.spawn count).hands.length
    rw [Pool.hands_spawn, sound.active]
  · exact fun idle => Bool.noConfusion (running.symm.trans idle)
  · change (_ ++ (l.pool.spawn count).hands).Perm _
    rw [Pool.hands_spawn]
    exact sound.conserved

/-- **Every move keeps a ledger sound.** -/
theorem Sound.act {l m : Ledger} {move : PoolMove} (sound : l.Sound)
    (moved : l.act move = some m) : m.Sound := by
  cases move with
  | run runtime =>
      cases moved
      rcases l.pool.run_cases runtime with same | begun
      · rw [same]
        exact sound
      · rw [begun]
        have running : ({ l with pool := { l.pool with running := true } } : Ledger).Sound :=
          ⟨sound.balanced, sound.live, sound.active, (fun idle => nomatch idle), sound.order,
            sound.scheduled, sound.conserved, sound.completed, sound.failed, sound.reports⟩
        exact running.spawn l.pool.target rfl
  | resize runtime count =>
      cases moved
      have resized : ({ l with pool := { l.pool with
          target := count, resizes := l.pool.resizes + 1 } } : Ledger).Sound :=
        ⟨sound.balanced, sound.live, sound.active, sound.idle, sound.order, sound.scheduled,
          sound.conserved, sound.completed, sound.failed, sound.reports⟩
      rw [Pool.resize_eq_spawn]
      split
      next runs => exact resized.spawn _ (Bool.and_eq_true_iff.mp runs).2
      · rw [Pool.spawn_zero]
        exact resized
  | stop immediate =>
      cases moved
      exact ⟨sound.balanced, sound.live, sound.active, sound.idle, sound.order, sound.scheduled,
        sound.conserved, sound.completed, sound.failed, sound.reports⟩
  | worker now index answer chance =>
      obtain ⟨⟨after, report⟩, stepped, rfl⟩ := Option.map_eq_some_iff.mp moved
      exact sound.advance stepped
  | offer lane client job =>
      cases moved
      exact sound.deliver ((l.pool.source.queue lane).startSend_keeps client job).balanced
        ((l.pool.source.queue lane).items_startSend client job)
  | retry lane client job =>
      cases moved
      exact sound.deliver ((l.pool.source.queue lane).resumeSend_keeps client job).balanced
        ((l.pool.source.queue lane).items_resumeSend client job)
  | withdraw lane client =>
      cases moved
      exact sound.deliver ((l.pool.source.queue lane).abandonSend_keeps client).balanced
        (List.append_nil _).symm
  | close lane =>
      cases moved
      exact sound.deliver JobQueue.Balanced.close (List.append_nil _).symm

/-- **A pool that is to have workers has one, or has nothing more to do.** -/
theorem Staffed.act {l m : Ledger} {move : PoolMove} (staffing : move.IsStaffing)
    (staffed : l.Staffed) (moved : l.act move = some m) : m.Staffed := by
  have sound := staffed.sound.act moved
  cases move with
  | run runtime =>
      cases moved
      rcases l.pool.run_cases runtime with same | begun
      · rw [same]
        exact staffed
      · rw [begun] at sound ⊢
        refine ⟨sound, staffed.patient, staffed.going, staffed.target, fun _ => Or.inl ?_⟩
        exact Nat.le_trans staffed.target (Nat.le_add_left _ _)
  | resize runtime count =>
      cases moved
      rw [Pool.resize_eq_spawn] at sound ⊢
      refine ⟨sound, staffed.patient, staffed.going, staffing, fun running => ?_⟩
      -- No worker leaves, and so the last one does not.
      exact (staffed.manned running).imp_left fun some_left =>
        Nat.le_trans some_left (Nat.le_add_right _ _)
  | stop immediate => exact staffing.elim
  | worker now index answer chance =>
      obtain ⟨⟨after, report⟩, stepped, rfl⟩ := Option.map_eq_some_iff.mp moved
      exact staffed.advance stepped
  | offer lane client job =>
      cases moved
      have keeps := (l.pool.source.queue lane).startSend_keeps client job
      exact staffed.deliver keeps.balanced ((l.pool.source.queue lane).items_startSend client job)
        fun closed => ⟨keeps.closed.trans closed,
          ((l.pool.source.queue lane).startSend_told client job).buffered_of_isClosed closed⟩
  | retry lane client job =>
      cases moved
      have keeps := (l.pool.source.queue lane).resumeSend_keeps client job
      exact staffed.deliver keeps.balanced ((l.pool.source.queue lane).items_resumeSend client job)
        fun closed => ⟨keeps.closed.trans closed,
          ((l.pool.source.queue lane).resumeSend_told client job).buffered_of_isClosed closed⟩
  | withdraw lane client =>
      cases moved
      have keeps := (l.pool.source.queue lane).abandonSend_keeps client
      exact staffed.deliver keeps.balanced (List.append_nil _).symm
        fun closed => ⟨keeps.closed.trans closed, rfl⟩
  | close lane =>
      cases moved
      exact staffed.deliver JobQueue.Balanced.close (List.append_nil _).symm
        fun _ => ⟨rfl, rfl⟩

/-- Nobody works on a job once all workers have left. -/
theorem Sound.hands_of_live {l : Ledger} (sound : l.Sound) (left : l.pool.live = 0) :
    l.pool.hands = [] ∧ l.pool.isDrained = true := by
  have none : l.pool.staff = 0 := sound.live.symm.trans left
  have gone : ∀ worker ∈ l.pool.workers, worker.isGone = true := by
    intro worker member
    have counted := List.countP_eq_zero.mp none worker member
    simpa using counted
  constructor
  · refine List.filterMap_eq_nil_iff.mpr fun worker member => ?_
    have left := gone worker member
    unfold Worker.isGone at left
    unfold Worker.job?
    split at left
    next phase => rw [phase]
    next phase => rw [phase]
    · cases left
  · rw [Pool.isDrained, Bool.and_eq_true, List.all_eq_true]
    exact ⟨decide_eq_true left, gone⟩

/-- What a lane has accepted and does not hold any more has been started, and has ended if nobody
works. -/
theorem Sound.finishedOn_perm {l : Ledger} (sound : l.Sound) (left : l.pool.live = 0)
    {lane : JobKind} (drained : (l.pool.source.queue lane).items = []) :
    (l.finishedOn lane).Perm (l.acceptedOn lane) := by
  have conserved := sound.conserved
  rw [(sound.hands_of_live left).1, List.append_nil] at conserved
  have order := sound.order lane
  rw [waitingOn, drained, List.map_nil, List.append_nil] at order
  rw [← order]
  exact conserved.filter _

theorem Sound.mem_started {l : Ledger} (sound : l.Sound) {entry : LibraryJob × Report}
    (member : entry ∈ l.finished) : entry.1 ∈ l.started := by
  refine sound.conserved.subset (List.mem_append_left _ ?_)
  exact List.mem_map_of_mem member

/-! ## Totals -/

/-- Every job that has ended was counted once. -/
theorem Sound.processed {l : Ledger} (sound : l.Sound) :
    l.pool.completed + l.pool.failed = l.finished.length := by
  rw [sound.completed, sound.failed,
    List.length_eq_countP_add_countP (·.2.event = .succeeded)]
  refine congrArg _ (List.countP_congr fun entry member => ?_)
  rcases (sound.reports entry member).2 with event | event <;> simp [event]

/-- The jobs of a kind that have ended are those that were reported to have succeeded or failed. -/
theorem Sound.count_reports {l : Ledger} (sound : l.Sound) (kind : JobKind) :
    (l.finished.map Prod.snd).count ⟨kind.label, .succeeded⟩ +
        (l.finished.map Prod.snd).count ⟨kind.label, .failed⟩ =
      l.finished.countP (·.1.kind = kind) := by
  have reports := sound.reports
  generalize l.finished = entries at reports
  induction entries with
  | nil => rfl
  | cons entry rest ih =>
      have later := ih fun other member => reports other (List.mem_cons_of_mem _ member)
      obtain ⟨job, name, event⟩ := entry
      obtain ⟨named, event⟩ := reports _ List.mem_cons_self
      dsimp only at named event
      subst named
      rw [List.countP_cons, ← later, List.map_cons, List.count_cons, List.count_cons]
      by_cases same : job.kind = kind
      · rcases event with rfl | rfl
        · simp [same]
          omega
        · simp [same]
          omega
      · simp [same, JobKind.label_inj]

/-- A job that was started has the work of its own kind, if the lanes accept only their own kinds.
-/
theorem Sound.work_eq {l : Ledger} (sound : l.Sound)
    (kinds : ∀ lane, ∀ job ∈ l.accepted lane, job.kind = lane) {job : LibraryJob}
    (started : job ∈ l.started) : job.work = some job.kind := by
  obtain ⟨lane, _, work⟩ := sound.scheduled job started
  have member : job ∈ l.startedOn lane := List.mem_filter.mpr ⟨started, decide_eq_true work⟩
  have accepted : job ∈ l.acceptedOn lane := by
    rw [← sound.order lane]
    exact List.mem_append_left _ member
  obtain ⟨raw, within, rfl⟩ := List.mem_map.mp accepted
  exact congrArg some (kinds lane raw within).symm

theorem Sound.length_finishedOn {l : Ledger} (sound : l.Sound)
    (kinds : ∀ lane, ∀ job ∈ l.accepted lane, job.kind = lane) (lane : JobKind) :
    (l.finishedOn lane).length = l.finished.countP (·.1.kind = lane) := by
  rw [finishedOn, ← List.countP_eq_length_filter, List.countP_map]
  refine List.countP_congr fun entry member => ?_
  have work := sound.work_eq kinds (sound.mem_started member)
  simp [work]

/-- Two jobs are sent to a lane with one slot.  A second worker joins the first one and retires
again, and the first one does both jobs, of which one runs out of time. -/
def shift : List PoolMove :=
  [.offer .download (.task 0) (.download ["one"]), .offer .download (.task 1) (.download ["two"]),
    .run true, .resize true 2, .resize false 1,
    .worker 0 1 none {}, .worker 0 0 none {}, .worker 0 0 none {}, .worker 0 0 none {},
    .retry .download (.task 1) (.download ["two"]), .close .download,
    .worker 9 0 (some (.ok ())) {}, .worker 9 0 none {}, .worker 9 0 none {}, .worker 9 0 none {},
    .worker 9000000000 0 none {}, .worker 9000000000 0 none {}, .worker 9000000000 0 none {},
    .worker 9000000000 0 none {}]

end Ledger

end RepoCollector
