import RepoCollector.Proofs.Pool.Halt

/-! # The receipts of a pool

Receipts are taken beside a roster, from what a step is given and not from what it counts: the jobs
that the scheduler handed out, what each job that left a worker's hands had come to, and every
report to the collector.  A job that runs out of time comes to a timeout.

The counters of a pool, its workers and the collector agree with the receipts at every moment and
in every interleaving (`RepoCollector.Receipts.accounts_for_every_job`).
-/

namespace RepoCollector

variable {σ κ : Type}

namespace Pool

/-- The job that the scheduler hands to a worker in a step. -/
def handed (policy : Policy σ κ LibraryJob) (now : Instant) (index : Nat) (chance : Chance)
    (pool : Pool σ κ) : Option LibraryJob :=
  match pool.workers[index]? with
  | some { phase := .asking request, seen } =>
    if seen != pool.resizes && chance.resizeFirst then none
    else
      match request.step policy pool.opts pool.stopped now (.worker index) chance.draw
        pool.source with
      | some (_, .inr job) => job
      | _ => none
  | _ => none

/-- The job that has left a worker's hands in a step. -/
def departed (before after : Pool σ κ) (index : Nat) : List LibraryJob :=
  if (after.held index).isNone then (before.held index).toList else []

/-- What a job that leaves a worker's hands has come to; without an answer it is out of time. -/
def cameTo (pool : Pool σ κ) (answer : Option JobResult) : JobResult :=
  answer.getD (.error (.timeout (pool.jobTimeout.getD .zero)))

variable {policy : Policy σ κ LibraryJob} {now : Instant} {index : Nat}
  {answer : Option JobResult} {chance : Chance} {pool after : Pool σ κ} {report : Option Report}

private theorem held_setPhase (pool : Pool σ κ) {worker : Worker κ}
    (found : pool.workers[index]? = some worker) (phase : WorkerPhase κ) :
    (pool.setPhase index phase).held index = ({ worker with phase } : Worker κ).job? := by
  simp only [held, setPhase, List.getElem?_modify_eq, found, Option.map_eq_map, Option.map_some,
    Option.bind_some]

private theorem begun_of_stepAsking {worker : Worker κ} {request : JobRequest κ}
    (found : pool.workers[index]? = some worker) (asking : worker.phase = .asking request)
    (stepped : pool.stepAsking policy now index chance (worker.seen != pool.resizes) request =
      some after) :
    (after.held index).toList = (pool.handed policy now index chance).toList := by
  obtain ⟨phase, seen⟩ := worker
  subst asking
  simp only [handed, found]
  unfold stepAsking reconsider at stepped
  split at stepped
  next resized =>
    cases stepped
    rw [if_pos resized]
    exact congrArg Option.toList (held_setPhase pool found .between)
  next unnoticed =>
    rw [if_neg unnoticed]
    split at stepped
    next source next tried =>
      cases stepped
      rw [tried]
      exact congrArg Option.toList (held_setPhase { pool with source } found (.asking next))
    next source job tried =>
      cases stepped
      rw [tried]
      exact congrArg Option.toList (held_setPhase { pool with source } found (.working job _))
    next source tried =>
      cases stepped
      rw [tried]
      exact congrArg Option.toList (held_setPhase { pool with source } found .exited)
    next waits =>
      rw [waits]
      split at stepped
      · cases stepped
        exact congrArg Option.toList (held_setPhase pool found .between)
      · cases stepped

private theorem held_look {worker : Worker κ} (found : pool.workers[index]? = some worker) :
    (pool.look index).held index = none := by
  have looked : (pool.workers.modify index fun worker =>
      { worker with seen := pool.resizes })[index]? =
      some { worker with seen := pool.resizes } := by
    rw [List.getElem?_modify_eq, found]
    rfl
  unfold look
  dsimp only
  split
  · exact held_setPhase { pool with workers := _ } looked .retired
  · exact held_setPhase { pool with workers := _ } looked (.asking _)

/-- A worker takes a job into its hands exactly when the scheduler hands one to it. -/
theorem begun_of_stepWorker
    (stepped : pool.stepWorker policy now index answer chance = some (after, report)) :
    pool.begun after index = (pool.handed policy now index chance).toList := by
  cases found : pool.workers[index]? with
  | none => simp only [stepWorker, found, reduceCtorEq] at stepped
  | some worker =>
      obtain ⟨phase, seen⟩ := worker
      cases phase with
      | asking request =>
          have empty : pool.held index = none := by
            simp only [held, found, Option.bind_some, Worker.job?]
          simp only [stepWorker, found] at stepped
          obtain ⟨next, asked, same⟩ := Option.map_eq_some_iff.mp stepped
          cases same
          rw [begun, empty, Option.isNone_none, if_pos rfl]
          exact begun_of_stepAsking found rfl asked
      | between =>
          simp only [stepWorker, found] at stepped
          cases stepped
          simp only [begun, held_look found, Option.toList_none, ite_self, handed, found]
      | working job deadline =>
          have full : pool.held index = some job := by
            simp only [held, found, Option.bind_some, Worker.job?]
          simp only [begun, full, Option.isNone_some, Bool.false_eq_true, ↓reduceIte, handed, found,
            Option.toList_none]
      | retired | exited => simp only [stepWorker, found, reduceCtorEq] at stepped

/-- **What a turn leaves behind.**  A job that leaves a worker's hands is reported as what it has
come to. -/
theorem Turn.ended_eq {front back : List (Worker κ)} {worker : Worker κ}
    (turn : Turn policy now answer chance pool front worker back after report)
    (shape : pool.workers = front ++ worker :: back) :
    pool.ended front.length report = (pool.departed after front.length).map fun job =>
      (job, job.reportOf (pool.cameTo answer)) := by
  obtain ⟨changed, reshaped⟩ := turn.workers
  rw [ended, departed, held_middle shape, held_middle reshaped]
  cases turn with
  | retires phase | asks phase | reconsiders phase | goesOn phase | begins phase | exits phase =>
      simp only [Worker.job?, phase, Option.toList_none, List.flatMap_nil, ite_self, List.map_nil]
  | succeeds phase told =>
      cases List.append_cancel_left reshaped
      simp only [Worker.job?, phase, told, cameTo, LibraryJob.reportOf, Option.getD_some,
        Option.isNone_none, ↓reduceIte, Option.toList_some, List.flatMap_singleton, List.map_cons,
        List.map_nil]
  | fails phase told =>
      cases List.append_cancel_left reshaped
      have failed (job : LibraryJob) :
          job.reportOf (pool.cameTo answer) = ⟨job.kind.label, .failed⟩ := by
        rcases told with ⟨error, told⟩ | ⟨told, _⟩ <;> rw [told] <;> rfl
      simp only [Worker.job?, phase, failed, Option.isNone_none, ↓reduceIte, Option.toList_some,
        List.flatMap_singleton, List.map_cons, List.map_nil]

end Pool

theorem LibraryJob.event_reportOf (job : LibraryJob) (result : JobResult) :
    ((job.reportOf result).event = .succeeded ↔ result.isOk = true) ∧
      ((job.reportOf result).event = .failed ↔ result.isOk = false) := by
  cases result <;> simp [LibraryJob.reportOf, Except.isOk, Except.toBool]

theorem LibraryJob.reportOf_eq_iff (job : LibraryJob) (result : JobResult) (kind : JobKind) :
    (job.reportOf result = ⟨kind.label, .succeeded⟩ ↔ job.kind = kind ∧ result.isOk = true) ∧
      (job.reportOf result = ⟨kind.label, .failed⟩ ↔ job.kind = kind ∧ result.isOk = false) := by
  have label : job.kind.label = kind.label ↔ job.kind = kind := by
    cases job.kind <;> cases kind <;> decide
  cases result <;> simp [LibraryJob.reportOf, Except.isOk, Except.toBool, label]

/-- A roster with its receipts; the first one comes first everywhere. -/
structure Receipts (σ κ : Type) where
  roster : Roster σ κ
  /-- The jobs that the scheduler has handed out. -/
  handed : List LibraryJob := []
  /-- The jobs that have left the workers' hands, with what they had come to. -/
  ends : List (LibraryJob × JobResult) := []
  /-- What the collector was told. -/
  told : List Report := []

namespace Receipts

def make (source : σ) (opts : SchedulerOpts) (config : PoolConfig) : Receipts σ κ :=
  { roster := .make source opts config }

def act (policy : Policy σ κ LibraryJob) (move : RosterMove σ) (r : Receipts σ κ) :
    Option (Receipts σ κ) :=
  match move with
  | .worker now index answer chance =>
    let pool := r.roster.pool
    (pool.stepWorker policy now index answer chance).map fun after =>
      { roster := r.roster.advance index after.1 after.2
        handed := r.handed ++ (pool.handed policy now index chance).toList
        ends := r.ends ++ (pool.departed after.1 index).map (·, pool.cameTo answer)
        told := r.told ++ after.2.toList }
  | move => (r.roster.act policy move).map fun roster => { r with roster }

/-- **What holds of receipts at every moment.** -/
structure Exact (r : Receipts σ κ) : Prop where
  sound : r.roster.Sound
  active : r.roster.pool.active = r.roster.pool.hands.length
  conserved : (r.ends.map Prod.fst ++ r.roster.pool.hands).Perm r.handed
  told : r.told = r.ends.map fun receipt => receipt.1.reportOf receipt.2
  completed : r.roster.pool.completed = r.ends.countP (·.2.isOk)
  failed : r.roster.pool.failed = r.ends.countP (!·.2.isOk)

theorem exact_make (source : σ) (opts : SchedulerOpts) (config : PoolConfig) :
    (make source opts config : Receipts σ κ).Exact :=
  ⟨Roster.sound_make source opts config, rfl, .refl _, rfl, rfl, rfl⟩

variable {policy : Policy σ κ LibraryJob} {r s : Receipts σ κ}

/-- New workers have no jobs. -/
private theorem Exact.joins (exact : r.Exact) {roster : Roster σ κ} (sound : roster.Sound)
    (joins : r.roster.Joins roster) : ({ r with roster } : Receipts σ κ).Exact := by
  obtain ⟨_, _, target, resizes, running, count, same⟩ := joins
  have hands : roster.pool.hands = r.roster.pool.hands := by
    rw [same, Pool.hands_spawn]
    rfl
  refine ⟨sound, ?_, ?_, exact.told, ?_, ?_⟩
  · rw [hands, same]
    exact exact.active
  · rw [hands]
    exact exact.conserved
  · rw [same]
    exact exact.completed
  · rw [same]
    exact exact.failed

/-- **A step of a worker** that takes a job into its hands has it from the scheduler, and one in
which a job leaves its hands counts it and reports it as what it has come to. -/
private theorem Exact.advance (exact : r.Exact) {now : Instant} {index : Nat}
    {answer : Option JobResult} {chance : Chance} {after : Pool σ κ} {report : Option Report}
    (stepped : r.roster.pool.stepWorker policy now index answer chance = some (after, report)) :
    ({ roster := r.roster.advance index after report
       handed := r.handed ++ (r.roster.pool.handed policy now index chance).toList
       ends := r.ends ++ (r.roster.pool.departed after index).map (·, r.roster.pool.cameTo answer)
       told := r.told ++ report.toList } : Receipts σ κ).Exact := by
  have begun := Pool.begun_of_stepWorker stepped
  have sound := exact.sound.advance stepped
  obtain ⟨front, worker, back, shape, rfl, turn⟩ := Pool.turn_of_stepWorker stepped
  have ended := turn.ended_eq shape
  have counts := turn.counts shape
  have hands := turn.hands_perm shape
  have reports := turn.reports_ended shape
  rw [ended] at counts hands reports
  rw [List.map_map] at hands reports
  refine ⟨sound, turn.active_eq shape exact.active, ?_, ?_, ?_, ?_⟩
  · rw [begun] at hands
    simp only [Roster.advance, List.map_append, List.map_map, List.append_assoc]
    refine (hands.append_left _).trans ?_
    rw [← List.append_assoc]
    exact exact.conserved.append_right _
  · simp only [List.map_append, List.map_map, ← reports, exact.told]
    rfl
  · simp only [Roster.advance, counts.1, exact.completed, List.countP_append, List.countP_map]
    refine congrArg _ (List.countP_congr fun job _ => ?_)
    simp only [Function.comp_apply, decide_eq_true_eq]
    exact (job.event_reportOf _).1
  · simp only [Roster.advance, counts.2.1, exact.failed, List.countP_append, List.countP_map]
    refine congrArg _ (List.countP_congr fun job _ => ?_)
    simp only [Function.comp_apply, decide_eq_true_eq, Bool.not_eq_true']
    exact (job.event_reportOf _).2

/-- **Every move keeps receipts exact.** -/
theorem Exact.act {move : RosterMove σ} (exact : r.Exact) (moved : act policy move r = some s) :
    s.Exact := by
  cases move with
  | run runtime =>
      simp only [Receipts.act] at moved
      obtain ⟨roster, next, rfl⟩ := Option.map_eq_some_iff.mp moved
      exact exact.joins (exact.sound.act next) (Roster.joins_run next)
  | resize runtime count =>
      simp only [Receipts.act] at moved
      obtain ⟨roster, next, rfl⟩ := Option.map_eq_some_iff.mp moved
      exact exact.joins (exact.sound.act next) (Roster.joins_resize next)
  | stop immediate | outside change =>
      simp only [Receipts.act] at moved
      obtain ⟨roster, next, rfl⟩ := Option.map_eq_some_iff.mp moved
      have sound := exact.sound.act next
      cases next
      exact ⟨sound, exact.active, exact.conserved, exact.told, exact.completed, exact.failed⟩
  | worker now index answer chance =>
      obtain ⟨⟨after, report⟩, stepped, rfl⟩ := Option.map_eq_some_iff.mp moved
      exact exact.advance stepped

/-- The workers that process a job have not left. -/
theorem Exact.active_le_live (exact : r.Exact) : r.roster.pool.active ≤ r.roster.pool.live := by
  rw [exact.active, exact.sound.counted, Pool.hands, Pool.staff, List.length_filterMap_eq_countP]
  refine List.countP_mono_left fun worker _ working => ?_
  obtain ⟨phase, seen⟩ := worker
  cases phase with
  | working => rfl
  | between | asking | retired | exited => cases working

theorem Exact.length_handed (exact : r.Exact) : r.handed.length =
    r.roster.pool.completed + r.roster.pool.failed + r.roster.pool.active := by
  have every : r.ends.length = r.ends.countP (·.2.isOk) + r.ends.countP (!·.2.isOk) := by
    simpa using r.ends.length_eq_countP_add_countP (·.2.isOk)
  rw [← exact.conserved.length_eq, List.length_append, List.length_map, every, exact.active,
    exact.completed, exact.failed]

theorem Exact.count_told (exact : r.Exact) (kind : JobKind) :
    r.told.count ⟨kind.label, .succeeded⟩ =
        r.ends.countP (fun receipt => receipt.1.kind = kind ∧ receipt.2.isOk = true) ∧
      r.told.count ⟨kind.label, .failed⟩ =
        r.ends.countP (fun receipt => receipt.1.kind = kind ∧ receipt.2.isOk = false) := by
  rw [exact.told, List.count_eq_countP, List.count_eq_countP, List.countP_map, List.countP_map]
  constructor
  · refine List.countP_congr fun receipt _ => ?_
    rw [Function.comp_apply, beq_iff_eq, decide_eq_true_eq]
    exact (receipt.1.reportOf_eq_iff receipt.2 kind).1
  · refine List.countP_congr fun receipt _ => ?_
    rw [Function.comp_apply, beq_iff_eq, decide_eq_true_eq]
    exact (receipt.1.reportOf_eq_iff receipt.2 kind).2

theorem Exact.countP_told (exact : r.Exact) :
    r.told.countP (·.event = .succeeded) = r.roster.pool.completed ∧
      r.told.countP (·.event = .failed) = r.roster.pool.failed := by
  rw [exact.told, exact.completed, exact.failed, List.countP_map, List.countP_map]
  constructor
  · refine List.countP_congr fun receipt _ => ?_
    rw [Function.comp_apply, decide_eq_true_eq]
    exact (receipt.1.event_reportOf receipt.2).1
  · refine List.countP_congr fun receipt _ => ?_
    rw [Function.comp_apply, decide_eq_true_eq, Bool.not_eq_true']
    exact (receipt.1.event_reportOf receipt.2).2

/-- A pool without workers has no job in hand. -/
theorem Exact.active_of_isDrained (exact : r.Exact) (drained : r.roster.pool.isDrained = true) :
    r.roster.pool.active = 0 := by
  simp only [Pool.isDrained, Bool.and_eq_true, decide_eq_true_eq] at drained
  exact Nat.le_zero.mp (drained.1 ▸ exact.active_le_live)

/-- **The accounts of a pool are exact.**  Take a pool over any policy and let it be started,
resized and stopped, its workers go on, their jobs succeed, fail, give up or run out of time, and
others change the queues, in any order.  At every moment:

* the jobs that the scheduler has handed out are those that are completed, those that have failed,
  and those that are being processed, one by every active worker; no more workers are active than
  alive;
* for every kind, the collector was told of a success as often as a job of that kind came to one,
  and of a failure as often as one came to anything else; all successes and all failures are as many
  as the pool has counted;
* every job that was handed out is in a worker's hands or has been reported, once and as what it
  came to; when all workers have left, each of them has been reported. -/
theorem accounts_for_every_job (policy : Policy σ κ LibraryJob) (source : σ) (opts : SchedulerOpts)
    (config : PoolConfig) {moves : List (RosterMove σ)} {r : Receipts σ κ}
    (played : play (act policy) moves (make source opts config) = some r) :
    let pool := r.roster.pool
    r.handed.length = pool.stats.completed + pool.stats.failed + pool.stats.active ∧
    pool.stats.active = pool.workers.countP (·.job?.isSome) ∧
    pool.stats.active ≤ pool.stats.live ∧
    (∀ kind : JobKind,
      r.told.count ⟨kind.label, .succeeded⟩ =
        r.ends.countP (fun receipt => receipt.1.kind = kind ∧ receipt.2.isOk = true) ∧
      r.told.count ⟨kind.label, .failed⟩ =
        r.ends.countP (fun receipt => receipt.1.kind = kind ∧ receipt.2.isOk = false)) ∧
    r.told.countP (·.event = .succeeded) = pool.stats.completed ∧
    r.told.countP (·.event = .failed) = pool.stats.failed ∧
    r.told = r.ends.map (fun receipt => receipt.1.reportOf receipt.2) ∧
    (r.ends.map Prod.fst ++ pool.hands).Perm r.handed ∧
    (pool.isDrained = true → pool.stats.active = 0 ∧ (r.ends.map Prod.fst).Perm r.handed) := by
  have exact : r.Exact := play_keeps (fun _ _ _ _ exact moved => exact.act moved)
    (fun _ _ => trivial) (exact_make source opts config) played
  refine ⟨exact.length_handed, ?_, exact.active_le_live, exact.count_told, exact.countP_told.1,
    exact.countP_told.2, exact.told, exact.conserved, fun drained => ?_⟩
  · rw [← List.length_filterMap_eq_countP]
    exact exact.active
  · have idle := exact.active_of_isDrained drained
    have conserved := exact.conserved
    rw [List.eq_nil_of_length_eq_zero (exact.active.symm.trans idle), List.append_nil] at conserved
    exact ⟨idle, conserved⟩

/-- Lanes with three downloads and an update. -/
def busyLanes : Lanes :=
  let lanes : Lanes :=
    { reads := .combined, download := .make "download" 3, update := .make "update" 1 }
  let offer (lanes : Lanes) (job : LibraryJob) : Lanes :=
    lanes.modify job.kind fun q => (q.startSend (.task 0) job).1
  [.download ["a"], .download ["b"], .download ["c"], .update ["d"]].foldl offer lanes

/-- Two workers have a success and a timeout.  The pool is made larger, and stopped at once while
the next two jobs are processed: one of them gives up and the other one fails.  Then the workers
leave. -/
def mixedDay : List (RosterMove Lanes) :=
  [.run true, .worker 0 0 none {}, .worker 0 0 none {}, .worker 0 0 none {},
    .worker 0 1 none {}, .worker 0 1 none {}, .worker 0 1 none {},
    .worker 3 0 (some (.ok ())) {}, .worker 5 1 none {}, .resize true 3,
    .worker 5 0 none {}, .worker 5 0 none {}, .worker 5 0 none {},
    .worker 5 1 none {}, .worker 5 1 none {}, .worker 5 1 none {},
    .stop true, .worker 6 0 (some (.error .cancelled)) {}, .worker 6 2 none {}, .worker 6 2 none {},
    .worker 6 1 (some (.error (.failed "broken"))) {},
    .worker 6 0 none {}, .worker 6 0 none {}, .worker 6 1 none {}, .worker 6 1 none {}]

theorem mixedDay_account :
    (play (act Lanes.policy) mixedDay
      (make busyLanes {} { workers := 2, jobTimeout := some (.ofMillis 5) })).map (fun r =>
        (r.handed.length, r.ends.map Prod.snd, r.roster.pool.isDrained)) =
      some (4, [.ok (), .error (.timeout (.ofMillis 5)), .error .cancelled,
        .error (.failed "broken")], true) := by
  decide +kernel

theorem accounts_for_every_job_mixedDay :
    ∃ r, play (act Lanes.policy) mixedDay
        (make busyLanes {} { workers := 2, jobTimeout := some (.ofMillis 5) }) = some r ∧
      r.handed.length = 4 ∧ r.ends.map Prod.snd = [.ok (), .error (.timeout (.ofMillis 5)),
        .error .cancelled, .error (.failed "broken")] ∧
      r.handed.length = r.roster.pool.stats.completed + r.roster.pool.stats.failed ∧
      (r.ends.map Prod.fst).Perm r.handed := by
  obtain ⟨r, played, account⟩ := Option.map_eq_some_iff.mp mixedDay_account
  injection account with handed account
  injection account with ends drained
  obtain ⟨length, _, _, _, _, _, _, _, after⟩ := accounts_for_every_job _ _ _ _ played
  obtain ⟨idle, once⟩ := after drained
  rw [idle] at length
  exact ⟨r, played, handed, ends, length, once⟩

end Receipts

end RepoCollector
