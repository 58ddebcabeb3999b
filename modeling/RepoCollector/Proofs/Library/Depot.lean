import RepoCollector.Proofs.Library.Staging
import RepoCollector.Proofs.Pool.Roster

/-! # Jobs of a pool and their staging directories

A depot is a pool whose workers do their jobs on a library.  The work of a job is a call in a
workshop: it begins when the worker has the job in hand, and the job is recorded when the call is
over or the time for the job is up.  In the second case the call is dropped where it stands.

A recorded job has removed its staging directories, or the file system failed when they were looked
for (`RepoCollector.Depot.staging_gone_unless_expired`).  A job whose time is up has not: what git
had made by then is left in the library (`RepoCollector.Depot.expired_job_leaves_staging`).
-/

namespace RepoCollector

/-- A pool whose workers do their jobs on a library. -/
structure Depot (σ κ : Type) where
  pool : Pool σ κ
  workshop : Workshop := {}
  /-- The workers at work, each with the number of its call. -/
  hands : List (Nat × Nat) := []
  /-- The jobs that were recorded, by the numbers of their calls, the last one first. -/
  recorded : List (Nat × Report) := []
  /-- The calls whose jobs ran out of time. -/
  expired : List Nat := []

/-- What can happen in a depot. -/
inductive DepotMove (σ : Type) where
  /-- The pool is started, resized or stopped, or others change its queues. -/
  | pool (move : RosterMove σ)
  | worker (now : Instant) (index : Nat) (chance : Chance)
  /-- A call or git goes on. -/
  | work (move : WorkshopMove)

namespace Depot

variable {σ κ : Type}

/-- A worker's job is recorded. -/
def record (d : Depot σ κ) (index call : Nat) (after : Pool σ κ × Option Report) : Depot σ κ :=
  { d with
    pool := after.1
    hands := d.hands.filter (·.1 ≠ index)
    recorded := (after.2.map (call, ·)).toList ++ d.recorded }

/-- A worker with a job in hand goes on: the job's work begins, or the job is recorded. -/
def attend (policy : Policy σ κ LibraryJob) (config : LibraryConfig) (now : Instant) (index : Nat)
    (chance : Chance) (job : LibraryJob) (d : Depot σ κ) : Option (Depot σ κ) :=
  match d.hands.lookup index with
  | none =>
    match job.ready? with
    | .error error =>
      (d.pool.stepWorker policy now index (some (.error error)) chance).map fun after =>
        { d with pool := after.1 }
    | .ok lane =>
      (d.workshop.act config false (.call lane job.endpoints)).map fun workshop =>
        { d with workshop, hands := (index, d.workshop.calls.length) :: d.hands }
  | some call =>
    match (d.workshop.calls[call]?).bind (·.op.result?) with
    | some result =>
      (d.pool.stepWorker policy now index (some (.ofLibrary result)) chance).map
        (d.record index call)
    | none =>
      (d.pool.stepWorker policy now index none chance).bind fun after =>
        (d.workshop.act config false (.drop call)).map fun workshop =>
          { d.record index call after with workshop, expired := call :: d.expired }

/-- One move.  A call is told to give up exactly when the pool's jobs are. -/
def act (policy : Policy σ κ LibraryJob) (config : LibraryConfig) (move : DepotMove σ)
    (d : Depot σ κ) : Option (Depot σ κ) :=
  match move with
  | .pool (.worker ..) => none
  | .pool move => (Roster.act policy move { pool := d.pool }).map fun r => { d with pool := r.pool }
  | .worker now index chance =>
    match (d.pool.workers[index]?).bind (·.job?) with
    | some job => d.attend policy config now index chance job
    | none =>
      (d.pool.stepWorker policy now index none chance).map fun after => { d with pool := after.1 }
  | .work (.call ..) | .work (.drop _) => none
  | .work (.step call surroundings) =>
    let surroundings := { surroundings with cancelled := d.pool.cancelled }
    (d.workshop.act config false (.step call surroundings)).map fun workshop => { d with workshop }
  | .work move => (d.workshop.act config false move).map fun workshop => { d with workshop }

variable {policy : Policy σ κ LibraryJob} {config : LibraryConfig} {d after : Depot σ κ}

/-- The library is tidy, and the call of every recorded job is over, or was dropped when its time
was up and the job failed. -/
structure Orderly (d : Depot σ κ) : Prop where
  tidy : d.workshop.Tidy
  ended : ∀ call report, (call, report) ∈ d.recorded → ∃ errand : Errand,
    d.workshop.calls[call]? = some errand ∧
      (call ∈ d.expired ∧ report.event = .failed ∨ errand.op.result?.isSome = true)

end Depot

theorem Pool.failed_of_stepWorker {σ κ : Type} {policy : Policy σ κ LibraryJob} {now : Instant}
    {index : Nat} {chance : Chance} {pool after : Pool σ κ} {report : Report}
    (stepped : pool.stepWorker policy now index none chance = some (after, some report)) :
    report.event = .failed := by
  obtain ⟨_, _, _, _, _, turn⟩ := turn_of_stepWorker stepped
  cases turn with
  | succeeds _ told => cases told
  | fails => rfl

namespace Depot

variable {σ κ : Type} {policy : Policy σ κ LibraryJob} {config : LibraryConfig}
  {d after : Depot σ κ}

theorem Orderly.of_act (orderly : d.Orderly) {move : WorkshopMove} {workshop : Workshop}
    (acted : d.workshop.act config false move = some workshop) {call : Nat} {report : Report}
    (member : (call, report) ∈ d.recorded) : ∃ errand : Errand,
      workshop.calls[call]? = some errand ∧
        (call ∈ d.expired ∧ report.event = .failed ∨ errand.op.result?.isSome = true) := by
  obtain ⟨errand, here, ended⟩ := orderly.ended call report member
  obtain ⟨next, found⟩ := (Workshop.continues_of_act acted).exists_call here
  refine ⟨next, found, ended.imp_right fun ends => ?_⟩
  cases Workshop.comes_of_act acted found with
  | stays there | drops there =>
      cases here.symm.trans there
      exact ends
  | begins _ fresh => cases here.symm.trans fresh
  | steps there _ stepped =>
      cases here.symm.trans there
      rw [Operation.step_of_result ends] at stepped
      cases stepped

theorem Orderly.work (orderly : d.Orderly) {move : WorkshopMove} {workshop : Workshop}
    (acted : d.workshop.act config false move = some workshop) {pool : Pool σ κ}
    {hands : List (Nat × Nat)} : Orderly { d with pool, workshop, hands } where
  tidy := orderly.tidy.act acted
  ended := fun _ _ member => orderly.of_act acted member

theorem mem_recorded_record {d : Depot σ κ} {index call : Nat} {pool : Pool σ κ × Option Report}
    {entry : Nat × Report} (member : entry ∈ (d.record index call pool).recorded) :
    (entry.1 = call ∧ pool.2 = some entry.2) ∨ entry ∈ d.recorded := by
  obtain new | old := List.mem_append.mp member
  · obtain ⟨report, told, rfl⟩ := Option.map_eq_some_iff.mp (Option.mem_toList.mp new)
    exact .inl ⟨rfl, told⟩
  · exact .inr old

theorem Orderly.attend (orderly : d.Orderly) {now : Instant} {index : Nat} {chance : Chance}
    {job : LibraryJob} (attended : d.attend policy config now index chance job = some after) :
    after.Orderly := by
  unfold Depot.attend at attended
  split at attended
  next =>
    split at attended
    next =>
      obtain ⟨_, _, rfl⟩ := Option.map_eq_some_iff.mp attended
      exact ⟨orderly.tidy, orderly.ended⟩
    next =>
      obtain ⟨workshop, acted, rfl⟩ := Option.map_eq_some_iff.mp attended
      exact orderly.work acted
  next call _ =>
    split at attended
    next result ended =>
      obtain ⟨moved, _, rfl⟩ := Option.map_eq_some_iff.mp attended
      refine ⟨orderly.tidy, fun other report member => ?_⟩
      obtain ⟨rfl, _⟩ | before := mem_recorded_record member
      · obtain ⟨errand, here, ends⟩ := Option.bind_eq_some_iff.mp ended
        exact ⟨errand, here, .inr (ends ▸ rfl)⟩
      · exact orderly.ended other report before
    next =>
      obtain ⟨⟨pool, told⟩, stepped, dropped⟩ := Option.bind_eq_some_iff.mp attended
      obtain ⟨workshop, acted, rfl⟩ := Option.map_eq_some_iff.mp dropped
      refine ⟨orderly.tidy.act acted, fun other report member => ?_⟩
      have noted : (other, report) ∈ (d.record index call (pool, told)).recorded := member
      obtain ⟨rfl, rfl⟩ | before := mem_recorded_record noted
      · obtain ⟨errand, here⟩ := Workshop.exists_call_of_drop acted
        exact ⟨errand, here, .inl ⟨List.mem_cons_self, Pool.failed_of_stepWorker stepped⟩⟩
      · obtain ⟨errand, here, ends⟩ := orderly.of_act acted before
        exact ⟨errand, here, ends.imp_left fun ⟨expired, failed⟩ =>
          ⟨List.mem_cons_of_mem _ expired, failed⟩⟩

/-- **Every move keeps a depot orderly.** -/
theorem Orderly.act (orderly : d.Orderly) {move : DepotMove σ}
    (acted : act policy config move d = some after) : after.Orderly := by
  unfold Depot.act at acted
  split at acted
  next => cases acted
  next =>
    obtain ⟨_, _, rfl⟩ := Option.map_eq_some_iff.mp acted
    exact ⟨orderly.tidy, orderly.ended⟩
  next =>
    split at acted
    next => exact orderly.attend acted
    next =>
      obtain ⟨_, _, rfl⟩ := Option.map_eq_some_iff.mp acted
      exact ⟨orderly.tidy, orderly.ended⟩
  next => cases acted
  next => cases acted
  next =>
    obtain ⟨workshop, moved, rfl⟩ := Option.map_eq_some_iff.mp acted
    exact orderly.work moved
  next =>
    obtain ⟨workshop, moved, rfl⟩ := Option.map_eq_some_iff.mp acted
    exact orderly.work moved

/-- **Staging directories are removed, but not when the time is up.**  The workers of a pool in any
state do their jobs on a library, which may be told to give up at any moment; git and the file
system fail as they like, but what can be removed is removed when that is tried.  When a job has
been recorded, a staging directory that was made for it is gone, or it was not seen because the file
system failed when it was looked for, or the job failed because its time was up while it was at that
attempt to clone. -/
theorem staging_gone_unless_expired (pool : Pool σ κ) {files : Files} (tree : files.IsTree)
    {moves : List (DepotMove σ)}
    (played : play (act policy config) moves { pool, workshop := { files } } = some d)
    (removes : d.workshop.stuck = []) {call : Nat} {report : Report}
    (recorded : (call, report) ∈ d.recorded) {attempt : CloneAttempt}
    (tried : (call, attempt) ∈ d.workshop.attempts) :
    d.workshop.files.at? attempt.staging = none ∨ attempt ∈ d.workshop.overlooked ∨
      call ∈ d.expired ∧ report.event = .failed ∧ ∃ errand : Errand,
        d.workshop.calls[call]? = some errand ∧ errand.op.attempt? = some attempt := by
  have started : Orderly { pool, workshop := { files } } :=
    ⟨Workshop.tidy_start tree, fun _ _ member => absurd member List.not_mem_nil⟩
  have orderly : d.Orderly :=
    play_keeps (fun _ _ _ (_ : True) held acted => held.act acted) (fun _ _ => trivial) started
      played
  by_cases gone : d.workshop.files.at? attempt.staging = none
  · exact .inl gone
  obtain overlooked | stuck | ⟨errand, here, trying⟩ := orderly.tidy.tried _ tried gone
  · exact .inr (.inl overlooked)
  · rw [removes] at stuck
    cases stuck
  · right; right
    obtain ⟨_, there, ⟨expired, failed⟩ | ends⟩ := orderly.ended call report recorded
    · exact ⟨expired, failed, errand, here, trying⟩
    · cases here.symm.trans there
      cases (Operation.attempt?_of_result ends).symm.trans trying

/-- Two workers have jobs in hand that download one repository. -/
def desks : Pool Lanes Attempt :=
  let job := (LibraryJob.download ["https://h/a"]).withWork .download
  { source := Roster.shortLanes
    opts := {}
    jobTimeout := some (.ofMillis 1000)
    target := 2
    live := 2
    running := true
    workers := [{ phase := .working job (some 1000), seen := 0 },
      { phase := .working job (some 1000), seen := 0 }]
    active := 2 }

/-- The attempt to clone that a job makes. -/
def trial (tag : Char) : CloneAttempt :=
  { endpoint := "https://h/a", place := [['h'], ['a', '.', 'g', 'i', 't']],
    staging := [['h'], ['a', '.', 't', 'm', 'p', '-', tag]] }

/-- Git fails for the first job, which removes what git has made.  The time for the second one is up
while git is still at work. -/
def overtime : List (DepotMove Lanes) :=
  [.worker 0 0 {}, .worker 0 1 {}, .work (.step 0 {}), .work (.step 1 {}),
    .work (.step 0 { tag := "0" }), .work (.step 1 { tag := "1" }), .work (.step 0 {}),
    .work (.step 1 {}), .work (.make 0 (.clone (trial '0')) [] .directory),
    .work (.make 1 (.clone (trial '1')) [] .directory),
    .work (.step 0 { report := some { exit := 128 } }), .work (.step 0 {}), .work (.step 0 {}),
    .work (.step 0 {}), .worker 500 0 {}, .worker 1000 1 {}]

theorem overtime_account :
    (play (act Lanes.policy {}) overtime { pool := desks }).map (fun d =>
      (d.recorded.map (·.1), d.expired, d.workshop.attempts)) =
      some ([1, 0], [1], [(1, trial '1'), (0, trial '0')]) := by
  decide +kernel

theorem overtime_files :
    (play (act Lanes.policy {}) overtime { pool := desks }).map (fun d =>
      (d.workshop.stuck, d.workshop.overlooked, d.workshop.files.at? (trial '0').staging,
        d.workshop.files.at? (trial '1').staging)) =
      some ([], [], none, some .directory) := by
  decide +kernel

/-- Both jobs are recorded; the directory of one is gone, that of the other is there. -/
theorem exists_overtime : ∃ d, play (act Lanes.policy {}) overtime { pool := desks } = some d ∧
    d.workshop.stuck = [] ∧ d.workshop.overlooked = [] ∧ (∃ report, (1, report) ∈ d.recorded) ∧
    (1, trial '1') ∈ d.workshop.attempts ∧
    d.workshop.files.at? (trial '0').staging = none ∧
    d.workshop.files.at? (trial '1').staging = some .directory := by
  obtain ⟨d, played, account⟩ := Option.map_eq_some_iff.mp overtime_account
  injection account with recorded account
  injection account with _ attempts
  have files := overtime_files
  rw [played, Option.map_some] at files
  injection files with files
  injection files with stuck files
  injection files with overlooked files
  injection files with removed stands
  have done : 1 ∈ d.recorded.map (·.1) := recorded ▸ List.mem_cons_self
  obtain ⟨⟨_, report⟩, member, rfl⟩ := List.mem_map.mp done
  exact ⟨d, played, stuck, overlooked, ⟨report, member⟩, attempts ▸ List.mem_cons_self, removed,
    stands⟩

/-- The job that has failed has removed its staging directory, and so the other job, which has not,
ran out of time while it was at its attempt. -/
theorem staging_gone_unless_expired_overtime :
    ∃ d, play (act Lanes.policy {}) overtime { pool := desks } = some d ∧
      d.workshop.files.at? (trial '0').staging = none ∧ 1 ∈ d.expired ∧
      (∃ report, (1, report) ∈ d.recorded ∧ report.event = .failed) ∧
      ∃ errand : Errand, d.workshop.calls[1]? = some errand ∧
        errand.op.attempt? = some (trial '1') := by
  obtain ⟨d, played, stuck, overlooked, ⟨report, recorded⟩, tried, removed, stands⟩ :=
    exists_overtime
  refine ⟨d, played, removed, ?_⟩
  obtain gone | unseen | ⟨expired, failed, cut⟩ :=
    staging_gone_unless_expired desks Files.isTree_empty played stuck recorded tried
  · cases gone.symm.trans stands
  · rw [overlooked] at unseen
    cases unseen
  · exact ⟨expired, ⟨report, recorded, failed⟩, cut⟩

/-- **A job whose time is up leaves its staging directory behind**, though every removal that was
tried has succeeded. -/
theorem expired_job_leaves_staging :
    ∃ d, play (act Lanes.policy {}) overtime { pool := desks } = some d ∧
      d.workshop.stuck = [] ∧ (∃ report, (1, report) ∈ d.recorded) ∧
      (1, trial '1') ∈ d.workshop.attempts ∧
      d.workshop.files.at? (trial '1').staging = some .directory := by
  obtain ⟨d, played, stuck, _, recorded, tried, _, stands⟩ := exists_overtime
  exact ⟨d, played, stuck, recorded, tried, stands⟩

end Depot

end RepoCollector
