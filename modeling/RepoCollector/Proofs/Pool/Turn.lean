import Mathlib.Data.List.Basic
import RepoCollector.Pool.Basic

/-! # Turns of a worker

A step of a worker is one of eight turns (`RepoCollector.Pool.Turn`,
`RepoCollector.Pool.turn_of_stepWorker`).  A turn changes one worker and leaves the others as they
are; beyond that, it says which request of the worker went on and how, or how its job ended.
-/

namespace RepoCollector

namespace Pool

variable {σ κ : Type}

/-- **The turns of a worker.**  The worker stands between those of `front` and those of `back`. -/
inductive Turn (policy : Policy σ κ LibraryJob) (now : Instant) (answer : Option JobResult)
    (chance : Chance) (pool : Pool σ κ) (front : List (Worker κ)) (worker : Worker κ)
    (back : List (Worker κ)) : Pool σ κ → Option Report → Prop where
  /-- There are more workers than asked for. -/
  | retires (between : worker.phase = .between) (surplus : pool.target < pool.live) :
      Turn policy now answer chance pool front worker back
        { pool with
          live := pool.live - 1
          workers := front ++ { phase := .retired, seen := pool.resizes } :: back } none
  /-- The worker is needed and asks for its next job. -/
  | asks (between : worker.phase = .between) (needed : pool.live ≤ pool.target) :
      Turn policy now answer chance pool front worker back
        { pool with
          workers :=
            front ++ { phase := .asking (.start pool.opts), seen := pool.resizes } :: back }
        none
  /-- The number of workers asked for has changed while the worker waits. -/
  | reconsiders {request : JobRequest κ} (asking : worker.phase = .asking request)
      (resized : worker.seen ≠ pool.resizes) :
      Turn policy now answer chance pool front worker back
        { pool with
          source := request.abandon policy (.worker front.length) pool.source
          workers := front ++ { worker with phase := .between } :: back } none
  | goesOn {request next : JobRequest κ} {source : σ} (asking : worker.phase = .asking request)
      (stepped : request.step policy pool.opts pool.stopped now (.worker front.length) chance.draw
        pool.source = some (source, .inl next)) :
      Turn policy now answer chance pool front worker back
        { pool with source, workers := front ++ { worker with phase := .asking next } :: back } none
  /-- The worker takes a job into its hands. -/
  | begins {request : JobRequest κ} {source : σ} {job : LibraryJob}
      (asking : worker.phase = .asking request)
      (stepped : request.step policy pool.opts pool.stopped now (.worker front.length) chance.draw
        pool.source = some (source, .inr (some job))) :
      Turn policy now answer chance pool front worker back
        { pool with
          source
          active := pool.active + 1
          workers := front ++
            { worker with phase := .working job (pool.jobTimeout.map (·.after now)) } :: back } none
  /-- There is nothing more for the worker. -/
  | exits {request : JobRequest κ} {source : σ} (asking : worker.phase = .asking request)
      (stepped : request.step policy pool.opts pool.stopped now (.worker front.length) chance.draw
        pool.source = some (source, .inr none)) :
      Turn policy now answer chance pool front worker back
        { pool with
          source
          live := pool.live - 1
          workers := front ++ { worker with phase := .exited } :: back } none
  | succeeds {job : LibraryJob} {deadline : Option Instant}
      (working : worker.phase = .working job deadline) (told : answer = some (.ok ())) :
      Turn policy now answer chance pool front worker back
        { pool with
          active := pool.active - 1
          completed := pool.completed + 1
          workers := front ++ { worker with phase := .between } :: back }
        (some ⟨job.kind.label, .succeeded⟩)
  /-- The job failed or ran out of time. -/
  | fails {job : LibraryJob} {deadline : Option Instant}
      (working : worker.phase = .working job deadline)
      (told : (∃ error, answer = some (.error error)) ∨
        answer = none ∧ deadline.any (· ≤ now) = true) :
      Turn policy now answer chance pool front worker back
        { pool with
          active := pool.active - 1
          failed := pool.failed + 1
          workers := front ++ { worker with phase := .between } :: back }
        (some ⟨job.kind.label, .failed⟩)

private theorem modify_middle {α : Type} (front : List α) (item : α) (back : List α)
    (change : α → α) :
    (front ++ item :: back).modify front.length change = front ++ change item :: back := by
  induction front with
  | nil => rfl
  | cons first front ih =>
      rw [List.cons_append, List.length_cons, List.modify_succ_cons, ih]
      rfl

theorem setPhase_eq {pool : Pool σ κ} {front : List (Worker κ)} {worker : Worker κ}
    {back : List (Worker κ)} (shape : pool.workers = front ++ worker :: back)
    (phase : WorkerPhase κ) :
    pool.setPhase front.length phase =
      { pool with workers := front ++ { worker with phase } :: back } := by
  rw [setPhase, shape, modify_middle]

theorem begin_eq {pool : Pool σ κ} {front : List (Worker κ)} {worker : Worker κ}
    {back : List (Worker κ)} (shape : pool.workers = front ++ worker :: back) (now : Instant)
    (job : LibraryJob) :
    pool.begin now front.length job =
      { pool with
        active := pool.active + 1
        workers := front ++
          { worker with phase := .working job (pool.jobTimeout.map (·.after now)) } :: back } := by
  have placed := setPhase_eq shape (.working job (pool.jobTimeout.map (·.after now)))
  simp only [begin, placed]

theorem exit_eq {pool : Pool σ κ} {front : List (Worker κ)} {worker : Worker κ}
    {back : List (Worker κ)} (shape : pool.workers = front ++ worker :: back) :
    pool.exit front.length =
      { pool with
        live := pool.live - 1
        workers := front ++ { worker with phase := .exited } :: back } := by
  have placed := setPhase_eq shape .exited
  simp only [exit, placed]

private theorem turn_of_finish {policy : Policy σ κ LibraryJob} {now : Instant}
    {answer : Option JobResult} {chance : Chance} {pool after : Pool σ κ}
    {front : List (Worker κ)} {worker : Worker κ} {back : List (Worker κ)} {job : LibraryJob}
    {deadline : Option Instant} (result : JobResult) {report : Report}
    (shape : pool.workers = front ++ worker :: back)
    (working : worker.phase = .working job deadline)
    (told : answer = some result ∨
      answer = none ∧ deadline.any (· ≤ now) = true ∧ ∃ error, result = .error error)
    (ended : pool.finish front.length job result = (after, report)) :
    Turn policy now answer chance pool front worker back after (some report) := by
  have late (error : JobError) (same : result = .error error) :
      (∃ error, answer = some (.error error)) ∨
        answer = none ∧ deadline.any (· ≤ now) = true := by
    rcases told with told | ⟨none, late, _⟩
    · exact Or.inl ⟨error, same ▸ told⟩
    · exact Or.inr ⟨none, late⟩
  unfold finish at ended
  rw [setPhase_eq shape] at ended
  rcases result with error | _
  · cases error <;>
      (simp only [JobStatus.ofResult] at ended
       cases ended
       exact .fails working (late _ rfl))
  · cases ended
    refine .succeeds working ?_
    rcases told with told | ⟨_, _, _, impossible⟩
    · exact told
    · cases impossible

/-- **Every step of a worker is a turn.** -/
theorem turn_of_stepWorker {policy : Policy σ κ LibraryJob} {now : Instant} {index : Nat}
    {answer : Option JobResult} {chance : Chance} {pool after : Pool σ κ} {report : Option Report}
    (stepped : pool.stepWorker policy now index answer chance = some (after, report)) :
    ∃ front worker back, pool.workers = front ++ worker :: back ∧ front.length = index ∧
      Turn policy now answer chance pool front worker back after report := by
  unfold stepWorker at stepped
  split at stepped
  · cases stepped
  next worker found =>
    obtain ⟨within, at_index⟩ := List.getElem?_eq_some_iff.mp found
    have shape :
        pool.workers = pool.workers.take index ++ worker :: pool.workers.drop (index + 1) := by
      rw [← at_index, List.getElem_cons_drop, List.take_append_drop]
    have place : (pool.workers.take index).length = index :=
      List.length_take_of_le (Nat.le_of_lt within)
    refine ⟨_, worker, _, shape, place, ?_⟩
    generalize pool.workers.take index = front at shape place
    generalize pool.workers.drop (index + 1) = back at shape
    subst place
    split at stepped
    next between =>
      cases stepped
      have seen : (pool.workers.modify front.length fun worker =>
          { worker with seen := pool.resizes }) =
            front ++ { worker with seen := pool.resizes } :: back := by
        rw [shape, modify_middle]
      unfold look
      rw [seen]
      dsimp only
      split
      next surplus =>
        rw [setPhase_eq rfl]
        exact .retires between surplus
      next needed =>
        rw [setPhase_eq rfl]
        exact .asks between (Nat.le_of_not_lt needed)
    next request asking =>
      obtain ⟨next, asked, same⟩ := Option.map_eq_some_iff.mp stepped
      cases same
      unfold stepAsking reconsider at asked
      split at asked
      next resized =>
        rw [Bool.and_eq_true, bne_iff_ne] at resized
        rw [setPhase_eq shape] at asked
        cases asked
        exact .reconsiders asking resized.1
      · split at asked
        next source next tried =>
          rw [setPhase_eq (show ({ pool with source } : Pool σ κ).workers = _ from shape)] at asked
          cases asked
          exact .goesOn asking tried
        next source job tried =>
          rw [begin_eq (show ({ pool with source } : Pool σ κ).workers = _ from shape)] at asked
          cases asked
          exact .begins asking tried
        next source tried =>
          rw [exit_eq (show ({ pool with source } : Pool σ κ).workers = _ from shape)] at asked
          cases asked
          exact .exits asking tried
        · split at asked
          next resized =>
            rw [setPhase_eq shape] at asked
            cases asked
            exact .reconsiders asking (bne_iff_ne.mp resized)
          · cases asked
    next job deadline working =>
      split at stepped
      next result =>
        cases stepped
        exact turn_of_finish result shape working (Or.inl rfl) rfl
      · split at stepped
        next late =>
          cases stepped
          exact turn_of_finish (.error (.timeout (pool.jobTimeout.getD .zero))) shape working
            (Or.inr ⟨rfl, late, _, rfl⟩) rfl
        · cases stepped
    · cases stepped
    · cases stepped

/-! ## What a turn changes -/

/-- The number of workers that have not left. -/
def staff (pool : Pool σ κ) : Nat := pool.workers.countP (!·.isGone)

def hands (pool : Pool σ κ) : List LibraryJob := pool.workers.filterMap Worker.job?

/-- The job in one worker's hands. -/
def held (pool : Pool σ κ) (index : Nat) : Option LibraryJob :=
  pool.workers[index]?.bind Worker.job?

/-- The job that a worker has taken into its hands in a step. -/
def begun (before after : Pool σ κ) (index : Nat) : List LibraryJob :=
  if (before.held index).isNone then (after.held index).toList else []

/-- The job that has ended in a worker's step, with what was reported of it. -/
def ended (before : Pool σ κ) (index : Nat) (report : Option Report) :
    List (LibraryJob × Report) :=
  (before.held index).toList.flatMap fun job => report.toList.map (job, ·)

theorem held_middle {pool : Pool σ κ} {front : List (Worker κ)} {worker : Worker κ}
    {back : List (Worker κ)} (shape : pool.workers = front ++ worker :: back) :
    pool.held front.length = worker.job? := by
  rw [held, shape, List.getElem?_append_right (Nat.le_refl _), Nat.sub_self]
  rfl

theorem hands_middle {pool : Pool σ κ} {front : List (Worker κ)} {worker : Worker κ}
    {back : List (Worker κ)} (shape : pool.workers = front ++ worker :: back) :
    pool.hands =
      front.filterMap Worker.job? ++ (worker.job?.toList ++ back.filterMap Worker.job?) := by
  rw [hands, shape, List.filterMap_append, List.filterMap_cons]
  cases worker.job? <;> rfl

namespace Turn

variable {policy : Policy σ κ LibraryJob} {now : Instant} {answer : Option JobResult}
  {chance : Chance} {pool after : Pool σ κ} {front back : List (Worker κ)} {worker : Worker κ}
  {report : Option Report}

theorem settings (turn : Turn policy now answer chance pool front worker back after report) :
    after.opts = pool.opts ∧ after.target = pool.target ∧ after.resizes = pool.resizes ∧
      after.running = pool.running ∧ after.stopped = pool.stopped := by
  cases turn <;> exact ⟨rfl, rfl, rfl, rfl, rfl⟩

theorem workers (turn : Turn policy now answer chance pool front worker back after report) :
    ∃ changed, after.workers = front ++ changed :: back := by
  cases turn <;> exact ⟨_, rfl⟩

/-- A worker that leaves is no longer counted, and no other is. -/
theorem live_eq (turn : Turn policy now answer chance pool front worker back after report)
    (shape : pool.workers = front ++ worker :: back) (counted : pool.live = pool.staff) :
    after.live = after.staff := by
  rw [staff, shape, List.countP_append, List.countP_cons] at counted
  cases turn with
  | retires phase | asks phase | reconsiders phase | goesOn phase | begins phase | exits phase
  | succeeds phase | fails phase =>
      simp only [Worker.isGone, phase, Bool.not_false, ↓reduceIte] at counted
      simp only [staff, Worker.isGone, List.countP_append, List.countP_cons, Bool.not_false,
        Bool.not_true, Bool.false_eq_true, ↓reduceIte]
      omega

/-- Only a worker that has not left goes on. -/
theorem live_pos (turn : Turn policy now answer chance pool front worker back after report)
    (shape : pool.workers = front ++ worker :: back) (counted : pool.live = pool.staff) :
    0 < pool.live := by
  rw [staff, shape, List.countP_append, List.countP_cons] at counted
  cases turn with
  | retires phase | asks phase | reconsiders phase | goesOn phase | begins phase | exits phase
  | succeeds phase | fails phase =>
      simp only [Worker.isGone, phase, Bool.not_false, ↓reduceIte] at counted
      omega

/-- **Jobs in hand.**  A job leaves a worker's hands only by ending. -/
theorem hands_perm (turn : Turn policy now answer chance pool front worker back after report)
    (shape : pool.workers = front ++ worker :: back) :
    ((pool.ended front.length report).map Prod.fst ++ after.hands).Perm
      (pool.hands ++ pool.begun after front.length) := by
  obtain ⟨changed, reshaped⟩ := turn.workers
  rw [ended, begun, held_middle shape, held_middle reshaped, hands_middle shape,
    hands_middle reshaped]
  cases turn with
  | retires phase | asks phase | reconsiders phase | goesOn phase | exits phase =>
      cases List.append_cancel_left reshaped
      simp [Worker.job?, phase]
  | begins phase =>
      cases List.append_cancel_left reshaped
      simp only [Worker.job?, phase, Option.toList_none, Option.toList_some, List.flatMap_nil,
        List.map_nil, List.nil_append, List.singleton_append, Option.isNone_none, ↓reduceIte]
      exact List.perm_middle.trans (List.perm_append_singleton _ _).symm
  | succeeds phase | fails phase =>
      cases List.append_cancel_left reshaped
      simp only [Worker.job?, phase, Option.toList_none, Option.toList_some, List.flatMap_cons,
        List.flatMap_nil, List.map_cons, List.map_nil, List.nil_append, List.append_nil,
        List.singleton_append, Option.isNone_some, Bool.false_eq_true, ↓reduceIte]
      exact List.perm_middle.symm

theorem active_eq (turn : Turn policy now answer chance pool front worker back after report)
    (shape : pool.workers = front ++ worker :: back) (counted : pool.active = pool.hands.length) :
    after.active = after.hands.length := by
  obtain ⟨changed, reshaped⟩ := turn.workers
  rw [hands_middle shape, List.length_append, List.length_append] at counted
  rw [hands_middle reshaped, List.length_append, List.length_append]
  cases turn with
  | retires phase | asks phase | reconsiders phase | goesOn phase | begins phase | exits phase
  | succeeds phase | fails phase =>
      cases List.append_cancel_left reshaped
      simp only [Worker.job?, phase, Option.toList_none, Option.toList_some, List.length_nil,
        List.length_singleton] at counted ⊢
      omega

/-- The jobs that have ended are counted and reported, each as what it came to. -/
theorem counts (turn : Turn policy now answer chance pool front worker back after report)
    (shape : pool.workers = front ++ worker :: back) :
    after.completed = pool.completed +
        (pool.ended front.length report).countP (·.2.event = .succeeded) ∧
    after.failed = pool.failed +
        (pool.ended front.length report).countP (·.2.event = .failed) ∧
    ∀ entry ∈ pool.ended front.length report, entry.2.kind = entry.1.kind.label ∧
      (entry.2.event = .succeeded ∨ entry.2.event = .failed) := by
  rw [ended, held_middle shape]
  cases turn with
  | retires phase | asks phase | reconsiders phase | goesOn phase | begins phase | exits phase
  | succeeds phase | fails phase => simp [Worker.job?, phase]

theorem reports_ended (turn : Turn policy now answer chance pool front worker back after report)
    (shape : pool.workers = front ++ worker :: back) :
    (pool.ended front.length report).map Prod.snd = report.toList := by
  rw [ended, held_middle shape]
  cases turn with
  | retires phase | asks phase | reconsiders phase | goesOn phase | begins phase | exits phase
  | succeeds phase | fails phase => simp [Worker.job?, phase]

end Turn

/-! ## Sizes -/

/-- Only the first start has an effect. -/
theorem run_cases (pool : Pool σ κ) (runtime : Bool) :
    (pool.run runtime).1 = pool ∨
      (pool.run runtime).1 = ({ pool with running := true }).spawn pool.target := by
  unfold run
  split
  · exact Or.inl rfl
  · split
    · exact Or.inl rfl
    · exact Or.inr rfl

theorem spawn_zero (pool : Pool σ κ) : pool.spawn 0 = pool := by
  rw [spawn, List.replicate_zero, List.append_nil, Nat.add_zero]

/-- A change of size adds what is missing to a pool that runs, if there is something to run on. -/
theorem resize_eq_spawn (pool : Pool σ κ) (runtime : Bool) (count : Nat) :
    pool.resize runtime count =
      ({ pool with target := count, resizes := pool.resizes + 1 } : Pool σ κ).spawn
        (if (runtime && pool.running) = true then count - pool.live else 0) := by
  unfold resize setWorkers
  cases runtime <;> cases pool.running <;>
    simp only [Bool.and_true, Bool.and_false, Bool.false_eq_true, ↓reduceIte, spawn_zero]

theorem staff_spawn (pool : Pool σ κ) (count : Nat) :
    (pool.spawn count).staff = pool.staff + count := by
  simp [spawn, staff, List.countP_replicate, Worker.isGone]

theorem hands_spawn (pool : Pool σ κ) (count : Nat) : (pool.spawn count).hands = pool.hands := by
  simp [spawn, hands, List.filterMap_replicate, Worker.job?]

end Pool

end RepoCollector
