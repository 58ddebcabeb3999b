import RepoCollector.Proofs.Queue.Accounts
import RepoCollector.Schedule.Scheduler

/-! # Handing out jobs

What a request for a job does to the lanes, step by step.  A step takes the job at the head of one
of the lanes that are read and attaches the work of that lane, or it leaves all jobs where they are
(`RepoCollector.Lanes.dispatch_cases`, `RepoCollector.Attempt.step_cases`,
`RepoCollector.JobRequest.step_cases`).  A request ends without a job only if there is nothing more
to come, if the scheduler was told to stop, or if it is not to wait.
-/

namespace RepoCollector

namespace Lanes

@[simp]
theorem queue_setQueue_self (lanes : Lanes) (kind : JobKind) (q : JobQueue LibraryJob) :
    (lanes.setQueue kind q).queue kind = q := by
  cases kind <;> rfl

theorem queue_setQueue_of_ne (lanes : Lanes) {kind other : JobKind} (different : other ≠ kind)
    (q : JobQueue LibraryJob) : (lanes.setQueue kind q).queue other = lanes.queue other := by
  cases kind <;> cases other <;> first | rfl | exact (different rfl).elim

@[simp]
theorem setQueue_queue (lanes : Lanes) (kind : JobKind) :
    lanes.setQueue kind (lanes.queue kind) = lanes := by
  cases kind <;> rfl

@[simp]
theorem reads_setQueue (lanes : Lanes) (kind : JobKind) (q : JobQueue LibraryJob) :
    (lanes.setQueue kind q).reads = lanes.reads := by
  cases kind <;> rfl

@[simp]
theorem queue_counted (lanes : Lanes) (kind other : JobKind) :
    (lanes.counted kind).queue other = lanes.queue other := by
  cases kind <;> cases other <;> rfl

@[simp]
theorem reads_counted (lanes : Lanes) (kind : JobKind) :
    (lanes.counted kind).reads = lanes.reads := by
  cases kind <;> rfl

def Balanced (lanes : Lanes) : Prop := ∀ kind, (lanes.queue kind).Balanced

theorem Balanced.setQueue {lanes : Lanes} (balanced : lanes.Balanced) {kind : JobKind}
    {q : JobQueue LibraryJob} (kept : q.Balanced) : (lanes.setQueue kind q).Balanced := by
  intro other
  by_cases same : other = kind
  · subst same
    rw [queue_setQueue_self]
    exact kept
  · rw [queue_setQueue_of_ne lanes same]
    exact balanced other

/-- Every lane that is read is closed and drained. -/
def IsExhausted (lanes : Lanes) : Prop :=
  ∀ kind ∈ lanes.reads.kinds, (lanes.queue kind).isExhausted = true

/-- The same lanes, except for who waits for jobs. -/
structure SameJobs (before after : Lanes) : Prop where
  reads : after.reads = before.reads
  queue : ∀ kind, (before.queue kind).SameJobs (after.queue kind)

theorem SameJobs.refl (lanes : Lanes) : lanes.SameJobs lanes :=
  ⟨rfl, fun _ => .refl _⟩

theorem SameJobs.trans {first middle last : Lanes} (one : first.SameJobs middle)
    (two : middle.SameJobs last) : first.SameJobs last :=
  ⟨two.reads.trans one.reads, fun kind => (one.queue kind).trans (two.queue kind)⟩

theorem SameJobs.balanced {before after : Lanes} (same : before.SameJobs after)
    (balanced : before.Balanced) : after.Balanced :=
  fun kind => (same.queue kind).keeps.balanced (balanced kind)

theorem SameJobs.isExhausted {before after : Lanes} (same : before.SameJobs after)
    (exhausted : before.IsExhausted) : after.IsExhausted := by
  intro kind read
  rw [same.reads] at read
  rw [(same.queue kind).isExhausted]
  exact exhausted kind read

theorem sameJobs_setQueue (lanes : Lanes) {kind : JobKind} {q : JobQueue LibraryJob}
    (same : (lanes.queue kind).SameJobs q) : lanes.SameJobs (lanes.setQueue kind q) := by
  refine ⟨lanes.reads_setQueue kind q, fun other => ?_⟩
  by_cases equal : other = kind
  · subst equal
    rw [queue_setQueue_self]
    exact same
  · rw [queue_setQueue_of_ne lanes equal]
    exact .refl _

/-- A job was taken from the head of a lane. -/
structure Took (kind : JobKind) (job : LibraryJob) (before after : Lanes) : Prop where
  reads : after.reads = before.reads
  read : kind ∈ before.reads.kinds
  items : (before.queue kind).items = job :: (after.queue kind).items
  keeps : (before.queue kind).Keeps (after.queue kind)
  others : ∀ other, other ≠ kind → after.queue other = before.queue other

theorem Took.keeps_queue {kind : JobKind} {job : LibraryJob} {before after : Lanes}
    (took : Took kind job before after) (other : JobKind) :
    (before.queue other).Keeps (after.queue other) := by
  by_cases equal : other = kind
  · subst equal
    exact took.keeps
  · rw [took.others other equal]
    exact .refl _

theorem Took.balanced {kind : JobKind} {job : LibraryJob} {before after : Lanes}
    (took : Took kind job before after) (balanced : before.Balanced) : after.Balanced :=
  fun other => (took.keeps_queue other).balanced (balanced other)

theorem Took.not_isExhausted {kind : JobKind} {job : LibraryJob} {before after : Lanes}
    (took : Took kind job before after) : ¬ before.IsExhausted := by
  intro exhausted
  have drained := exhausted kind took.read
  simp [JobQueue.isExhausted, took.items] at drained

theorem mem_order {lanes : Lanes} {kind : JobKind} :
    kind ∈ lanes.order ↔ kind ∈ lanes.reads.kinds := by
  unfold order
  split
  · exact List.mem_reverse
  · rfl

private theorem dispatchFrom_cases (drained : Bool) {kinds : List JobKind} {lanes : Lanes}
    (balanced : lanes.Balanced) (read : ∀ kind ∈ kinds, kind ∈ lanes.reads.kinds) :
    (∃ kind job q, dispatchFrom drained kinds lanes =
        ((lanes.setQueue kind q).counted kind, .job (job.withWork kind)) ∧
      Took kind job lanes ((lanes.setQueue kind q).counted kind)) ∨
    dispatchFrom drained kinds lanes = (lanes, .empty) ∨
    (dispatchFrom drained kinds lanes = (lanes, .exhausted) ∧ drained = true ∧
      ∀ kind ∈ kinds, (lanes.queue kind).isExhausted = true) := by
  induction kinds generalizing drained with
  | nil =>
      cases drained with
      | true => exact Or.inr (Or.inr ⟨rfl, rfl, fun _ member => nomatch member⟩)
      | false => exact Or.inr (Or.inl rfl)
  | cons kind kinds ih =>
      have later : ∀ other ∈ kinds, other ∈ lanes.reads.kinds :=
        fun other member => read other (List.mem_cons_of_mem _ member)
      rcases (balanced kind).tryRecv_cases with ⟨job, q, tried, items, keeps⟩ | ⟨tried, _⟩ |
        ⟨tried, exhausted⟩
      · refine Or.inl ⟨kind, job, q, ?_, ?_⟩
        · simp only [dispatchFrom, tried]
        · refine ⟨by rw [reads_counted, reads_setQueue], read kind List.mem_cons_self, ?_, ?_, ?_⟩
          · rw [queue_counted, queue_setQueue_self]
            exact items
          · rw [queue_counted, queue_setQueue_self]
            exact keeps
          · intro other different
            rw [queue_counted, queue_setQueue_of_ne lanes different]
      · simp only [dispatchFrom, tried, setQueue_queue]
        rcases ih false later with taken | empty | ⟨_, impossible, _⟩
        · exact Or.inl taken
        · exact Or.inr (Or.inl empty)
        · cases impossible
      · simp only [dispatchFrom, tried, setQueue_queue]
        rcases ih drained later with taken | empty | ⟨found, sofar, rest⟩
        · exact Or.inl taken
        · exact Or.inr (Or.inl empty)
        · refine Or.inr (Or.inr ⟨found, sofar, fun other member => ?_⟩)
          rcases List.mem_cons.mp member with rfl | member
          · exact exhausted
          · exact rest other member

/-- **What one look at the lanes finds.**  A job that is found was at the head of a lane that is
read, and carries the work of that lane. -/
theorem dispatch_cases {lanes : Lanes} (balanced : lanes.Balanced) :
    (∃ kind job q, lanes.dispatch =
        ((lanes.setQueue kind q).counted kind, .job (job.withWork kind)) ∧
      Took kind job lanes ((lanes.setQueue kind q).counted kind)) ∨
    lanes.dispatch = (lanes, .empty) ∨
    (lanes.dispatch = (lanes, .exhausted) ∧ lanes.IsExhausted) := by
  rcases dispatchFrom_cases true balanced (fun kind member => mem_order.mp member) with
    taken | empty | ⟨found, _, rest⟩
  · exact Or.inl taken
  · exact Or.inr (Or.inl empty)
  · exact Or.inr (Or.inr ⟨found, fun kind read => rest kind (mem_order.mpr read)⟩)

theorem parkAt_sameJobs (client : Client) (kinds : List JobKind) (lanes : Lanes) :
    lanes.SameJobs (lanes.parkAt client kinds).1 := by
  induction kinds generalizing lanes with
  | nil => exact .refl lanes
  | cons kind kinds ih =>
      unfold parkAt
      split
      · exact ih lanes
      · have parked := lanes.sameJobs_setQueue ((lanes.queue kind).startReady_sameJobs client)
        exact parked.trans (ih _)

theorem unpark_sameJobs (client : Client) (lanes : Lanes) :
    lanes.SameJobs (lanes.unpark client) := by
  unfold unpark
  generalize lanes.reads.kinds = kinds
  induction kinds generalizing lanes with
  | nil => exact .refl lanes
  | cons kind kinds ih =>
      have left := lanes.sameJobs_setQueue ((lanes.queue kind).abandonReady_sameJobs client)
      exact left.trans (ih _)

end Lanes

namespace Attempt

/-- **What a step of an attempt does.**  It takes a job, or leaves all jobs where they are. -/
theorem step_cases {now : Instant} {client : Client} {attempt : Attempt} {lanes after : Lanes}
    {outcome : Attempt ⊕ Scheduled LibraryJob} (balanced : lanes.Balanced)
    (stepped : attempt.step now client lanes = some (after, outcome)) :
    (∃ kind job, outcome = .inr (.job (job.withWork kind)) ∧ Lanes.Took kind job lanes after) ∨
    lanes.SameJobs after ∧
      ((∃ next, outcome = .inl next) ∨ outcome = .inr .notReady ∨
        outcome = .inr .exhausted ∧ lanes.IsExhausted) := by
  unfold step at stepped
  split at stepped
  · have left := lanes.unpark_sameJobs client
    split at stepped
    · cases stepped
      exact Or.inr ⟨left, Or.inl ⟨_, rfl⟩⟩
    · split at stepped
      · cases stepped
        exact Or.inr ⟨left, Or.inr (Or.inl rfl)⟩
      · cases stepped
  · rcases Lanes.dispatch_cases balanced with ⟨kind, job, q, found, took⟩ | found | ⟨found, none⟩
    · simp only [found] at stepped
      cases stepped
      exact Or.inl ⟨kind, job, rfl, took⟩
    · simp only [found] at stepped
      have parked := lanes.parkAt_sameJobs client lanes.reads.kinds
      generalize lanes.parkAt client lanes.reads.kinds = told at stepped parked
      obtain ⟨lined, _ | _⟩ := told
      · cases stepped
        exact Or.inr ⟨parked, Or.inl ⟨_, rfl⟩⟩
      · cases stepped
        exact Or.inr ⟨parked.trans (lined.unpark_sameJobs client), Or.inl ⟨_, rfl⟩⟩
    · simp only [found] at stepped
      cases stepped
      exact Or.inr ⟨.refl lanes, Or.inr (Or.inr ⟨rfl, none⟩)⟩

theorem abandon_sameJobs (client : Client) (attempt : Attempt) (lanes : Lanes) :
    lanes.SameJobs (attempt.abandon client lanes) := by
  unfold abandon
  split
  · exact lanes.unpark_sameJobs client
  · exact .refl lanes

end Attempt

namespace JobRequest

/-- A request that goes on after the stop is given up. -/
theorem step_of_stopped {σ κ J : Type} (policy : Policy σ κ J) (opts : SchedulerOpts)
    (now : Instant) (client : Client) (draw : Float) (request : JobRequest κ) (source : σ) :
    request.step policy opts true now client draw source =
      some (request.abandon policy client source, .inr none) := by
  unfold step abandon
  cases request.phase <;> rfl

/-- **What a step of a request does.**  It takes a job, or leaves all jobs where they are; it ends
without a job only for a reason. -/
theorem step_cases {opts : SchedulerOpts} {stopped : Bool} {now : Instant} {client : Client}
    {draw : Float} {request : JobRequest Attempt} {lanes after : Lanes}
    {outcome : JobRequest Attempt ⊕ Option LibraryJob} (balanced : lanes.Balanced)
    (stepped : request.step Lanes.policy opts stopped now client draw lanes =
      some (after, outcome)) :
    (∃ kind job, outcome = .inr (some (job.withWork kind)) ∧ Lanes.Took kind job lanes after) ∨
    lanes.SameJobs after ∧
      ((∃ next, outcome = .inl next) ∨
        outcome = .inr none ∧ (stopped = true ∨ opts.notWait = true ∨ lanes.IsExhausted)) := by
  unfold step at stepped
  split at stepped
  · split at stepped
    next told =>
      cases stepped
      exact Or.inr ⟨.refl lanes, Or.inr ⟨rfl, Or.inl told⟩⟩
    · cases stepped
      exact Or.inr ⟨.refl lanes, Or.inl ⟨_, rfl⟩⟩
  next attempt _ =>
    split at stepped
    next told =>
      cases stepped
      exact Or.inr ⟨attempt.abandon_sameJobs client lanes, Or.inr ⟨rfl, Or.inl told⟩⟩
    · cases tried : Lanes.policy.step now client attempt lanes with
      | none =>
          rw [tried] at stepped
          cases stepped
      | some found =>
          obtain ⟨next, answer⟩ := found
          rw [tried] at stepped
          rcases Attempt.step_cases balanced tried with ⟨kind, job, rfl, took⟩ |
            ⟨same, ⟨_, rfl⟩ | rfl | ⟨rfl, none⟩⟩
          · cases stepped
            exact Or.inl ⟨kind, job, rfl, took⟩
          · cases stepped
            exact Or.inr ⟨same, Or.inl ⟨_, rfl⟩⟩
          · dsimp only at stepped
            split at stepped
            next unwaiting =>
              cases stepped
              exact Or.inr ⟨same, Or.inr ⟨rfl, Or.inr (Or.inl unwaiting)⟩⟩
            · cases stepped
              exact Or.inr ⟨same, Or.inl ⟨_, rfl⟩⟩
          · cases stepped
            exact Or.inr ⟨same, Or.inr ⟨rfl, Or.inr (Or.inr none)⟩⟩
  · split at stepped
    next told =>
      cases stepped
      exact Or.inr ⟨.refl lanes, Or.inr ⟨rfl, Or.inl told⟩⟩
    · split at stepped
      · cases stepped
        exact Or.inr ⟨.refl lanes, Or.inl ⟨_, rfl⟩⟩
      · cases stepped

theorem abandon_sameJobs (client : Client) (request : JobRequest Attempt) (lanes : Lanes) :
    lanes.SameJobs (request.abandon Lanes.policy client lanes) := by
  unfold abandon
  split
  next attempt _ => exact attempt.abandon_sameJobs client lanes
  · exact .refl lanes

end JobRequest

end RepoCollector
