import RepoCollector.Proofs.Queue.Session

/-! # Places in line

Senders line up for a slot and receivers for a job.  As long as every call that was woken is run
before the queue is used again, the two lines are never there together, no permit lies idle while a
client waits for one, and at most one slot is on its way to a sender
(`RepoCollector.JobQueue.Orderly`).  A slot that is on its way belongs to the first in line
(`RepoCollector.Semaphore.granted_abandon`): whoever leaves the line hands its place to the next.

A call that has just begun finds no slot on its way, and a sender then finds no job on its way
either.  That is all that is asked for every step of a call to keep the lines in order
(`RepoCollector.OpenCall.step_orderly`).
-/

namespace RepoCollector

namespace Semaphore

variable {s : Semaphore}

/-- Nobody waits while a permit is free. -/
def Thrifty (s : Semaphore) : Prop := s.waiting ≠ [] → s.permits = 0

/-- While there is a line no permit is free, and at most one is on its way. -/
def Paced (s : Semaphore) : Prop := s.line ≠ [] → s.permits = 0 ∧ s.granted.length ≤ 1

/-- A permit that comes back to an open semaphore is kept only if nobody waits for it. -/
theorem release_cases (opened : s.closed = false) :
    (s.waiting = [] ∧ s.release = { s with permits := s.permits + 1 }) ∨
    ∃ client waiting, s.waiting = client :: waiting ∧
      s.release = { s with waiting, granted := s.granted ++ [client] } := by
  unfold release
  rw [opened]
  cases first : s.waiting with
  | nil => exact Or.inl ⟨rfl, by rw [if_neg Bool.false_ne_true]⟩
  | cons client waiting =>
      exact Or.inr ⟨client, waiting, rfl, by rw [if_neg Bool.false_ne_true]⟩

theorem Thrifty.release (thrifty : s.Thrifty) (opened : s.closed = false) : s.release.Thrifty := by
  rcases release_cases opened with ⟨nobody, kept⟩ | ⟨client, waiting, first, given⟩
  · rw [kept]
    exact fun someone => absurd nobody someone
  · rw [given]
    exact fun _ => thrifty (first ▸ List.cons_ne_nil client waiting)

theorem Thrifty.abandon (thrifty : s.Thrifty) (opened : s.closed = false) (client : Client) :
    (s.abandon client).Thrifty := by
  unfold Semaphore.abandon
  split
  · exact Thrifty.release (s := { s with granted := s.granted.erase client }) thrifty opened
  · intro someone
    refine thrifty fun nobody => someone ?_
    change s.waiting.erase client = []
    rw [nobody, List.erase_nil]

/-- **A place in line passes on.**  Whoever leaves the line, as many clients as before have a permit
on its way, if there are so many, and they are the first in line. -/
theorem granted_abandon (opened : s.closed = false) (client : Client) :
    (s.abandon client).granted = (s.line.erase client).take s.granted.length := by
  unfold abandon line
  split
  next member =>
    rw [List.erase_append_left _ member]
    have shorter := List.length_erase_of_mem member
    have positive := List.length_pos_of_mem member
    rcases release_cases (s := { s with granted := s.granted.erase client }) opened with
      ⟨nobody, kept⟩ | ⟨next, waiting, first, given⟩
    · rw [kept]
      have nobody : s.waiting = [] := nobody
      rw [nobody, List.append_nil, List.take_of_length_le]
      omega
    · rw [given]
      have first : s.waiting = next :: waiting := first
      have places : s.granted.length = (s.granted.erase client).length + 1 := by omega
      rw [first, places, List.take_length_add_append, List.take_one, List.head?_cons,
        Option.toList_some]
  next absent =>
    rw [List.erase_append_right _ absent, List.take_left]

/-- The permit that comes back goes to the first in line. -/
theorem Paced.release (paced : s.Paced) (opened : s.closed = false) (none : s.granted = []) :
    s.release.Paced := by
  intro someone
  rw [line_release] at someone
  rcases release_cases opened with ⟨nobody, _⟩ | ⟨client, waiting, _, given⟩
  · exact absurd (List.append_eq_nil_iff.mpr ⟨none, nobody⟩) someone
  · rw [given, none]
    exact ⟨(paced someone).1, Nat.le_refl 1⟩

theorem Paced.abandon (paced : s.Paced) (opened : s.closed = false) (client : Client) :
    (s.abandon client).Paced := by
  intro someone
  rw [line_abandon] at someone
  obtain ⟨empty, single⟩ := paced fun nobody => someone (by rw [nobody, List.erase_nil])
  refine ⟨?_, ?_⟩
  · unfold Semaphore.abandon
    split
    next member =>
      rcases release_cases (s := { s with granted := s.granted.erase client }) opened with
        ⟨nobody, _⟩ | ⟨next, waiting, _, given⟩
      · -- the only slot that was on its way is free, and nobody is left to wait for it
        have shorter := List.length_erase_of_mem member
        have left : s.granted.erase client = [] := List.length_eq_zero_iff.mp (by omega)
        refine absurd ?_ someone
        rw [line, List.erase_append_left _ member, left]
        exact nobody
      · rw [given]
        exact empty
    · exact empty
  · rw [granted_abandon opened, List.length_take]
    omega

end Semaphore

namespace JobQueue

variable {α : Type} {q : JobQueue α}

/-- **When a receiver is told that there is nothing now.**  No permit is free; the buffered jobs are
as many as the receivers that were woken for them. -/
theorem Balanced.tryRecv_eq_empty_iff (balanced : q.Balanced) :
    q.tryRecv.2 = .empty ↔ q.isClosed = false ∧ q.size = q.available.granted.length := by
  have together : q.available.closed = q.isClosed := balanced.together
  rcases q.available.tryAcquire_cases with ⟨closed, tried⟩ | ⟨opened, none, tried⟩ |
    ⟨permits, opened, some, tried⟩
  · have shut : q.isClosed = true := together.symm.trans closed
    simp only [shut, Bool.true_eq_false, false_and, iff_false]
    simp only [tryRecv, tried]
    cases items : q.items <;> simp only [pop, items, reduceCtorEq, not_false_eq_true]
  · have opened : q.isClosed = false := together.symm.trans opened
    have jobs := balanced.jobs opened
    rw [Semaphore.supply, none, Nat.zero_add] at jobs
    simp only [tryRecv, tried, opened, jobs, and_self]
  · have opened : q.isClosed = false := together.symm.trans opened
    have jobs := balanced.jobs opened
    rw [Semaphore.supply, some] at jobs
    -- a free permit stands for a job that nobody was woken for
    have more : q.size ≠ q.available.granted.length := by omega
    simp only [opened, more, and_false, iff_false]
    rcases balanced.tryRecv_cases with ⟨job, after, answer, _⟩ | ⟨answer, _⟩ | ⟨answer, _⟩
    · simp only [answer, reduceCtorEq, not_false_eq_true]
    · cases items : q.items with
      | nil =>
          rw [size, items, List.length_nil] at jobs
          omega
      | cons job rest =>
          simp only [tryRecv, tried, pop, items, Prod.mk.injEq, reduceCtorEq, and_false] at answer
    · simp only [answer, reduceCtorEq, not_false_eq_true]

/-- **The lines of an open queue are in order.** -/
structure Orderly (q : JobQueue α) : Prop where
  thrifty : q.available.Thrifty
  paced : q.slots.Paced
  /-- While senders wait for a slot, nobody waits for a job. -/
  apart : q.slots.line ≠ [] → q.available.line = []

theorem orderly_make (name : String) (capacity : Nat) : (make name capacity : JobQueue α).Orderly :=
  ⟨fun someone => absurd rfl someone, fun someone => absurd rfl someone,
    fun someone => absurd rfl someone⟩

/-- A queue that senders wait for, none of which was granted a slot, is full. -/
theorem Orderly.size_eq (orderly : q.Orderly) (balanced : q.Balanced) (opened : q.isClosed = false)
    (none : q.slots.granted = []) (someone : q.slots.line ≠ []) : q.size = q.capacity := by
  have slots := balanced.slots opened
  rw [Semaphore.supply, none, (orderly.paced someone).1] at slots
  simpa only [List.length_nil, Nat.zero_add] using slots

/-- Where no job is free, no sender waits. -/
private theorem Orderly.nobody_waits (orderly : q.Orderly) (balanced : q.Balanced)
    (opened : q.isClosed = false) (positive : 0 < q.capacity) (none : q.slots.granted = [])
    (empty : q.available.permits = 0) : q.slots.line = [] := by
  by_contra someone
  have full := orderly.size_eq balanced opened none someone
  have alone : q.available.granted = [] := (List.append_eq_nil_iff.mp (orderly.apart someone)).1
  have jobs := balanced.jobs opened
  rw [Semaphore.supply, empty, alone, List.length_nil] at jobs
  omega

/-- A job that is put into the buffer is free, unless a receiver waits for it. -/
private theorem Orderly.push (orderly : q.Orderly) (likewise : q.available.closed = false)
    (slots : Semaphore) (paced : slots.Paced) (line : slots.line ≠ [] → q.slots.line ≠ [])
    (job : α) : (JobQueue.push { q with slots } job).Orderly :=
  ⟨orderly.thrifty.release likewise, paced, fun someone =>
    q.available.line_release.trans (orderly.apart (line someone))⟩

private theorem Orderly.startSend (orderly : q.Orderly) (balanced : q.Balanced)
    (opened : q.isClosed = false) (positive : 0 < q.capacity) (none : q.slots.granted = [])
    (quiet : q.available.granted = []) (client : Client) (job : α) :
    (q.startSend client job).1.Orderly := by
  have likewise : q.available.closed = false := balanced.together.trans opened
  simp only [JobQueue.startSend, opened, Bool.false_eq_true, ↓reduceIte, Semaphore.acquire]
  rcases q.slots.tryAcquire_cases with ⟨closed, _⟩ | ⟨_, taken, tried⟩ | ⟨permits, _, free, tried⟩
  · exact Bool.noConfusion (closed.symm.trans opened)
  · simp only [tried, finishSend]
    refine ⟨orderly.thrifty, fun _ => ⟨taken, ?_⟩, fun _ => ?_⟩
    · change q.slots.granted.length ≤ 1
      rw [none]
      exact Nat.zero_le 1
    · -- the buffer is full, so the jobs in it are free and no receiver waits
      have slots := balanced.slots opened
      have jobs := balanced.jobs opened
      rw [Semaphore.supply, none, taken, List.length_nil] at slots
      rw [Semaphore.supply, quiet, List.length_nil] at jobs
      have nobody : q.available.waiting = [] := by
        by_contra someone
        have empty := orderly.thrifty someone
        omega
      exact List.append_eq_nil_iff.mpr ⟨quiet, nobody⟩
  · simp only [tried, finishSend]
    refine orderly.push likewise { q.slots with permits } (fun someone => ?_) id job
    have empty := (orderly.paced someone).1
    omega

theorem Orderly.tryRecv (orderly : q.Orderly) (balanced : q.Balanced) (opened : q.isClosed = false)
    (none : q.slots.granted = []) : q.tryRecv.1.Orderly := by
  rcases q.available.tryAcquire_cases with ⟨closed, _⟩ | ⟨_, _, tried⟩ | ⟨permits, _, free, tried⟩
  · exact Bool.noConfusion ((closed.symm.trans balanced.together).trans opened)
  · simp only [JobQueue.tryRecv, tried]
    exact orderly
  · have thrifty : ({ q.available with permits } : Semaphore).Thrifty := by
      intro someone
      have empty := orderly.thrifty someone
      omega
    cases items : q.items with
    | nil =>
        simp only [JobQueue.tryRecv, tried, pop, items]
        exact ⟨thrifty, orderly.paced, orderly.apart⟩
    | cons job rest =>
        simp only [JobQueue.tryRecv, tried, pop, items]
        refine ⟨thrifty, orderly.paced.release opened none, fun someone => ?_⟩
        rw [Semaphore.line_release] at someone
        exact orderly.apart someone

private theorem Orderly.startReady (orderly : q.Orderly) (balanced : q.Balanced)
    (opened : q.isClosed = false) (positive : 0 < q.capacity) (none : q.slots.granted = [])
    (client : Client) : (q.startReady client).1.Orderly := by
  have likewise : q.available.closed = false := balanced.together.trans opened
  simp only [JobQueue.startReady, Semaphore.acquire]
  rcases q.available.tryAcquire_cases with ⟨closed, _⟩ | ⟨_, empty, tried⟩ |
    ⟨permits, _, free, tried⟩
  · exact Bool.noConfusion (closed.symm.trans likewise)
  · simp only [tried]
    refine ⟨fun _ => empty, orderly.paced, fun someone => ?_⟩
    exact absurd (orderly.nobody_waits balanced opened positive none empty) someone
  · simp only [tried]
    refine ⟨Semaphore.Thrifty.release (fun someone => ?_) likewise, orderly.paced,
      fun someone => ?_⟩
    · have empty := orderly.thrifty someone
      omega
    · exact (Semaphore.line_release _).trans (orderly.apart someone)

private theorem Orderly.resumeReady (orderly : q.Orderly) (balanced : q.Balanced)
    (opened : q.isClosed = false) (client : Client) : (q.resumeReady client).1.Orderly := by
  have likewise : q.available.closed = false := balanced.together.trans opened
  simp only [JobQueue.resumeReady, Semaphore.resume, likewise, Bool.false_eq_true, ↓reduceIte]
  by_cases granted : client ∈ q.available.granted
  · simp only [granted, ↓reduceIte]
    refine ⟨Semaphore.Thrifty.release (s := ⟨_, _, _, false⟩) orderly.thrifty rfl, orderly.paced,
      fun someone => ?_⟩
    have nobody := List.append_eq_nil_iff.mp (orderly.apart someone)
    exact absurd (nobody.1 ▸ granted) List.not_mem_nil
  · simp only [granted, ↓reduceIte]
    exact orderly

theorem Orderly.abandonSend (orderly : q.Orderly) (opened : q.isClosed = false) (client : Client) :
    (q.abandonSend client).Orderly := by
  refine ⟨orderly.thrifty, orderly.paced.abandon opened client, fun someone => orderly.apart ?_⟩
  intro nobody
  exact someone ((q.slots.line_abandon client).trans (by rw [nobody, List.erase_nil]))

theorem Orderly.abandonReady (orderly : q.Orderly) (balanced : q.Balanced)
    (opened : q.isClosed = false) (client : Client) : (q.abandonReady client).Orderly := by
  refine ⟨orderly.thrifty.abandon (balanced.together.trans opened) client, orderly.paced, ?_⟩
  intro someone
  refine (q.available.line_abandon client).trans ?_
  rw [orderly.apart someone, List.erase_nil]

end JobQueue

/-- The job that a call is to send. -/
def Call.job? {α : Type} : Call α → Option α
  | .send job _ => some job
  | .recv | .ready => none

namespace OpenCall

variable {α : Type} {now : Instant} {client : Client} {q after : JobQueue α} {job : α}
  {deadline : Option Instant} {pending : OpenCall α} {outcome : OpenCall α ⊕ Reply α}

/-- A sender that waits takes the slot that was granted to it, whatever time it is. -/
theorem step_of_granted (opened : q.isClosed = false) (granted : client ∈ q.slots.granted)
    (now : Instant) (job : α) (deadline : Option Instant) :
    step now client ⟨.send job deadline, true⟩ q =
      some (JobQueue.push { q with
        slots := { q.slots with granted := q.slots.granted.erase client } } job, .inr .sent) := by
  have opened : q.slots.closed = false := opened
  simp only [step, JobQueue.resumeSend, Semaphore.resume, opened, Bool.false_eq_true, ↓reduceIte,
    granted, JobQueue.finishSend, sendReply]

/-- Else it waits on, or it leaves the line. -/
theorem step_of_not_granted (none : ¬ (q.isClosed = false ∧ client ∈ q.slots.granted))
    (stepped : step now client ⟨.send job deadline, true⟩ q = some (after, outcome)) :
    after = q.abandonSend client ∧ ∃ fault, outcome = .inr (.notSent fault job) := by
  cases closed : q.slots.closed with
  | true =>
      simp only [step, JobQueue.resumeSend, Semaphore.resume, closed, ↓reduceIte,
        JobQueue.finishSend, sendReply, Option.some.injEq, Prod.mk.injEq] at stepped
      obtain ⟨rfl, rfl⟩ := stepped
      exact ⟨rfl, _, rfl⟩
  | false =>
      have waits : client ∉ q.slots.granted := fun granted => none ⟨closed, granted⟩
      simp only [step, JobQueue.resumeSend, Semaphore.resume, closed, Bool.false_eq_true,
        ↓reduceIte, waits, JobQueue.finishSend] at stepped
      split at stepped
      · cases stepped
        exact ⟨rfl, _, rfl⟩
      · cases stepped

/-- A sender's first step lines up, takes a free slot, or is refused. -/
theorem step_of_new_sender
    (stepped : step now client ⟨.send job deadline, false⟩ q = some (after, outcome)) :
    outcome = .inl ⟨.send job deadline, true⟩ ∨
      (outcome = .inr .sent ∧ q.isClosed = false ∧ q.slots.permits ≠ 0) ∨
      ∃ fault, outcome = .inr (.notSent fault job) := by
  simp only [step, JobQueue.startSend] at stepped
  cases closed : q.isClosed with
  | true =>
      simp only [closed, ↓reduceIte] at stepped
      cases stepped
      exact Or.inr (Or.inr ⟨_, rfl⟩)
  | false =>
      simp only [closed, Bool.false_eq_true, ↓reduceIte, Semaphore.acquire] at stepped
      rcases q.slots.tryAcquire_cases with ⟨shut, _⟩ | ⟨_, _, tried⟩ | ⟨permits, _, free, tried⟩
      · exact Bool.noConfusion (shut.symm.trans closed)
      · simp only [tried, JobQueue.finishSend] at stepped
        cases stepped
        exact Or.inl rfl
      · simp only [tried, JobQueue.finishSend] at stepped
        cases stepped
        refine Or.inr (Or.inl ⟨rfl, rfl, ?_⟩)
        rw [free]
        exact Nat.succ_ne_zero permits

/-- Only a receiver looks into the queue again after it was woken. -/
theorem call_of_unparked {next : OpenCall α}
    (stepped : pending.step now client q = some (after, .inl next))
    (unparked : next.parked = false) :
    next.call = .recv := by
  obtain ⟨call, parked⟩ := pending
  cases call with
  | send job deadline =>
      cases parked with
      | false =>
          simp only [step] at stepped
          generalize q.startSend client job = tried at stepped
          obtain ⟨_, _ | _⟩ := tried <;> cases stepped
          cases unparked
      | true =>
          simp only [step] at stepped
          generalize q.resumeSend client job = tried at stepped
          obtain ⟨_, _ | _⟩ := tried
          · simp only at stepped
            split at stepped <;> cases stepped
          · cases stepped
  | recv =>
      cases parked with
      | false =>
          simp only [step] at stepped
          generalize q.tryRecv = tried at stepped
          obtain ⟨_, _ | _ | _⟩ := tried <;> cases stepped
          rfl
      | true =>
          simp only [step] at stepped
          generalize q.resumeReady client = looked at stepped
          obtain ⟨_, _ | _⟩ := looked <;> cases stepped
          rfl
  | ready =>
      cases parked with
      | false =>
          simp only [step] at stepped
          generalize q.startReady client = looked at stepped
          obtain ⟨_, _ | _⟩ := looked <;> cases stepped
          cases unparked
      | true =>
          simp only [step] at stepped
          generalize q.resumeReady client = looked at stepped
          obtain ⟨_, _ | _⟩ := looked <;> cases stepped

/-- What is not a sender leaves the senders' line alone. -/
theorem Effect.of_receiver (effect : Effect client pending q after outcome)
    (receiver : pending.call.job? = none) :
    after.slots.line = q.slots.line ∧ outcome.getLeft?.any awaitsSlot = false ∧
      (record client pending.call outcome).flatMap Ended.accepted = [] := by
  have quiet (other : OpenCall α) (same : other.call = pending.call) :
      other.awaitsSlot = false := by
    obtain ⟨call, parked⟩ := other
    cases call with
    | send job deadline =>
        rw [← same] at receiver
        cases receiver
    | recv => rfl
    | ready => rfl
  have line := effect.line
  rw [quiet pending rfl, if_neg Bool.false_ne_true] at line
  cases outcome with
  | inl next =>
      have still := quiet next (effect.call next rfl)
      rw [Sum.elim_inl, still, if_neg Bool.false_ne_true, List.append_nil] at line
      exact ⟨line, still, rfl⟩
  | inr reply =>
      rw [Sum.elim_inr, if_neg Bool.false_ne_true, List.append_nil] at line
      refine ⟨line, rfl, ?_⟩
      cases call : pending.call with
      | send job deadline =>
          rw [call] at receiver
          cases receiver
      | recv => rfl
      | ready => rfl

/-- **Where a step leaves senders in line**, there was a line before, unless it is a sender's first
step, and no receiver is about to look into the queue. -/
theorem step_parks (opened : q.isClosed = false) (balanced : q.Balanced) (positive : 0 < q.capacity)
    (orderly : q.Orderly) (calm : pending.parked = false → q.slots.granted = [])
    (stepped : pending.step now client q = some (after, outcome))
    (someone : after.slots.line ≠ []) :
    ((∃ job deadline, pending = ⟨.send job deadline, false⟩) ∨ q.slots.line ≠ []) ∧
      ∀ next, outcome = .inl next → next.parked = true := by
  have effect := step_effect balanced stepped
  have before : (∃ job deadline, pending = ⟨.send job deadline, false⟩) ∨ q.slots.line ≠ [] := by
    obtain ⟨call, parked⟩ := pending
    cases call with
    | send job deadline =>
        cases parked with
        | false => exact Or.inl ⟨job, deadline, rfl⟩
        | true =>
            refine Or.inr fun nobody => someone ?_
            have absent : client ∉ q.slots.granted := by
              rw [(List.append_eq_nil_iff.mp nobody).1]
              exact List.not_mem_nil
            obtain ⟨rfl, _⟩ := step_of_not_granted (fun both => absent both.2) stepped
            exact (q.slots.line_abandon client).trans (by rw [nobody, List.erase_nil])
    | recv => exact Or.inr ((effect.of_receiver rfl).1 ▸ someone)
    | ready => exact Or.inr ((effect.of_receiver rfl).1 ▸ someone)
  refine ⟨before, ?_⟩
  rintro next rfl
  by_contra unparked
  have unparked : next.parked = false := Bool.eq_false_iff.mpr unparked
  have call : pending.call = .recv :=
    (effect.call next rfl).symm.trans (call_of_unparked stepped unparked)
  obtain ⟨_, parked⟩ := pending
  cases call
  have line : q.slots.line ≠ [] := by
    rcases before with ⟨_, _, other⟩ | line
    · cases other
    · exact line
  have nobody := (List.append_eq_nil_iff.mp (orderly.apart line)).1
  cases parked with
  | false =>
      -- the buffer is full, and nobody was woken for the jobs in it
      have full := orderly.size_eq balanced opened (calm rfl) line
      simp only [step] at stepped
      rcases balanced.tryRecv_cases with ⟨job, other, tried, _⟩ | ⟨tried, _⟩ | ⟨tried, _⟩
      · simp only [tried, Option.some.injEq, Prod.mk.injEq, reduceCtorEq, and_false] at stepped
      · have told := (balanced.tryRecv_eq_empty_iff.mp (by rw [tried])).2
        rw [nobody, List.length_nil] at told
        omega
      · simp only [tried, Option.some.injEq, Prod.mk.injEq, reduceCtorEq, and_false] at stepped
  | true =>
      have likewise : q.available.closed = false := balanced.together.trans opened
      simp only [step, JobQueue.resumeReady, Semaphore.resume, likewise, Bool.false_eq_true,
        ↓reduceIte, nobody, List.not_mem_nil, reduceCtorEq] at stepped

/-- **Every step of a call keeps the lines in order.** -/
theorem step_orderly (opened : q.isClosed = false) (balanced : q.Balanced)
    (positive : 0 < q.capacity) (orderly : q.Orderly)
    (calm : pending.parked = false → q.slots.granted = [])
    (quiet : ∀ job deadline, pending = ⟨.send job deadline, false⟩ → q.available.granted = [])
    (stepped : pending.step now client q = some (after, outcome)) : after.Orderly := by
  obtain ⟨call, _ | _⟩ := pending
  · have none := calm rfl
    cases call with
    | send job deadline =>
        have kept := orderly.startSend balanced opened positive none (quiet job deadline rfl) client
          job
        simp only [step] at stepped
        generalize q.startSend client job = tried at stepped kept
        obtain ⟨next, _ | answer⟩ := tried <;> cases stepped <;> exact kept
    | recv =>
        have kept := orderly.tryRecv balanced opened none
        simp only [step] at stepped
        rcases balanced.tryRecv_cases with ⟨job, next, tried, _⟩ | ⟨tried, _⟩ | ⟨tried, _⟩
        · rw [tried] at kept
          simp only [tried] at stepped
          cases stepped
          exact kept
        · simp only [tried] at stepped
          cases stepped
          exact orderly.startReady balanced opened positive none client
        · simp only [tried] at stepped
          cases stepped
          exact orderly
    | ready =>
        have kept := orderly.startReady balanced opened positive none client
        simp only [step] at stepped
        generalize q.startReady client = looked at stepped kept
        obtain ⟨next, _ | _⟩ := looked <;> cases stepped <;> exact kept
  · cases call with
    | send job deadline =>
        by_cases granted : client ∈ q.slots.granted
        · rw [step_of_granted opened granted] at stepped
          cases stepped
          have someone : q.slots.line ≠ [] := by
            intro nobody
            exact absurd ((List.append_eq_nil_iff.mp nobody).1 ▸ granted) List.not_mem_nil
          obtain ⟨empty, single⟩ := orderly.paced someone
          exact orderly.push (balanced.together.trans opened)
            { q.slots with granted := q.slots.granted.erase client }
            (fun _ => ⟨empty, Nat.le_trans List.length_erase_le single⟩) (fun _ => someone) job
        · obtain ⟨rfl, _⟩ := step_of_not_granted (fun both => granted both.2) stepped
          exact orderly.abandonSend opened client
    | recv =>
        have kept := orderly.resumeReady balanced opened client
        simp only [step] at stepped
        generalize q.resumeReady client = looked at stepped kept
        obtain ⟨next, _ | _⟩ := looked <;> cases stepped
        exact kept
    | ready =>
        have kept := orderly.resumeReady balanced opened client
        simp only [step] at stepped
        generalize q.resumeReady client = looked at stepped kept
        obtain ⟨next, _ | _⟩ := looked <;> cases stepped
        exact kept

end OpenCall

end RepoCollector
