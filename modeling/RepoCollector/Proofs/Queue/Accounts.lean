import Mathlib.Data.List.Basic
import RepoCollector.Queue.Call

/-! # The books of a queue

While a queue is open, its two semaphores are in step with its buffer: the permits of one are the
free slots and the slots on their way to a sender, the permits of the other are the buffered jobs
(`RepoCollector.JobQueue.Balanced`).  Every operation of a queue keeps the books balanced, whoever
makes it and in whatever order.

What an operation does to the buffer is said by an equation for each: a try of a sender puts its job
at the end exactly if it answers that the job was sent (`RepoCollector.JobQueue.items_startSend`,
`RepoCollector.JobQueue.items_resumeSend`), a receiver takes the job at the head or nothing
(`RepoCollector.JobQueue.items_tryRecv`), and the rest leave the buffer alone.
-/

namespace RepoCollector

namespace Semaphore

/-- The clients that were granted a permit and those that wait for one, in the order in which they
lined up. -/
def line (s : Semaphore) : List Client := s.granted ++ s.waiting

@[simp]
theorem closed_release (s : Semaphore) : s.release.closed = s.closed := by
  unfold release
  split
  · rfl
  · split <;> rfl

@[simp]
theorem closed_abandon (s : Semaphore) (client : Client) :
    (s.abandon client).closed = s.closed := by
  unfold abandon
  split
  · rw [closed_release]
  · rfl

/-- A permit that is given back moves a client on within the line. -/
@[simp]
theorem line_release (s : Semaphore) : s.release.line = s.line := by
  unfold release line
  split
  · rfl
  · split
    next empty => rw [empty]
    next client waiting first =>
      simp only [first, List.append_assoc, List.singleton_append]

@[simp]
theorem line_abandon (s : Semaphore) (client : Client) :
    (s.abandon client).line = s.line.erase client := by
  unfold abandon
  split
  next member =>
    rw [line_release]
    exact (List.erase_append_left _ member).symm
  next absent => exact (List.erase_append_right _ absent).symm

/-- What a semaphore is like after it has given an answer. -/
structure Answers (before after : Semaphore) (permit : Permit) : Prop where
  closed : after.closed = before.closed
  refused : permit = .refused ↔ before.closed = true
  supply : before.supply = after.supply + if permit = .taken then 1 else 0

/-- A semaphore refuses, has nothing to give, or gives a permit. -/
theorem tryAcquire_cases (s : Semaphore) :
    s.closed = true ∧ s.tryAcquire = (s, .refused) ∨
      s.closed = false ∧ s.permits = 0 ∧ s.tryAcquire = (s, .notNow) ∨
      ∃ permits, s.closed = false ∧ s.permits = permits + 1 ∧
        s.tryAcquire = ({ s with permits }, .taken) := by
  unfold tryAcquire
  split
  next closed => exact Or.inl ⟨closed, rfl⟩
  next opened =>
    have opened : s.closed = false := Bool.eq_false_iff.mpr opened
    split
    next none => exact Or.inr (Or.inl ⟨opened, none, rfl⟩)
    next permits some => exact Or.inr (Or.inr ⟨permits, opened, some, rfl⟩)

theorem tryAcquire_answers (s : Semaphore) : s.Answers s.tryAcquire.1 s.tryAcquire.2 := by
  rcases s.tryAcquire_cases with ⟨closed, tried⟩ | ⟨opened, _, tried⟩ | ⟨_, opened, some, tried⟩
  · rw [tried]
    exact ⟨rfl, by simp only [closed], rfl⟩
  · rw [tried]
    exact ⟨rfl, by simp only [opened, reduceCtorEq, Bool.false_eq_true], rfl⟩
  · rw [tried]
    refine ⟨rfl, by simp only [opened, reduceCtorEq, Bool.false_eq_true], ?_⟩
    simp only [supply, some, ↓reduceIte]
    omega

theorem acquire_answers (s : Semaphore) (client : Client) :
    s.Answers (s.acquire client).1 (s.acquire client).2 := by
  have answer := s.tryAcquire_answers
  rcases s.tryAcquire_cases with ⟨_, tried⟩ | ⟨_, _, tried⟩ | ⟨_, _, _, tried⟩
  · simp only [acquire, tried] at answer ⊢
    exact answer
  · simp only [acquire, tried] at answer ⊢
    exact ⟨rfl, answer.refused, rfl⟩
  · simp only [acquire, tried] at answer ⊢
    exact answer

/-- A client joins the line only when it has to wait, and then at its end. -/
theorem line_acquire (s : Semaphore) (client : Client) :
    (s.acquire client).1.line =
      s.line ++ if (s.acquire client).2 = .notNow then [client] else [] := by
  rcases s.tryAcquire_cases with ⟨_, tried⟩ | ⟨_, _, tried⟩ | ⟨_, _, _, tried⟩
  · simp only [acquire, tried, reduceCtorEq, ↓reduceIte, List.append_nil]
  · simp only [acquire, tried, ↓reduceIte, line, List.append_assoc]
  · simp only [acquire, tried, reduceCtorEq, ↓reduceIte, line, List.append_nil]

theorem resume_answers (s : Semaphore) (client : Client) :
    s.Answers (s.resume client).1 (s.resume client).2 := by
  unfold resume
  split
  next closed =>
    refine ⟨s.closed_abandon client, by simp only [closed], ?_⟩
    simp only [supply_abandon, reduceCtorEq, ↓reduceIte, Nat.add_zero]
  next opened =>
    split
    next member =>
      refine ⟨rfl, by simp only [opened, reduceCtorEq, Bool.false_eq_true], ?_⟩
      have shorter := List.length_erase_of_mem member
      have positive := List.length_pos_of_mem member
      simp only [supply, shorter, ↓reduceIte]
      omega
    · exact ⟨rfl, by simp only [opened, reduceCtorEq, Bool.false_eq_true], rfl⟩

/-- A client that asks again leaves the line unless it has to wait on. -/
theorem line_resume (s : Semaphore) (client : Client) :
    (s.resume client).1.line =
      if (s.resume client).2 = .notNow then s.line else s.line.erase client := by
  unfold resume
  split
  · simp only [reduceCtorEq, ↓reduceIte, line_abandon]
  · split
    next member =>
      simp only [reduceCtorEq, ↓reduceIte]
      exact (List.erase_append_left _ member).symm
    · simp only [↓reduceIte]

end Semaphore

namespace SendFault

/-- The jobs that an answer to a sender says are buffered. -/
def buffered {α : Type} (job : α) : Option (Except SendFault Unit) → List α
  | some (.ok ()) => [job]
  | _ => []

end SendFault

namespace TryRecv

variable {α : Type}

def jobs : TryRecv α → List α
  | received job => [job]
  | empty | closed => []

end TryRecv

namespace JobQueue

open SendFault

variable {α : Type}

/-- **The books of a queue.**  The semaphores are closed together and, while they are open, count
what they stand for. -/
structure Balanced (q : JobQueue α) : Prop where
  together : q.available.closed = q.slots.closed
  jobs : q.isClosed = false → q.available.supply = q.size
  slots : q.isClosed = false → q.slots.supply + q.size = q.capacity
  bound : q.size ≤ q.capacity

theorem balanced_make (name : String) (capacity : Nat) :
    (make name capacity : JobQueue α).Balanced :=
  ⟨rfl, fun _ => rfl, fun _ => rfl, Nat.zero_le _⟩

/-! ## Senders -/

theorem items_finishSend (q : JobQueue α) (job : α) (permit : Permit) :
    (q.finishSend job permit).1.items = q.items ++ buffered job (q.finishSend job permit).2 := by
  cases permit with
  | taken => rfl
  | notNow => exact (List.append_nil _).symm
  | refused => exact (List.append_nil _).symm

/-- The first try of a sender puts its job at the end exactly if it answers so. -/
theorem items_startSend (q : JobQueue α) (client : Client) (job : α) :
    (q.startSend client job).1.items = q.items ++ buffered job (q.startSend client job).2 := by
  unfold startSend
  split
  · exact (List.append_nil _).symm
  · exact items_finishSend _ job _

theorem items_resumeSend (q : JobQueue α) (client : Client) (job : α) :
    (q.resumeSend client job).1.items = q.items ++ buffered job (q.resumeSend client job).2 :=
  items_finishSend _ job _

/-- What a sender does leaves the rest of the queue as it is. -/
structure Keeps (before after : JobQueue α) : Prop where
  name : after.name = before.name
  capacity : after.capacity = before.capacity
  closed : after.isClosed = before.isClosed
  balanced : before.Balanced → after.Balanced

theorem Keeps.refl (q : JobQueue α) : q.Keeps q :=
  ⟨rfl, rfl, rfl, id⟩

theorem finishSend_keeps (q : JobQueue α) (job : α) {slots : Semaphore} {permit : Permit}
    (answer : q.slots.Answers slots permit) :
    q.Keeps (finishSend { q with slots } job permit).1 := by
  cases permit with
  | taken =>
      have opened : q.slots.closed = false :=
        Bool.eq_false_iff.mpr fun closed => nomatch answer.refused.mpr closed
      have taken := answer.supply
      refine ⟨rfl, rfl, answer.closed, fun balanced => ?_⟩
      have jobs := balanced.jobs opened
      have free := balanced.slots opened
      simp only [↓reduceIte] at taken
      have longer : ((finishSend { q with slots } job .taken).1).size = q.size + 1 :=
        List.length_append
      refine ⟨?_, fun _ => ?_, fun _ => ?_, ?_⟩
      · exact (Semaphore.closed_release _).trans (balanced.together.trans answer.closed.symm)
      · rw [longer]
        exact (Semaphore.supply_release _).trans (congrArg (· + 1) jobs)
      · change slots.supply + _ = q.capacity
        omega
      · change _ ≤ q.capacity
        omega
  | notNow =>
      have same : q.slots.supply = slots.supply := answer.supply
      refine ⟨rfl, rfl, answer.closed, fun balanced => ?_⟩
      refine ⟨balanced.together.trans answer.closed.symm, fun opened => ?_, fun opened => ?_,
        balanced.bound⟩
      · exact balanced.jobs (answer.closed.symm.trans opened)
      · have free := balanced.slots (answer.closed.symm.trans opened)
        rw [same] at free
        exact free
  | refused =>
      have closed : q.slots.closed = true := answer.refused.mp rfl
      refine ⟨rfl, rfl, answer.closed, fun balanced => ?_⟩
      have shut : slots.closed ≠ false := by
        rw [answer.closed, closed]
        exact Bool.noConfusion
      exact ⟨balanced.together.trans answer.closed.symm, fun opened => (shut opened).elim,
        fun opened => (shut opened).elim, balanced.bound⟩

theorem startSend_keeps (q : JobQueue α) (client : Client) (job : α) :
    q.Keeps (q.startSend client job).1 := by
  unfold startSend
  split
  · exact Keeps.refl q
  · exact q.finishSend_keeps job (q.slots.acquire_answers client)

theorem resumeSend_keeps (q : JobQueue α) (client : Client) (job : α) :
    q.Keeps (q.resumeSend client job).1 :=
  q.finishSend_keeps job (q.slots.resume_answers client)

theorem abandonSend_keeps (q : JobQueue α) (client : Client) : q.Keeps (q.abandonSend client) := by
  refine ⟨rfl, rfl, q.slots.closed_abandon client, fun balanced => ?_⟩
  have closed : (q.abandonSend client).isClosed = q.isClosed := q.slots.closed_abandon client
  refine ⟨balanced.together.trans closed.symm, fun opened => ?_, fun opened => ?_, balanced.bound⟩
  · exact balanced.jobs (closed.symm.trans opened)
  · have free := balanced.slots (closed.symm.trans opened)
    rw [← q.slots.supply_abandon client] at free
    exact free

/-- **What a sender can be told.**  An open queue takes the job or lets the sender wait; a closed
one takes nothing, not even from a sender that has a slot. -/
inductive Told (q : JobQueue α) (job : α) :
    JobQueue α → Option (Except SendFault Unit) → Prop where
  | sent {after : JobQueue α} (opened : q.isClosed = false) (keeps : q.Keeps after)
      (items : after.items = q.items ++ [job]) : Told q job after (some (.ok ()))
  | refused {after : JobQueue α} (closed : q.isClosed = true) (keeps : q.Keeps after)
      (items : after.items = q.items) : Told q job after (some (.error .closed))
  | waits {after : JobQueue α} (opened : q.isClosed = false) (keeps : q.Keeps after)
      (items : after.items = q.items) : Told q job after none

theorem finishSend_told (q : JobQueue α) (job : α) {slots : Semaphore} {permit : Permit}
    (answer : q.slots.Answers slots permit) :
    q.Told job (finishSend { q with slots } job permit).1
      (finishSend { q with slots } job permit).2 := by
  have keeps := q.finishSend_keeps job answer
  have opened (other : permit ≠ .refused) : q.isClosed = false :=
    Bool.eq_false_iff.mpr fun closed => other (answer.refused.mpr closed)
  cases permit with
  | taken => exact .sent (opened Permit.noConfusion) keeps rfl
  | notNow => exact .waits (opened Permit.noConfusion) keeps rfl
  | refused => exact .refused (answer.refused.mp rfl) keeps rfl

theorem startSend_told (q : JobQueue α) (client : Client) (job : α) :
    q.Told job (q.startSend client job).1 (q.startSend client job).2 := by
  unfold startSend
  split
  next closed => exact .refused closed (.refl q) rfl
  · exact q.finishSend_told job (q.slots.acquire_answers client)

theorem resumeSend_told (q : JobQueue α) (client : Client) (job : α) :
    q.Told job (q.resumeSend client job).1 (q.resumeSend client job).2 :=
  q.finishSend_told job (q.slots.resume_answers client)

theorem Told.buffered_of_isClosed {q after : JobQueue α} {job : α}
    {answer : Option (Except SendFault Unit)} (told : q.Told job after answer)
    (closed : q.isClosed = true) : buffered job answer = [] := by
  cases told with
  | sent opened => exact Bool.noConfusion (opened.symm.trans closed)
  | refused | waits => rfl

/-! ## Receivers -/

/-- A receiver takes the job at the head, or nothing. -/
theorem items_tryRecv (q : JobQueue α) :
    q.items = q.tryRecv.2.jobs ++ q.tryRecv.1.items := by
  rcases q.available.tryAcquire_cases with ⟨_, tried⟩ | ⟨_, _, tried⟩ | ⟨_, _, _, tried⟩ <;>
    cases some : q.items <;> simp only [tryRecv, tried, pop, some] <;> rfl

/-- Taking the job at the head for a permit frees its slot. -/
theorem Balanced.taken {q : JobQueue α} (balanced : q.Balanced) {job : α} {rest : List α}
    (items : q.items = job :: rest) {available : Semaphore}
    (closed : available.closed = q.available.closed)
    (supply : q.isClosed = false → available.supply + 1 = q.available.supply) :
    q.Keeps { q with items := rest, slots := q.slots.release, available } := by
  have size : q.size = rest.length + 1 := congrArg List.length items
  have still : ({ q with items := rest, slots := q.slots.release, available } :
      JobQueue α).isClosed = q.isClosed := Semaphore.closed_release _
  refine ⟨rfl, rfl, still, fun _ => ⟨?_, fun opened => ?_, fun opened => ?_, ?_⟩⟩
  · exact (closed.trans balanced.together).trans (Semaphore.closed_release _).symm
  · have jobs := balanced.jobs (still.symm.trans opened)
    have less := supply (still.symm.trans opened)
    change available.supply = rest.length
    omega
  · have free := balanced.slots (still.symm.trans opened)
    change q.slots.release.supply + rest.length = q.capacity
    rw [Semaphore.supply_release]
    omega
  · have bound := balanced.bound
    change rest.length ≤ q.capacity
    omega

/-- **A receiver's answer on a queue with balanced books.**  It takes the job at the head and frees
its slot, or leaves the queue as it is; it says that there is no more only of an exhausted queue. -/
theorem Balanced.tryRecv_cases {q : JobQueue α} (balanced : q.Balanced) :
    (∃ job after, q.tryRecv = (after, .received job) ∧ q.items = job :: after.items ∧
      q.Keeps after) ∨
    (q.tryRecv = (q, .empty) ∧ q.isClosed = false) ∨
    (q.tryRecv = (q, .closed) ∧ q.isExhausted = true) := by
  have together := balanced.together
  rcases q.available.tryAcquire_cases with ⟨closed, tried⟩ | ⟨opened, _, tried⟩ |
    ⟨permits, opened, some, tried⟩
  · have shut : q.isClosed = true := together.symm.trans closed
    cases items : q.items with
    | nil =>
        refine Or.inr (Or.inr ⟨?_, ?_⟩)
        · simp only [tryRecv, tried, pop, items]
        · simp only [isExhausted, shut, items, List.isEmpty_nil, Bool.and_self]
    | cons job rest =>
        refine Or.inl ⟨job, { q with items := rest, slots := q.slots.release }, ?_, rfl, ?_⟩
        · simp only [tryRecv, tried, pop, items]
        · exact balanced.taken items rfl fun opened => Bool.noConfusion (shut.symm.trans opened)
  · refine Or.inr (Or.inl ⟨?_, together.symm.trans opened⟩)
    simp only [tryRecv, tried]
  · cases items : q.items with
    | nil =>
        -- A free permit counts a buffered job, so this cannot be.
        have jobs := balanced.jobs (together.symm.trans opened)
        simp only [Semaphore.supply, some, size, items, List.length_nil] at jobs
        omega
    | cons job rest =>
        refine Or.inl ⟨job, { q with
          items := rest, slots := q.slots.release, available := { q.available with permits } },
          ?_, rfl, ?_⟩
        · simp only [tryRecv, tried, pop, items]
        · refine balanced.taken items rfl fun _ => ?_
          simp only [Semaphore.supply, some]
          omega

/-- The same queue, except for who waits for jobs. -/
structure SameJobs (before after : JobQueue α) : Prop where
  name : after.name = before.name
  capacity : after.capacity = before.capacity
  items : after.items = before.items
  slots : after.slots = before.slots
  closed : after.available.closed = before.available.closed
  supply : after.available.supply = before.available.supply

theorem SameJobs.refl (q : JobQueue α) : q.SameJobs q :=
  ⟨rfl, rfl, rfl, rfl, rfl, rfl⟩

theorem SameJobs.trans {first middle last : JobQueue α} (one : first.SameJobs middle)
    (two : middle.SameJobs last) : first.SameJobs last :=
  ⟨two.name.trans one.name, two.capacity.trans one.capacity, two.items.trans one.items,
    two.slots.trans one.slots, two.closed.trans one.closed, two.supply.trans one.supply⟩

theorem SameJobs.isClosed {before after : JobQueue α} (same : before.SameJobs after) :
    after.isClosed = before.isClosed :=
  congrArg Semaphore.closed same.slots

theorem SameJobs.isExhausted {before after : JobQueue α} (same : before.SameJobs after) :
    after.isExhausted = before.isExhausted := by
  unfold JobQueue.isExhausted
  rw [same.isClosed, same.items]

theorem SameJobs.keeps {before after : JobQueue α} (same : before.SameJobs after) :
    before.Keeps after := by
  refine ⟨same.name, same.capacity, same.isClosed, fun balanced => ?_⟩
  have size : after.size = before.size := congrArg List.length same.items
  refine ⟨?_, fun opened => ?_, fun opened => ?_, ?_⟩
  · rw [same.closed, same.slots]
    exact balanced.together
  · rw [same.supply, size]
    exact balanced.jobs (same.isClosed.symm.trans opened)
  · rw [same.slots, size, same.capacity]
    exact balanced.slots (same.isClosed.symm.trans opened)
  · rw [size, same.capacity]
    exact balanced.bound

/-- A permit that is taken to look and given back at once leaves the books as they are. -/
theorem sameJobs_of_answers (q : JobQueue α) {available : Semaphore} {permit : Permit}
    (answer : q.available.Answers available permit) :
    q.SameJobs { q with
      available := if permit = .taken then available.release else available } := by
  have given := answer.supply
  refine ⟨rfl, rfl, rfl, rfl, ?_, ?_⟩
  · split
    · exact (Semaphore.closed_release _).trans answer.closed
    · exact answer.closed
  · split
    next taken =>
      simp only [taken, ↓reduceIte] at given
      exact (Semaphore.supply_release _).trans given.symm
    next other =>
      simp only [other, ↓reduceIte, Nat.add_zero] at given
      exact given.symm

theorem startReady_sameJobs (q : JobQueue α) (client : Client) :
    q.SameJobs (q.startReady client).1 := by
  have answer := q.available.acquire_answers client
  unfold startReady
  generalize q.available.acquire client = told at answer ⊢
  obtain ⟨available, permit⟩ := told
  have same := q.sameJobs_of_answers answer
  cases permit <;> exact same

theorem resumeReady_sameJobs (q : JobQueue α) (client : Client) :
    q.SameJobs (q.resumeReady client).1 := by
  have answer := q.available.resume_answers client
  unfold resumeReady
  generalize q.available.resume client = told at answer ⊢
  obtain ⟨available, permit⟩ := told
  have same := q.sameJobs_of_answers answer
  cases permit <;> exact same

theorem abandonReady_sameJobs (q : JobQueue α) (client : Client) :
    q.SameJobs (q.abandonReady client) :=
  ⟨rfl, rfl, rfl, rfl, q.available.closed_abandon client, q.available.supply_abandon client⟩

/-! ## Closing -/

theorem Balanced.close {q : JobQueue α} (balanced : q.Balanced) : q.close.Balanced :=
  ⟨rfl, (nomatch ·), (nomatch ·), balanced.bound⟩

end JobQueue

end RepoCollector
