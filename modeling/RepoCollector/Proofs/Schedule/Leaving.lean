import RepoCollector.Proofs.Schedule.Streak

/-! # Leaving a line

A client that leaves the line at a queue takes nothing with it
(`RepoCollector.Semaphore.abandon_leaves`): a permit that it was granted goes to the next in line,
and is free again if nobody is.  Where nobody else waits, no trace is left of the client.  The next
receiver and the next look at the lanes find what the jobs alone say
(`RepoCollector.JobQueue.Balanced.tryRecv_eq_offers`, `RepoCollector.Lanes.dispatch_eq_offers`).

Leaving commutes with what others do in the meantime, as long as these are senders or the queue is
closed.  So a client that lines up, waits and leaves could as well have left at once, or not have
come.
-/

namespace RepoCollector

namespace Semaphore

variable {s : Semaphore} {client : Client}

/-- What becomes of the place of a client that leaves, and of the permit that it was granted. -/
inductive Leaves (client : Client) (before : Semaphore) : Semaphore → Prop where
  /-- It had been granted nothing. -/
  | waited (idle : client ∉ before.granted) :
      Leaves client before { before with waiting := before.waiting.erase client }
  /-- Its permit is free again. -/
  | returned (holds : client ∈ before.granted)
      (nobody : before.closed = true ∨ before.waiting = []) :
      Leaves client before { before with
        granted := before.granted.erase client, permits := before.permits + 1 }
  /-- Its permit is granted to the next in line. -/
  | passed {next : Client} {waiting : List Client} (holds : client ∈ before.granted)
      (opened : before.closed = false) (line : before.waiting = next :: waiting) :
      Leaves client before { before with
        granted := before.granted.erase client ++ [next], waiting }

theorem abandon_leaves (s : Semaphore) (client : Client) : Leaves client s (s.abandon client) := by
  unfold abandon
  split
  next holds =>
    unfold release
    split
    next closed => exact .returned holds (Or.inl closed)
    next opened =>
      split
      next nobody => exact .returned holds (Or.inr nobody)
      next next waiting line => exact .passed holds (Bool.eq_false_iff.mpr opened) line
  next idle => exact .waited idle

theorem abandon_of_not_mem (absent : client ∉ s.line) : s.abandon client = s := by
  obtain ⟨idle, away⟩ := not_or.mp (fun present => absent (List.mem_append.mpr present))
  rw [abandon, if_neg idle, List.erase_of_not_mem away]

/-- A client that lines up and leaves at once. -/
theorem abandon_acquire (absent : client ∉ s.line) (told : (s.acquire client).2 = .notNow) :
    (s.acquire client).1.abandon client = s := by
  obtain ⟨idle, away⟩ := not_or.mp (fun present => absent (List.mem_append.mpr present))
  rcases s.tryAcquire_cases with ⟨_, tried⟩ | ⟨_, _, tried⟩ | ⟨_, _, _, tried⟩
  · simp only [acquire, tried, reduceCtorEq] at told
  · simp only [acquire, tried]
    rw [abandon, if_neg idle, List.erase_append_right _ away, List.erase_cons_head, List.append_nil]
  · simp only [acquire, tried, reduceCtorEq] at told

/-- A free permit that is taken to look and given back. -/
theorem release_of_taken {permits : Nat} (some : s.permits = permits + 1)
    (opened : s.closed = false) (nobody : s.waiting = []) :
    ({ s with permits } : Semaphore).release = s := by
  obtain ⟨_, _, granted, _⟩ := s
  subst some opened nobody
  rfl

/-- It is all the same whether a client leaves before or after a permit is given back. -/
theorem abandon_release (s : Semaphore) (client : Client) :
    s.release.abandon client = (s.abandon client).release := by
  obtain ⟨permits, waiting, granted, closed⟩ := s
  by_cases holds : client ∈ granted
  · cases closed with
    | true => simp only [abandon, release, holds, ↓reduceIte]
    | false =>
        cases waiting with
        | nil => simp [abandon, release, holds]
        | cons first waiting =>
            cases waiting <;>
              simp [abandon, release, holds, List.erase_append_left]
  · cases closed with
    | true => simp only [abandon, release, holds, ↓reduceIte]
    | false =>
        cases waiting with
        | nil => simp [abandon, release, holds]
        | cons first waiting =>
            by_cases next : first = client
            · subst next
              cases waiting <;> simp [abandon, release, holds, List.erase_append_right]
            · have still : client ∉ granted ++ [first] := by
                simp [holds, Ne.symm next]
              simp [abandon, release, holds, still, List.erase_cons_tail, next]

/-- A client in whose place nobody else waits leaves as well after the close as before it. -/
theorem abandon_close (alone : s.line.erase client = []) :
    s.close.abandon client = (s.abandon client).close := by
  obtain ⟨permits, waiting, granted, closed⟩ := s
  by_cases holds : client ∈ granted
  · rw [line, List.erase_append_left _ holds] at alone
    obtain rfl : waiting = [] := (List.append_eq_nil_iff.mp alone).2
    cases closed <;> simp only [abandon, close, release, holds, Bool.false_eq_true, ↓reduceIte]
  · simp only [abandon, close, holds, ↓reduceIte]

end Semaphore

namespace JobQueue

variable {α : Type} {q : JobQueue α} {client : Client}

theorem abandonReady_of_not_mem (absent : client ∉ q.watchers) : q.abandonReady client = q := by
  rw [abandonReady, Semaphore.abandon_of_not_mem absent]

private theorem finishSend_abandonReady (q : JobQueue α) (client : Client) (job : α)
    (permit : Permit) : (q.abandonReady client).finishSend job permit =
      ((q.finishSend job permit).1.abandonReady client, (q.finishSend job permit).2) := by
  cases permit with
  | taken =>
      simp only [finishSend, push, abandonReady, Semaphore.abandon_release]
  | notNow | refused => rfl

/-- A sender does the same whether or not a receiver has left. -/
theorem startSend_abandonReady (q : JobQueue α) (client sender : Client) (job : α) :
    (q.abandonReady client).startSend sender job =
      ((q.startSend sender job).1.abandonReady client, (q.startSend sender job).2) := by
  have same : (q.abandonReady client).isClosed = q.isClosed := rfl
  by_cases shut : q.isClosed = true
  · rw [startSend, startSend, if_pos shut, if_pos (same.trans shut)]
  · rw [startSend, startSend, if_neg shut, if_neg (same ▸ shut)]
    exact finishSend_abandonReady { q with slots := (q.slots.acquire sender).1 } client job _

theorem resumeSend_abandonReady (q : JobQueue α) (client sender : Client) (job : α) :
    (q.abandonReady client).resumeSend sender job =
      ((q.resumeSend sender job).1.abandonReady client, (q.resumeSend sender job).2) :=
  finishSend_abandonReady { q with slots := (q.slots.resume sender).1 } client job _

theorem close_abandonReady (alone : q.watchers.erase client = []) :
    (q.abandonReady client).close = q.close.abandonReady client := by
  simp only [close, abandonReady, Semaphore.abandon_close alone]

/-- A client that is called looks and leaves. -/
theorem resumeReady_of_found (found : (q.resumeReady client).2 = true) :
    (q.resumeReady client).1 = q.abandonReady client := by
  by_cases closed : q.available.closed = true
  · simp only [resumeReady, Semaphore.resume, closed, ↓reduceIte, abandonReady]
  · by_cases holds : client ∈ q.available.granted
    · simp only [resumeReady, Semaphore.resume, closed, holds, ↓reduceIte, abandonReady,
        Semaphore.abandon, Bool.false_eq_true]
    · simp only [resumeReady, Semaphore.resume, closed, holds, ↓reduceIte,
        Bool.false_eq_true] at found

/-- **What the first look of a client finds where nobody waits.**  It finds something and leaves no
trace, or it lines up, alone, at an open queue that has nothing to give. -/
theorem startReady_cases (alone : q.watchers = []) (client : Client) :
    q.startReady client = (q, true) ∧
      (q.available.closed = true ∨ 0 < q.available.permits) ∨
    (∃ after, q.startReady client = (after, false) ∧ after.abandonReady client = q ∧
      after = { q with available := { q.available with waiting := [client] } } ∧
      q.available.closed = false ∧ q.available.permits = 0) := by
  obtain ⟨idle, nobody⟩ := List.append_eq_nil_iff.mp alone
  rcases q.available.tryAcquire_cases with ⟨closed, tried⟩ | ⟨opened, none, tried⟩ |
    ⟨permits, opened, some, tried⟩
  · refine Or.inl ⟨?_, Or.inl closed⟩
    simp only [startReady, Semaphore.acquire, tried]
  · have told : (q.available.acquire client).2 = .notNow := by
      simp only [Semaphore.acquire, tried]
    have absent : client ∉ q.available.line := by
      rw [show q.available.line = [] from alone]
      exact List.not_mem_nil
    have left := Semaphore.abandon_acquire absent told
    simp only [Semaphore.acquire, tried, nobody, List.nil_append] at left
    refine Or.inr ⟨_, ?_, congrArg (fun available => { q with available }) left, rfl, opened, none⟩
    simp only [startReady, Semaphore.acquire, tried, nobody, List.nil_append]
  · refine Or.inl ⟨?_, Or.inr (some ▸ Nat.succ_pos permits)⟩
    simp only [startReady, Semaphore.acquire, tried, Semaphore.release_of_taken some opened nobody]

/-! ## What there is to find -/

/-- What a receiver that does not wait has to be told. -/
def offers (q : JobQueue α) : TryRecv α :=
  match q.items with
  | job :: _ => .received job
  | [] => if q.isClosed then .closed else .empty

theorem Balanced.tryRecv_eq_offers (balanced : q.Balanced) (alone : q.watchers = []) :
    q.tryRecv.2 = q.offers := by
  unfold offers
  rcases balanced.tryRecv_cases with ⟨job, after, tried, items, _⟩ | ⟨tried, opened⟩ |
    ⟨tried, exhausted⟩
  · rw [tried, items]
  · rw [tried, balanced.items_of_empty alone tried, opened]
    rfl
  · rw [isExhausted, Bool.and_eq_true, List.isEmpty_iff] at exhausted
    rw [tried, exhausted.1, exhausted.2]
    rfl

end JobQueue

namespace Lanes

variable {lanes : Lanes} {client : Client}

/-- What a look at the lanes has to find: the head of the first lane, in the order in which they are
asked, that holds a job. -/
def offers (lanes : Lanes) : Dispatch :=
  match lanes.order.findSome? fun kind =>
      (lanes.queue kind).items.head?.map (·.withWork kind) with
  | some job => .job job
  | none => if lanes.reads.kinds.all fun kind => (lanes.queue kind).isExhausted then .exhausted
      else .empty

private theorem dispatchFrom_eq (drained : Bool) (kinds : List JobKind) (balanced : lanes.Balanced)
    (unattended : lanes.Unattended) : (dispatchFrom drained kinds lanes).2 =
      match kinds.findSome? fun kind =>
          (lanes.queue kind).items.head?.map (·.withWork kind) with
      | some job => .job job
      | none =>
        if drained && kinds.all fun kind => (lanes.queue kind).isExhausted then .exhausted
        else .empty := by
  induction kinds generalizing drained with
  | nil => cases drained <;> rfl
  | cons kind kinds ih =>
      rcases (balanced kind).tryRecv_cases with ⟨job, after, tried, items, _⟩ | ⟨tried, opened⟩ |
        ⟨tried, exhausted⟩
      · simp only [dispatchFrom, tried, List.findSome?_cons, items, List.head?_cons,
          Option.map_some]
      · have none := (balanced kind).items_of_empty (unattended kind) tried
        simp only [dispatchFrom, tried, setQueue_queue, ih, List.findSome?_cons, none,
          List.head?_nil, Option.map_none, List.all_cons, JobQueue.isExhausted, opened,
          Bool.false_and, Bool.and_false]
      · have none : (lanes.queue kind).items = [] := by
          rw [JobQueue.isExhausted, Bool.and_eq_true, List.isEmpty_iff] at exhausted
          exact exhausted.2
        simp only [dispatchFrom, tried, setQueue_queue, ih, List.findSome?_cons, none,
          List.head?_nil, Option.map_none, List.all_cons, exhausted, Bool.true_and]

/-- **Where nobody waits, a look at the lanes finds what there is.** -/
theorem dispatch_eq_offers (balanced : lanes.Balanced) (unattended : lanes.Unattended) :
    lanes.dispatch.2 = lanes.offers := by
  have every : (lanes.order.all fun kind => (lanes.queue kind).isExhausted) =
      lanes.reads.kinds.all fun kind => (lanes.queue kind).isExhausted := by
    unfold order
    split
    · exact List.all_reverse
    · rfl
  rw [dispatch, dispatchFrom_eq true _ balanced unattended, Bool.true_and, every]
  rfl

/-! ## Lanes without a client -/

/-- The lanes when a client has left every line. -/
def without (client : Client) (lanes : Lanes) : Lanes :=
  { lanes with
    download := lanes.download.abandonReady client
    update := lanes.update.abandonReady client }

@[simp]
theorem queue_without (client : Client) (lanes : Lanes) (lane : JobKind) :
    (lanes.without client).queue lane = (lanes.queue lane).abandonReady client := by
  cases lane <;> rfl

theorem without_sameJobs (client : Client) (lanes : Lanes) :
    lanes.SameJobs (lanes.without client) := by
  refine ⟨rfl, fun lane => ?_⟩
  rw [queue_without]
  exact (lanes.queue lane).abandonReady_sameJobs client

/-- Who is in line makes no difference to what there is to find. -/
theorem offers_without (client : Client) (lanes : Lanes) :
    (lanes.without client).offers = lanes.offers := by
  simp only [offers, queue_without, JobQueue.items_abandonReady]
  rfl

theorem setQueue_without (client : Client) (lanes : Lanes) (lane : JobKind)
    (q : JobQueue LibraryJob) : (lanes.setQueue lane q).without client =
      (lanes.without client).setQueue lane (q.abandonReady client) := by
  cases lane <;> rfl

theorem without_of_not_mem (absent : ∀ lane, client ∉ (lanes.queue lane).watchers) :
    lanes.without client = lanes := by
  have download : lanes.download.abandonReady client = lanes.download :=
    JobQueue.abandonReady_of_not_mem (absent .download)
  have update : lanes.update.abandonReady client = lanes.update :=
    JobQueue.abandonReady_of_not_mem (absent .update)
  rw [without, download, update]

theorem Unattended.without_eq (unattended : lanes.Unattended) (client : Client) :
    lanes.without client = lanes :=
  without_of_not_mem fun lane => unattended lane ▸ List.not_mem_nil

/-- A client that stands in line at one lane only. -/
theorem setQueue_abandonReady {lane : JobKind}
    (elsewhere : ∀ other, other ≠ lane → client ∉ (lanes.queue other).watchers) :
    lanes.setQueue lane ((lanes.queue lane).abandonReady client) = lanes.without client := by
  cases lane with
  | download =>
      have same : lanes.update.abandonReady client = lanes.update :=
        JobQueue.abandonReady_of_not_mem (elsewhere .update JobKind.noConfusion)
      rw [without, same]
      rfl
  | update =>
      have same : lanes.download.abandonReady client = lanes.download :=
        JobQueue.abandonReady_of_not_mem (elsewhere .download JobKind.noConfusion)
      rw [without, same]
      rfl

/-- A client that has left is gone. -/
theorem without_without (once : ∀ lane, (lanes.queue lane).watchers.Nodup) :
    (lanes.without client).without client = lanes.without client := by
  refine without_of_not_mem fun lane member => ?_
  rw [queue_without, JobQueue.watchers_abandonReady, (once lane).mem_erase_iff] at member
  exact member.1 rfl

/-- A client that has lined up only where it reads leaves every line. -/
theorem unpark_eq_without
    (absent : ∀ lane, lane ∉ lanes.reads.kinds → client ∉ (lanes.queue lane).watchers) :
    lanes.unpark client = lanes.without client := by
  obtain ⟨reads, download, update, wait, maxStreak, streak⟩ := lanes
  cases reads with
  | combined => rfl
  | downloadOnly =>
      have left := JobQueue.abandonReady_of_not_mem (absent .update (by simp [LaneChoice.kinds]))
      change (Lanes.mk _ _ _ _ _ _) = Lanes.mk _ _ (update.abandonReady client) _ _ _
      rw [show update.abandonReady client = update from left]
      rfl
  | updateOnly =>
      have left := JobQueue.abandonReady_of_not_mem (absent .download (by simp [LaneChoice.kinds]))
      change (Lanes.mk _ _ _ _ _ _) = Lanes.mk _ (download.abandonReady client) _ _ _ _
      rw [show download.abandonReady client = download from left]
      rfl

theorem unpark_parkAt
    (absent : ∀ lane, lane ∉ lanes.reads.kinds → client ∉ (lanes.queue lane).watchers) :
    (lanes.parkAt client lanes.reads.kinds).1.unpark client =
      (lanes.parkAt client lanes.reads.kinds).1.without client := by
  refine unpark_eq_without fun lane unread => ?_
  rw [(lanes.parkAt_sameRule client lanes.reads.kinds).reads] at unread
  rw [queue_parkAt client unread]
  exact absent lane unread

/-- **A client that lines up where nobody waits, and leaves.** -/
theorem parkAt_without {kinds : List JobKind} (once : kinds.Nodup)
    (alone : ∀ lane ∈ kinds, (lanes.queue lane).watchers = []) :
    (lanes.parkAt client kinds).1.without client = lanes.without client := by
  induction kinds generalizing lanes with
  | nil => rfl
  | cons lane kinds ih =>
      obtain ⟨fresh, once⟩ := List.nodup_cons.mp once
      have later : ∀ other ∈ kinds, (lanes.queue other).watchers = [] :=
        fun other member => alone other (List.mem_cons_of_mem _ member)
      have first := alone lane List.mem_cons_self
      unfold parkAt
      split
      · exact ih once later
      · have left : ((lanes.queue lane).startReady client).1.abandonReady client =
            (lanes.queue lane).abandonReady client := by
          have here : (lanes.queue lane).abandonReady client = lanes.queue lane := by
            apply JobQueue.abandonReady_of_not_mem
            rw [first]
            exact List.not_mem_nil
          rcases JobQueue.startReady_cases first client with ⟨found, _⟩ | ⟨after, lined, left, _⟩
          · rw [found]
          · rw [lined, here]
            exact left
        refine (ih once fun other member => ?_).trans ?_
        · rw [queue_setQueue_of_ne lanes (ne_of_mem_of_not_mem member fresh)]
          exact later other member
        · rw [setQueue_without, left, ← queue_without, setQueue_queue]

end Lanes

end RepoCollector
