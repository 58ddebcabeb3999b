import RepoCollector.Proofs.Queue.Session

/-! # After the close

A close may come at any moment of a session: with jobs in the buffer, with senders and receivers in
line, and with slots and jobs on their way to some of them.  From then on every call has its answer
before it is made.  What is left in the buffer alone decides it (`RepoCollector.Ended.IsFinal`): a
sender is refused, and receivers take what is left, one job after the other, until nothing is.

Hence a closed queue accepts nothing more, hands out its buffer in order, and keeps nobody waiting
(`RepoCollector.Session.drains_after_close`).  Nothing is asked of the session that is closed; its
queue need not even be balanced.
-/

namespace RepoCollector

/-! ## The answers of a closed queue -/

/-- What a receiver that does not wait is told, by what is left in the buffer. -/
def TryRecv.onClosed {α : Type} : List α → TryRecv α
  | [] => .closed
  | job :: _ => .received job

/-- How a call ends, by what is left in the buffer. -/
def Call.replyOnClosed {α : Type} (left : List α) : Call α → Reply α
  | .send job _ => .notSent .closed job
  | .recv =>
    match left with
    | [] => .drained
    | job :: _ => .received job
  | .ready => .ready

/-- What was asked of a closed queue ended as it has to. -/
def Ended.IsFinal {α : Type} (left : List α) : Ended α → Prop
  | .call _ asked reply => reply = asked.replyOnClosed left
  | .tried answer => answer = .onClosed left

namespace Semaphore

variable {s : Semaphore}

theorem tryAcquire_of_closed (closed : s.closed = true) : s.tryAcquire = (s, .refused) := by
  simp only [tryAcquire, closed, ↓reduceIte]

theorem acquire_of_closed (closed : s.closed = true) (client : Client) :
    s.acquire client = (s, .refused) := by
  simp only [acquire, tryAcquire_of_closed closed]

/-- A client that asks again is refused, even if a permit was granted to it. -/
theorem resume_of_closed (closed : s.closed = true) (client : Client) :
    s.resume client = (s.abandon client, .refused) := by
  simp only [resume, closed, ↓reduceIte]

end Semaphore

namespace JobQueue

variable {α : Type} {q : JobQueue α}

/-- The queue was closed: neither senders nor receivers are granted anything. -/
structure IsShut (q : JobQueue α) : Prop where
  slots : q.slots.closed = true
  available : q.available.closed = true

theorem isShut_close (q : JobQueue α) : q.close.IsShut := ⟨rfl, rfl⟩

theorem IsShut.close_eq (shut : q.IsShut) : q.close = q := by
  obtain ⟨name, capacity, items, ⟨_, _, _, _⟩, ⟨_, _, _, _⟩⟩ := q
  obtain ⟨rfl, rfl⟩ := shut
  rfl

theorem IsShut.isExhausted_iff (shut : q.IsShut) : q.isExhausted = true ↔ q.items = [] := by
  simp only [isExhausted, isClosed, shut.slots, Bool.true_and, List.isEmpty_iff]

theorem IsShut.abandonSend (shut : q.IsShut) (client : Client) : (q.abandonSend client).IsShut :=
  ⟨(q.slots.closed_abandon client).trans shut.slots, shut.available⟩

theorem IsShut.abandonReady (shut : q.IsShut) (client : Client) : (q.abandonReady client).IsShut :=
  ⟨shut.slots, (q.available.closed_abandon client).trans shut.available⟩

theorem IsShut.startSend_eq (shut : q.IsShut) (client : Client) (job : α) :
    q.startSend client job = (q, some (.error .closed)) := by
  simp only [startSend, isClosed, shut.slots, ↓reduceIte]

theorem IsShut.resumeSend_eq (shut : q.IsShut) (client : Client) (job : α) :
    q.resumeSend client job = (q.abandonSend client, some (.error .closed)) := by
  simp only [resumeSend, Semaphore.resume_of_closed shut.slots]
  rfl

theorem IsShut.startReady_eq (shut : q.IsShut) (client : Client) :
    q.startReady client = (q, true) := by
  simp only [startReady, Semaphore.acquire_of_closed shut.available]

theorem IsShut.resumeReady_eq (shut : q.IsShut) (client : Client) :
    q.resumeReady client = (q.abandonReady client, true) := by
  simp only [resumeReady, Semaphore.resume_of_closed shut.available]
  rfl

/-- What is buffered is received without a permit. -/
theorem IsShut.tryRecv_cases (shut : q.IsShut) :
    (q.items = [] ∧ q.tryRecv = (q, .closed)) ∨
    ∃ job after, q.items = job :: after.items ∧ q.tryRecv = (after, .received job) ∧
      after.IsShut := by
  simp only [tryRecv, Semaphore.tryAcquire_of_closed shut.available]
  cases items : q.items with
  | nil =>
      refine Or.inl ⟨rfl, ?_⟩
      simp only [pop, items]
  | cons job rest =>
      refine Or.inr ⟨job, { q with items := rest, slots := q.slots.release }, rfl, ?_, ?_⟩
      · simp only [pop, items]
      · exact ⟨q.slots.closed_release.trans shut.slots, shut.available⟩

theorem IsShut.tryRecv (shut : q.IsShut) :
    q.tryRecv.1.IsShut ∧ q.tryRecv.2 = .onClosed q.items := by
  rcases shut.tryRecv_cases with ⟨items, tried⟩ | ⟨job, after, items, tried, still⟩
  · rw [tried, items]
    exact ⟨shut, rfl⟩
  · rw [tried, items]
    exact ⟨still, rfl⟩

end JobQueue

namespace OpenCall

variable {α : Type} {now : Instant} {client : Client} {q : JobQueue α}

/-- A step of a call on a closed queue ends it.  Only a receiver that had lined up takes one more
step. -/
inductive Settles (client : Client) (pending : OpenCall α) (q : JobQueue α) :
    JobQueue α → OpenCall α ⊕ Reply α → Prop where
  | ends {after : JobQueue α} (shut : after.IsShut)
      (items : (Ended.call client pending.call (pending.call.replyOnClosed q.items)).received ++
        after.items = q.items) :
      Settles client pending q after (.inr (pending.call.replyOnClosed q.items))
  | wakes (lined : pending = ⟨.recv, true⟩) :
      Settles client pending q (q.abandonReady client) (.inl ⟨.recv, false⟩)

/-- **A closed queue keeps nobody waiting.** -/
theorem step_of_shut (shut : q.IsShut) (now : Instant) (client : Client) (pending : OpenCall α) :
    ∃ after outcome, pending.step now client q = some (after, outcome) ∧
      Settles client pending q after outcome := by
  obtain ⟨call, parked⟩ := pending
  cases call with
  | send job deadline =>
      cases parked with
      | false =>
          refine ⟨q, _, ?_, .ends shut rfl⟩
          simp only [step, shut.startSend_eq]
          rfl
      | true =>
          refine ⟨_, _, ?_, .ends (shut.abandonSend client) rfl⟩
          simp only [step, shut.resumeSend_eq]
          rfl
  | recv =>
      cases parked with
      | false =>
          rcases shut.tryRecv_cases with ⟨items, tried⟩ | ⟨job, after, items, tried, still⟩
          · refine ⟨q, _, ?_, .ends shut ?_⟩
            · simp only [step, tried, Call.replyOnClosed, items]
            · simp only [Call.replyOnClosed, items, Ended.received, List.nil_append]
          · refine ⟨after, _, ?_, .ends still ?_⟩
            · simp only [step, tried, Call.replyOnClosed, items]
            · simp only [Call.replyOnClosed, items, Ended.received, List.singleton_append]
      | true =>
          refine ⟨_, _, ?_, .wakes rfl⟩
          simp only [step, shut.resumeReady_eq]
  | ready =>
      cases parked with
      | false =>
          refine ⟨q, _, ?_, .ends shut rfl⟩
          simp only [step, shut.startReady_eq]
          rfl
      | true =>
          refine ⟨_, _, ?_, .ends (shut.abandonReady client) rfl⟩
          simp only [step, shut.resumeReady_eq]
          rfl

theorem isShut_abandon (shut : q.IsShut) (client : Client) (pending : OpenCall α) :
    (pending.abandon client q).IsShut := by
  unfold abandon
  split
  · split
    · exact shut.abandonSend client
    · exact shut.abandonReady client
    · exact shut.abandonReady client
  · exact shut

end OpenCall

/-! ## Sessions with a closed queue -/

namespace Session

variable {α : Type}

/-- What came of a session after it was closed with jobs in the buffer: what ended since then, in
order, and what is left. -/
structure Drains (buffered : List α) (earlier later : List (Ended α)) (t : Session α) : Prop where
  shut : t.queue.IsShut
  ended : t.ended = earlier ++ later
  order : later.flatMap Ended.received ++ t.queue.items = buffered
  final : ∀ front last back, later = front ++ last :: back →
    ∃ left, front.flatMap Ended.received ++ left = buffered ∧ last.IsFinal left

variable {buffered : List α} {earlier later : List (Ended α)} {s t u : Session α}

theorem drains_close (s : Session α) (calls : Client → Option (OpenCall α)) :
    Drains s.queue.items s.ended [] { s with queue := s.queue.close, calls } :=
  ⟨s.queue.isShut_close, (List.append_nil _).symm, rfl, fun _ _ _ split =>
    absurd split.symm (List.append_ne_nil_of_right_ne_nil _ (List.cons_ne_nil _ _))⟩

/-- A move that ends nothing. -/
private theorem Drains.goes_on (drains : t.Drains buffered earlier later) (shut : u.queue.IsShut)
    (items : u.queue.items = t.queue.items) (ended : u.ended = t.ended) :
    u.Drains buffered earlier later :=
  ⟨shut, ended.trans drains.ended, items ▸ drains.order, drains.final⟩

/-- A move with which something ends, as it has to. -/
private theorem Drains.concat (drains : t.Drains buffered earlier later) {last : Ended α}
    (shut : u.queue.IsShut) (items : last.received ++ u.queue.items = t.queue.items)
    (ended : u.ended = t.ended ++ [last]) (final : last.IsFinal t.queue.items) :
    u.Drains buffered earlier (later ++ [last]) := by
  refine ⟨shut, ?_, ?_, ?_⟩
  · rw [ended, drains.ended, List.append_assoc]
  · rw [List.flatMap_append, List.flatMap_singleton, List.append_assoc, items]
    exact drains.order
  · intro front other back split
    rcases List.eq_nil_or_concat back with rfl | ⟨back, latest, rfl⟩
    · obtain ⟨rfl, same⟩ := List.append_inj' split rfl
      obtain rfl := List.singleton_inj.mp same
      exact ⟨t.queue.items, drains.order, final⟩
    · rw [List.concat_eq_append, ← List.cons_append, ← List.append_assoc] at split
      exact drains.final front other back (List.append_inj' split rfl).1

/-- A step of a call in progress is always possible, and ends the call unless it is a receiver that
had lined up. -/
theorem Drains.step (drains : t.Drains buffered earlier later) {client : Client}
    {pending : OpenCall α} (held : t.calls client = some pending) (now : Instant) :
    ∃ u, t.act (.step now client) = some u ∧
      ((u.calls client = none ∧
        (∃ last, last = .call client pending.call (pending.call.replyOnClosed t.queue.items) ∧
          u.ended = t.ended ++ [last] ∧ last.received ++ u.queue.items = t.queue.items) ∧
        u.queue.IsShut) ∨
      pending = ⟨.recv, true⟩ ∧ u.calls client = some ⟨.recv, false⟩ ∧ u.ended = t.ended ∧
        u.queue.items = t.queue.items ∧ u.queue.IsShut) := by
  obtain ⟨after, outcome, stepped, settles⟩ :=
    OpenCall.step_of_shut drains.shut now client pending
  refine ⟨t.advance client pending after outcome, ?_, ?_⟩
  · simp only [Session.act, held, stepped, Option.map_some]
  · cases settles with
    | ends shut items =>
        exact Or.inl ⟨Function.update_self .., ⟨_, rfl, rfl, items⟩, shut⟩
    | wakes lined =>
        exact Or.inr ⟨lined, Function.update_self .., List.append_nil _, rfl,
          drains.shut.abandonReady client⟩

/-- **Every move keeps a closed session draining.** -/
theorem Drains.act {move : SessionMove α} (drains : t.Drains buffered earlier later)
    (moved : t.act move = some u) : ∃ more, u.Drains buffered earlier (later ++ more) := by
  cases move with
  | begin client call =>
      simp only [Session.act] at moved
      split at moved
      · cases moved
        exact ⟨[], (List.append_nil later).symm ▸ drains.goes_on drains.shut rfl rfl⟩
      · cases moved
  | step now client =>
      cases held : t.calls client with
      | none => simp only [Session.act, held, reduceCtorEq] at moved
      | some pending =>
          obtain ⟨v, moved', ⟨_, ⟨last, rfl, ended, items⟩, shut⟩ | ⟨_, _, ended, items, shut⟩⟩ :=
            drains.step held now
          · cases moved.symm.trans moved'
            exact ⟨_, drains.concat shut items ended rfl⟩
          · cases moved.symm.trans moved'
            exact ⟨[], (List.append_nil later).symm ▸ drains.goes_on shut items ended⟩
  | abandon client =>
      simp only [Session.act] at moved
      split at moved
      · cases moved
      next pending held =>
        cases moved
        have shut := OpenCall.isShut_abandon drains.shut client pending
        have items := (pending.abandon_effect client t.queue).2.1
        exact ⟨[], (List.append_nil later).symm ▸ drains.goes_on shut items rfl⟩
  | tryRecv =>
      cases moved
      obtain ⟨shut, answer⟩ := drains.shut.tryRecv
      exact ⟨[.tried t.queue.tryRecv.2], drains.concat shut t.queue.items_tryRecv.symm rfl answer⟩
  | close =>
      cases moved
      exact ⟨[], (List.append_nil later).symm ▸ drains.goes_on t.queue.isShut_close rfl rfl⟩

theorem Drains.play {moves : List (SessionMove α)} (drains : t.Drains buffered earlier later)
    (played : RepoCollector.play Session.act moves t = some u) :
    ∃ more, u.Drains buffered earlier (later ++ more) := by
  induction moves generalizing t later with
  | nil =>
      cases played
      exact ⟨[], (List.append_nil later).symm ▸ drains⟩
  | cons move moves ih =>
      obtain ⟨middle, moved, rest⟩ := play_cons played
      obtain ⟨first, next⟩ := drains.act moved
      obtain ⟨more, last⟩ := ih next rest
      exact ⟨first ++ more, List.append_assoc later first more ▸ last⟩

/-- What is drained stays so. -/
theorem Drains.items_nil (drains : t.Drains buffered earlier later) {moves : List (SessionMove α)}
    (played : RepoCollector.play Session.act moves t = some u) (empty : t.queue.items = []) :
    u.queue.items = [] := by
  obtain ⟨more, still⟩ := drains.play played
  have order := still.order.trans drains.order.symm
  rw [List.flatMap_append, List.append_assoc, empty] at order
  exact (List.append_eq_nil_iff.mp (List.append_cancel_left order)).2

/-- **A close is final, and what is buffered is drained in order.**  Whatever the session is like
when it is closed, and whatever is asked of the queue afterwards:

* the jobs received from then on, followed by those still buffered, are the jobs that were buffered;
* everything that ends does so as what was left in the buffer says: a sender is refused and has its
  own job back, the wait for a job is over, and a receiver, whether or not it would wait, takes the
  first job that is left, and is told that there is none only when none is;
* no call in progress waits: a step ends it, with the buffer as that answer leaves it, and only a
  receiver that had lined up needs one more;
* closing again changes nothing, and a queue that is exhausted stays so. -/
theorem drains_after_close {moves : List (SessionMove α)}
    (played : play act (.close :: moves) s = some t) :
    ∃ later, t.ended = s.ended ++ later ∧
      later.flatMap Ended.received ++ t.queue.items = s.queue.items ∧
      (∀ front last back, later = front ++ last :: back →
        ∃ left, front.flatMap Ended.received ++ left = s.queue.items ∧ last.IsFinal left) ∧
      (∀ client pending, t.calls client = some pending → ∀ now, ∃ u,
        t.act (.step now client) = some u ∧
        ((u.calls client = none ∧ ∃ last,
            last = .call client pending.call (pending.call.replyOnClosed t.queue.items) ∧
            u.ended = t.ended ++ [last] ∧ last.received ++ u.queue.items = t.queue.items) ∨
          pending = ⟨.recv, true⟩ ∧ u.calls client = some ⟨.recv, false⟩ ∧ u.ended = t.ended ∧
            u.queue.items = t.queue.items)) ∧
      t.act .close = some t ∧
      (t.queue.isExhausted = true ↔ t.queue.items = []) ∧
      ∀ more u, play act more t = some u → t.queue.isExhausted = true →
        u.queue.isExhausted = true := by
  obtain ⟨middle, moved, rest⟩ := play_cons played
  cases moved
  obtain ⟨later, drains⟩ := (drains_close s s.calls).play rest
  rw [List.nil_append] at drains
  refine ⟨later, drains.ended, drains.order, drains.final, ?_, ?_, drains.shut.isExhausted_iff, ?_⟩
  · intro client pending held now
    obtain ⟨u, moved, ⟨ended, last, _⟩ | ⟨lined, held, ended, items, _⟩⟩ := drains.step held now
    · exact ⟨u, moved, Or.inl ⟨ended, last⟩⟩
    · exact ⟨u, moved, Or.inr ⟨lined, held, ended, items⟩⟩
  · simp only [Session.act, drains.shut.close_eq]
  · intro more u continued exhausted
    obtain ⟨_, still⟩ := drains.play continued
    have empty := drains.shut.isExhausted_iff.mp exhausted
    exact still.shut.isExhausted_iff.mpr (drains.items_nil continued empty)

/-- A receiver lines up and is granted a job, but another one takes the first; the slot that this
frees is granted to a sender in line. -/
def jostle : List (SessionMove Nat) :=
  [.begin (.worker 0) .recv, .step 0 (.worker 0),
    .begin (.task 1) (.send 10 none), .step 0 (.task 1),
    .begin (.task 2) (.send 20 none), .step 0 (.task 2),
    .begin (.task 3) (.send 30 (some 9)), .step 0 (.task 3), .tryRecv]

/-- The calls in progress go on, and others begin, one of them by a sender that is late. -/
def aftermath : List (SessionMove Nat) :=
  [.begin (.task 4) (.send 40 none), .step 5 (.worker 0), .step 5 (.worker 0), .step 9 (.task 3),
    .step 9 (.task 4), .close, .begin (.worker 1) .ready, .step 9 (.worker 1), .tryRecv,
    .begin (.worker 2) .recv, .step 9 (.worker 2)]

theorem jostle_account :
    (play act jostle (make "jostle" 2)).map (fun s =>
      (s.queue.items, s.queue.slots.granted, s.queue.available.granted)) =
      some ([20], [.task 3], [.worker 0]) := by
  decide +kernel

theorem aftermath_account :
    (play act (jostle ++ .close :: aftermath) (make "jostle" 2)).map (fun t =>
      (t.received, t.ended.length, t.queue.items)) = some ([10, 20], 9, []) := by
  decide +kernel

theorem drains_after_close_jostle :
    ∃ s t, play act jostle (make "jostle" 2) = some s ∧ s.queue.items = [20] ∧
      s.queue.slots.granted = [.task 3] ∧ s.queue.available.granted = [.worker 0] ∧
      play act (.close :: aftermath) s = some t ∧ t.received = [10, 20] ∧
      ∃ later, t.ended = s.ended ++ later ∧ later.flatMap Ended.received = [20] := by
  obtain ⟨t, whole, account⟩ := Option.map_eq_some_iff.mp aftermath_account
  obtain ⟨s, before, played⟩ := play_append whole
  have granted := jostle_account
  rw [before] at granted
  injection granted with granted
  injection granted with items granted
  injection granted with slot job
  injection account with received account
  injection account with _ left
  obtain ⟨later, ended, order, _⟩ := drains_after_close played
  rw [left, List.append_nil, items] at order
  exact ⟨s, t, before, items, slot, job, played, received, later, ended, order⟩

end Session

end RepoCollector
