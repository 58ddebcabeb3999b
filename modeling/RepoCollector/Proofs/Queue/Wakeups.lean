import RepoCollector.Proofs.Queue.Places
import RepoCollector.Proofs.Schedule.Visits

/-! # Wake-ups on their way

A permit for a buffered job is free, or it has been granted to a receiver that lined up and has not
been run since.  A receiver that does not wait goes by the free permits alone.  So it is told that a
queue is empty exactly when every job in the buffer stands against a receiver that has been woken
(`RepoCollector.Session.told_empty_iff`), and the buffer need not be empty then
(`RepoCollector.Session.tryRecv_misses_job`).
-/

namespace RepoCollector

namespace Session

variable {α : Type} {s t : Session α}

/-- Those who are in line for a job are clients that wait for one, each of them once. -/
structure Attended (s : Session α) : Prop where
  once : s.queue.watchers.Nodup
  waits : ∀ client ∈ s.queue.watchers, (s.calls client).any OpenCall.awaitsJob = true

theorem attended_make (name : String) (capacity : Nat) :
    (make name capacity : Session α).Attended :=
  ⟨List.nodup_nil, fun _ member => (List.not_mem_nil member).elim⟩

/-- One client moves on, and nobody else moves in line. -/
private theorem Attended.moved (attended : s.Attended) {client : Client} {queue : JobQueue α}
    {next : Option (OpenCall α)} {ended : List (Ended α)}
    (relined : s.queue.Relined client (next.any OpenCall.awaitsJob) queue) :
    ({ queue, calls := Function.update s.calls client next, ended } : Session α).Attended := by
  refine ⟨relined.nodup attended.once, fun other member => ?_⟩
  rcases relined.mem attended.once member with ⟨rfl, awaits⟩ | ⟨different, stays⟩
  · simp only [Function.update_self, awaits]
  · simp only [Function.update_of_ne different]
    exact attended.waits other stays

private theorem Attended.absent (attended : s.Attended) {client : Client} {pending : OpenCall α}
    (held : s.calls client = some pending) (idle : pending.awaitsJob = false) :
    client ∉ s.queue.watchers := by
  intro member
  have waits := attended.waits client member
  rw [held, Option.any_some, idle] at waits
  cases waits

private theorem relined_of_abandon {client : Client} {pending : OpenCall α} {q : JobQueue α}
    (absent : pending.awaitsJob = false → client ∉ q.watchers) :
    q.Relined client false (pending.abandon client q) := by
  obtain ⟨call, _ | _⟩ := pending
  · have away : client ∉ q.watchers := by
      cases call <;> exact absent rfl
    exact JobQueue.relined_of_absent _ away rfl
  · cases call with
    | send job deadline => exact JobQueue.relined_of_absent _ (absent rfl) rfl
    | recv => exact JobQueue.relined_of_left _ (q.watchers_abandonReady client)
    | ready => exact JobQueue.relined_of_left _ (q.watchers_abandonReady client)

theorem Attended.act {move : SessionMove α} (attended : s.Attended) (moved : s.act move = some t) :
    t.Attended := by
  cases move with
  | begin client call =>
      cases held : s.calls client with
      | some pending => simp only [Session.act, held, reduceCtorEq] at moved
      | none =>
          simp only [Session.act, held, Option.some.injEq] at moved
          subst moved
          refine attended.moved (JobQueue.relined_of_absent _ (fun member => ?_) rfl)
          have waits := attended.waits client member
          rw [held] at waits
          cases waits
  | step now client =>
      cases held : s.calls client with
      | none => simp only [Session.act, held, reduceCtorEq] at moved
      | some pending =>
          simp only [Session.act, held] at moved
          obtain ⟨⟨after, outcome⟩, stepped, rfl⟩ := Option.map_eq_some_iff.mp moved
          exact attended.moved (OpenCall.step_relined (attended.absent held) stepped)
  | abandon client =>
      cases held : s.calls client with
      | none => simp only [Session.act, held, reduceCtorEq] at moved
      | some pending =>
          simp only [Session.act, held, Option.some.injEq] at moved
          subst moved
          exact attended.moved (relined_of_abandon (attended.absent held))
  | tryRecv =>
      cases moved
      have same := s.queue.watchers_tryRecv
      refine ⟨?_, fun client member => attended.waits client ?_⟩
      · change s.queue.tryRecv.1.watchers.Nodup
        rw [same]
        exact attended.once
      · rw [← same]
        exact member
  | close =>
      cases moved
      exact ⟨attended.once, attended.waits⟩

/-- **When a receiver that does not wait is told that a queue is empty.**  Whatever clients did with
the queue, in any order, and whichever calls they gave up:

* it is told so exactly if the queue is open and holds as many jobs as wake-ups are on their way;
* a wake-up that is on its way was granted to a client that waits for a job and was not run since,
  and to each of them only one was;
* so if no wake-up is on its way, the buffer is empty. -/
theorem told_empty_iff (name : String) (capacity : Nat) {moves : List (SessionMove α)}
    (played : play act moves (make name capacity) = some s) :
    (s.queue.tryRecv.2 = .empty ↔
      s.queue.isClosed = false ∧ s.queue.size = s.queue.available.granted.length) ∧
    (s.queue.available.granted.Nodup ∧ ∀ client ∈ s.queue.available.granted,
      ∃ call, s.calls client = some ⟨call, true⟩ ∧ (call = .recv ∨ call = .ready)) ∧
    (s.queue.available.granted = [] → s.queue.tryRecv.2 = .empty → s.queue.items = []) := by
  have sound : s.Sound (max capacity 1) :=
    play_keeps (fun _ _ _ _ sound moved => sound.act moved) (fun _ _ => trivial)
      (sound_make name capacity) played
  have attended : s.Attended :=
    play_keeps (fun _ _ _ _ attended moved => attended.act moved) (fun _ _ => trivial)
      (attended_make name capacity) played
  have empty := sound.balanced.tryRecv_eq_empty_iff
  refine ⟨empty, ⟨(List.nodup_append.mp attended.once).1, ?_⟩, ?_⟩
  · intro client woken
    have waits := attended.waits client (List.mem_append_left _ woken)
    obtain ⟨⟨call, parked⟩, held, awaits⟩ := (Option.any_eq_true _ _).mp waits
    cases call with
    | send job deadline => cases awaits
    | recv =>
        cases awaits
        exact ⟨.recv, held, Or.inl rfl⟩
    | ready =>
        cases awaits
        exact ⟨.ready, held, Or.inr rfl⟩
  · intro nobody told
    have none := (empty.mp told).2
    rw [nobody] at none
    exact List.length_eq_zero_iff.mp none

/-- A receiver and a client that only looks for jobs line up at an empty queue, a job is sent, and
the receiver, which was woken, passes its wake-up on before it looks into the queue again. -/
def passedOn : List (SessionMove String) :=
  [.begin (.task 1) .recv, .step 0 (.task 1), .begin (.task 2) .ready, .step 1 (.task 2),
    .begin (.task 0) (.send "job" none), .step 2 (.task 0), .step 2 (.task 1)]

theorem told_empty_iff_passedOn :
    ∃ s, play act passedOn (make "wake" 1) = some s ∧ s.queue.size = 1 ∧
      s.queue.available.granted = [.task 2] ∧ s.queue.tryRecv.2 = .empty := by
  refine ⟨_, rfl, rfl, rfl, ?_⟩
  exact (told_empty_iff "wake" 1 (rfl : play act passedOn (make "wake" 1) = some _)).1.mpr
    ⟨rfl, rfl⟩

/-- The queue is open and holds a job, and a receiver is told that it is empty. -/
theorem tryRecv_misses_job :
    ∃ s, play act passedOn (make "wake" 1) = some s ∧ s.queue.isClosed = false ∧
      s.queue.items = ["job"] ∧ s.queue.tryRecv.2 = .empty :=
  ⟨_, rfl, rfl, rfl, rfl⟩

end Session

end RepoCollector
