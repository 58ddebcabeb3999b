import RepoCollector.Proofs.Queue.Places

/-! # Calm sessions

While those that were woken are run, only receivers look into the queue again, and none is about to
while senders wait (`RepoCollector.Session.Calm`).  This holds after whatever a client does that
goes on (`RepoCollector.Session.Calm.step`) or gives up its call
(`RepoCollector.Session.Calm.abandon`), and the lines stay in order with it.
-/

namespace RepoCollector

namespace Session

variable {α : Type} {capacity : Nat} {s t : Session α} {awake : List Client}

/-- The clients whose calls are run on without waiting for the queue again. -/
def unparked (s : Session α) (client : Client) : Bool :=
  (s.calls client).any fun pending => !pending.parked

/-- What holds of a session while those that were woken are run: only receivers look into the queue
again, and none is about to while senders wait. -/
structure Calm (s : Session α) (awake : List Client) : Prop where
  newcomers : ∀ client call, s.calls client = some ⟨call, false⟩ → call = .recv ∧ client ∈ awake
  orderly : s.queue.isClosed = false → s.queue.Orderly
  alone : s.queue.isClosed = false → s.queue.slots.line ≠ [] → awake = []

theorem calm_make (name : String) (capacity : Nat) : (make name capacity : Session α).Calm [] :=
  ⟨fun _ _ going => absurd going.symm (Option.some_ne_none _),
    fun _ => JobQueue.orderly_make name capacity, fun _ _ => rfl⟩

/-- What a call that begins makes of a session. -/
theorem begin_of_act {client : Client} {call : Call α}
    (moved : s.act (.begin client call) = some t) :
    s.calls client = none ∧ t.queue = s.queue ∧
      t.calls = Function.update s.calls client (some ⟨call, false⟩) ∧ t.accepted = s.accepted := by
  cases held : s.calls client with
  | some pending => simp only [Session.act, held, reduceCtorEq] at moved
  | none =>
      simp only [Session.act, held, Option.some.injEq] at moved
      subst moved
      exact ⟨rfl, rfl, rfl, rfl⟩

/-- What one step of a call makes of a session. -/
theorem step_of_act {now : Instant} {client : Client} {pending : OpenCall α}
    (held : s.calls client = some pending) (moved : s.act (.step now client) = some t) :
    ∃ outcome, pending.step now client s.queue = some (t.queue, outcome) ∧
      t.calls = Function.update s.calls client outcome.getLeft? ∧
      t.accepted =
        s.accepted ++ (OpenCall.record client pending.call outcome).flatMap Ended.accepted := by
  simp only [Session.act, held] at moved
  obtain ⟨⟨after, outcome⟩, stepped, rfl⟩ := Option.map_eq_some_iff.mp moved
  exact ⟨outcome, stepped, rfl, List.flatMap_append⟩

/-- What giving up a call makes of a session. -/
theorem abandon_of_act {client : Client} {pending : OpenCall α}
    (held : s.calls client = some pending) (moved : s.act (.abandon client) = some t) :
    t.queue = pending.abandon client s.queue ∧ t.calls = Function.update s.calls client none ∧
      t.accepted = s.accepted := by
  simp only [Session.act, held, Option.some.injEq] at moved
  subst moved
  exact ⟨rfl, rfl, rfl⟩

/-- A queue that was closed stays so. -/
theorem Sound.isClosed_act {move : SessionMove α} (sound : s.Sound capacity)
    (moved : s.act move = some t) (closed : s.queue.isClosed = true) : t.queue.isClosed = true := by
  cases move with
  | begin client call =>
      rw [(begin_of_act moved).2.1]
      exact closed
  | step now client =>
      cases held : s.calls client with
      | none => simp only [Session.act, held, reduceCtorEq] at moved
      | some pending =>
          obtain ⟨_, stepped, _⟩ := step_of_act held moved
          exact (OpenCall.step_effect sound.balanced stepped).keeps.closed.trans closed
  | abandon client =>
      cases held : s.calls client with
      | none => simp only [Session.act, held, reduceCtorEq] at moved
      | some pending =>
          rw [(abandon_of_act held moved).1]
          exact (pending.abandon_effect client s.queue).1.closed.trans closed
  | tryRecv =>
      cases moved
      rcases sound.balanced.tryRecv_cases with ⟨_, next, tried, _, keeps⟩ | ⟨tried, _⟩ | ⟨tried, _⟩
      · simp only [tried, keeps.closed, closed]
      · simp only [tried, closed]
      · simp only [tried, closed]
  | close =>
      cases moved
      rfl

/-- A client goes on. -/
theorem Calm.step (sound : s.Sound capacity) (positive : 0 < capacity) {client : Client}
    {pending : OpenCall α} (held : s.calls client = some pending)
    (others : ∀ other call, other ≠ client → s.calls other = some ⟨call, false⟩ →
      call = .recv ∧ other ∈ awake)
    (orderly : s.queue.isClosed = false → s.queue.Orderly)
    (alone : s.queue.isClosed = false → s.queue.slots.line ≠ [] → awake = [])
    (calm : s.queue.isClosed = false → pending.parked = false → s.queue.slots.granted = [])
    (quiet : s.queue.isClosed = false → ∀ job deadline, pending = ⟨.send job deadline, false⟩ →
      s.queue.available.granted = [] ∧ awake = []) {now : Instant}
    (moved : s.act (.step now client) = some t) :
    t.Calm ((client :: awake).filter t.unparked) := by
  simp only [Session.act, held] at moved
  obtain ⟨⟨after, outcome⟩, stepped, rfl⟩ := Option.map_eq_some_iff.mp moved
  have effect := OpenCall.step_effect sound.balanced stepped
  have positive : 0 < s.queue.capacity := sound.capacity.symm ▸ positive
  refine ⟨fun other call going => ?_, fun opened => ?_, fun opened someone => ?_⟩
  · have unparked : (s.advance client pending after outcome).unparked other = true := by
      simp only [unparked, going, Option.any_some, Bool.not_false]
    by_cases same : other = client
    · subst same
      have next : outcome = .inl ⟨call, false⟩ := by
        simp only [advance, Function.update_self] at going
        exact Sum.getLeft?_eq_some_iff.mp going
      subst next
      exact ⟨OpenCall.call_of_unparked stepped rfl,
        List.mem_filter.mpr ⟨List.mem_cons_self, unparked⟩⟩
    · simp only [advance, Function.update_of_ne same] at going
      obtain ⟨recv, member⟩ := others other call same going
      exact ⟨recv, List.mem_filter.mpr ⟨List.mem_cons_of_mem _ member, unparked⟩⟩
  · have opened : s.queue.isClosed = false := effect.keeps.closed.symm.trans opened
    exact OpenCall.step_orderly opened sound.balanced positive (orderly opened) (calm opened)
      (fun job deadline same => (quiet opened job deadline same).1) stepped
  · have opened : s.queue.isClosed = false := effect.keeps.closed.symm.trans opened
    obtain ⟨before, parked⟩ := OpenCall.step_parks opened sound.balanced positive (orderly opened)
      (calm opened) stepped someone
    have nobody : awake = [] := by
      rcases before with ⟨job, deadline, first⟩ | line
      · exact (quiet opened job deadline first).2
      · exact alone opened line
    have waits : (s.advance client pending after outcome).unparked client = false := by
      simp only [unparked, advance, Function.update_self]
      cases outcome with
      | inl next =>
          simp only [Sum.getLeft?_inl, Option.any_some, parked next rfl, Bool.not_true]
      | inr reply => rfl
    rw [nobody, List.filter_cons_of_neg (by rw [waits]; exact Bool.false_ne_true), List.filter_nil]

/-- A client gives up its call. -/
theorem Calm.abandon (calm : s.Calm awake) (sound : s.Sound capacity) {client : Client}
    (moved : s.act (.abandon client) = some t) :
    t.Calm ((client :: awake).filter t.unparked) := by
  cases held : s.calls client with
  | none => simp only [Session.act, held, reduceCtorEq] at moved
  | some pending =>
      simp only [Session.act, held, Option.some.injEq] at moved
      subst moved
      obtain ⟨keeps, _, line⟩ := pending.abandon_effect client s.queue
      refine ⟨fun other call going => ?_, fun opened => ?_, fun opened someone => ?_⟩
      · have different : other ≠ client := by
          rintro rfl
          simp only [Function.update_self, reduceCtorEq] at going
        have before := going
        simp only [Function.update_of_ne different] at before
        obtain ⟨recv, member⟩ := calm.newcomers other call before
        refine ⟨recv, List.mem_filter.mpr ⟨List.mem_cons_of_mem _ member, ?_⟩⟩
        simp only [unparked, Function.update_of_ne different, before, Option.any_some,
          Bool.not_false]
      · have earlier : s.queue.isClosed = false := keeps.closed.symm.trans opened
        have orderly := calm.orderly earlier
        obtain ⟨call, _ | _⟩ := pending
        · exact orderly
        · cases call with
          | send job deadline => exact orderly.abandonSend earlier client
          | recv => exact orderly.abandonReady sound.balanced earlier client
          | ready => exact orderly.abandonReady sound.balanced earlier client
      · have opened : s.queue.isClosed = false := keeps.closed.symm.trans opened
        have before : s.queue.slots.line ≠ [] := by
          intro nobody
          rw [nobody, List.erase_nil, ite_self] at line
          exact someone line
        rw [calm.alone opened before, List.filter_cons_of_neg, List.filter_nil]
        simp only [unparked, Function.update_self, Option.any_none, Bool.false_eq_true,
          not_false_eq_true]

end Session

end RepoCollector
