import Mathlib.Logic.Function.Iterate
import RepoCollector.Proofs.Discovery.Turn
import RepoCollector.Proofs.Play

/-! # Pauses of a provider

A provider pauses after a failure of its source that it lives with, and after a job has waited for
a slot in vain.  A pause lasts as long as the source said, if the source said so, or else as long as
the backoff says, which starts over only when a job was put into the queue
(`RepoCollector.Pacing.pauses_as_told`).

A pacing is any number of runs of one provider, none of which is asked to stop, on one clock.  It
counts the pauses that the backoff timed since a job was last put into the queue.
-/

namespace RepoCollector

/-- The hint by which a provider goes.  A hint not to wait at all is none. -/
def DiscoveryError.hint? (failure : DiscoveryError) : Option Duration :=
  failure.retryAfter.filter fun hint => !hint.isZero

namespace Backoff

/-- The delay that is handed out without jitter after so many others. -/
def value (b : Backoff Float) (count : Nat) : Duration := ((advanced^[count] b).next none).1

@[simp]
theorem reset_advanced (b : Backoff Float) : b.advanced.reset = b.reset := rfl

theorem reset_iterate_advanced (b : Backoff Float) (count : Nat) :
    (advanced^[count] b).reset = b.reset := by
  induction count generalizing b with
  | zero => rfl
  | succ count ih => rw [Function.iterate_succ_apply, ih, reset_advanced]

end Backoff

namespace Provider

variable {now : Instant} {client : Client} {answer : Option (Except DiscoveryError Repository)}
  {draw : Option Float} {p next : Provider} {q after : JobQueue LibraryJob}
  {event : Option ProviderEvent}

theorem restAfter_of_hint {failure : DiscoveryError} {hint : Duration}
    (told : failure.hint? = some hint) :
    p.restAfter now draw failure = { p with phase := .resting (hint.after now) } := by
  obtain ⟨given, positive⟩ := Option.filter_eq_some_iff.mp told
  have positive : hint.isZero = false := by simpa only [Bool.not_eq_true'] using positive
  simp only [restAfter, given, positive, Bool.false_eq_true, ↓reduceIte]

theorem restAfter_of_no_hint {failure : DiscoveryError} (untold : failure.hint? = none) :
    p.restAfter now draw failure = p.backOff now draw := by
  unfold restAfter
  cases given : failure.retryAfter with
  | none => rfl
  | some hint =>
      have zero : hint.isZero = true := by
        rw [DiscoveryError.hint?, given, Option.filter_some] at untold
        simpa only [Bool.not_eq_true', ite_eq_right_iff, reduceCtorEq, imp_false,
          Bool.not_eq_false] using untold
      simp only [zero, ↓reduceIte]

/-- A failure that the provider lives with makes it pause. -/
theorem step_of_failure (going : p.stopRequested = false) (asked : p.phase = .asking)
    {failure : DiscoveryError} (verdict : p.opts.verdict failure = .ok ()) :
    p.step now client (some (.error failure)) draw q =
      some (p.restAfter now draw failure, q, none) := by
  simp only [step, asked, reduceCtorEq, ↓reduceIte, going, Bool.false_eq_true, Option.map_some,
    afterAnswer, verdict]

/-- A job that has waited for a slot in vain makes it pause. -/
theorem step_of_timeout (going : p.stopRequested = false) {job : LibraryJob} {deadline : Instant}
    (sends : p.phase = .sending job deadline) (full : (q.resumeSend client job).2 = none)
    (late : deadline ≤ now) :
    p.step now client answer draw q =
      some ((p.keep job).backOff now draw, q.abandonSend client, none) := by
  generalize tried : q.resumeSend client job = told at full
  obtain ⟨after, verdict⟩ := told
  cases full
  simp only [step, sends, reduceCtorEq, ↓reduceIte, going, Bool.false_eq_true, tried, late]

theorem timeout_of_step (going : p.stopRequested = false) {job : LibraryJob} {deadline : Instant}
    (sends : p.phase = .sending job deadline)
    (stepped : p.step now client answer draw q = some (next, after, none)) :
    (q.resumeSend client job).2 = none := by
  simp only [step, sends, reduceCtorEq, ↓reduceIte, going, Bool.false_eq_true] at stepped
  generalize q.resumeSend client job = told at stepped
  obtain ⟨_, _ | _⟩ := told
  · rfl
  · simp only [Option.some.injEq, Prod.mk.injEq, reduceCtorEq, and_false] at stepped

theorem backoff_keep (p : Provider) (job : LibraryJob) : (p.keep job).backoff = p.backoff := by
  unfold keep
  split <;> rfl

end Provider

/-- The pause that a step begins: as long as the source said, or as long as the backoff says. -/
def Provider.pause? (answer : Option (Except DiscoveryError Repository)) (before after : Provider) :
    Option (Option Duration) :=
  match after.phase with
  | .resting _ =>
    match before.phase, answer with
    | .asking, some (.error failure) => some failure.hint?
    | _, _ => some none
  | _ => none

/-- A provider from run to run, and the pauses that its backoff timed. -/
structure Pacing where
  now : Instant := 0
  provider : Provider
  queue : JobQueue LibraryJob
  /-- The backoff that the provider was given. -/
  given : Backoff Float
  /-- Whether a job has been put into the queue. -/
  delivered : Bool := false
  /-- How many pauses the backoff timed since a job was last put into the queue. -/
  pauses : Nat := 0

/-- What can happen to a provider that nobody asks to stop. -/
inductive PacingMove where
  /-- Time passes. -/
  | wait (moment : Instant)
  /-- Others have used the queue, in any way. -/
  | others (queue : JobQueue LibraryJob)
  | start
  | step (answer : Option (Except DiscoveryError Repository))

namespace Pacing

def make (opts : ProviderOpts) (backoff : Backoff Float) (queue : JobQueue LibraryJob) : Pacing :=
  { provider := .make opts queue.capacity backoff, queue, given := backoff }

/-- The backoff as it was when the pauses were last counted from the beginning. -/
def base (s : Pacing) : Backoff Float := if s.delivered then s.given.reset else s.given

def advance (s : Pacing) (answer : Option (Except DiscoveryError Repository)) (provider : Provider)
    (queue : JobQueue LibraryJob) (event : Option ProviderEvent) : Pacing :=
  let put := (event.bind ProviderEvent.enqueued?).isSome
  { s with
    provider, queue
    delivered := s.delivered || put
    pauses := if put then 0
      else if s.provider.pause? answer provider = some none then s.pauses + 1 else s.pauses }

def act (client : Client) (move : PacingMove) (s : Pacing) : Option Pacing :=
  match move with
  | .wait moment => if s.now ≤ moment then some { s with now := moment } else none
  | .others queue => some { s with queue }
  | .start =>
    if s.provider.phase = .outside then some { s with provider := s.provider.start } else none
  | .step answer => (s.provider.step s.now client answer none s.queue).map fun after =>
      s.advance answer after.1 after.2.1 after.2.2

variable {client : Client} {s t : Pacing}

/-- What makes a provider pause. -/
inductive Setback (client : Client) (answer : Option (Except DiscoveryError Repository))
    (s : Pacing) : Prop where
  /-- The source failed, and the provider lives with it. -/
  | failure {failure : DiscoveryError} (asked : s.provider.phase = .asking)
      (told : answer = some (.error failure))
      (verdict : s.provider.opts.verdict failure = .ok ()) : Setback client answer s
  /-- A job has waited for a slot in vain. -/
  | timeout {job : LibraryJob} {deadline : Instant}
      (sends : s.provider.phase = .sending job deadline)
      (full : (s.queue.resumeSend client job).2 = none) (late : deadline ≤ s.now) :
      Setback client answer s

/-- What holds of a pacing at every moment. -/
structure Sound (s : Pacing) : Prop where
  going : s.provider.stopRequested = false
  backoff : s.provider.backoff = Backoff.advanced^[s.pauses] s.base

theorem sound_make (opts : ProviderOpts) (backoff : Backoff Float) (queue : JobQueue LibraryJob) :
    (make opts backoff queue).Sound := ⟨rfl, rfl⟩

theorem Sound.next_delay (sound : s.Sound) :
    (s.provider.backoff.next none).1 = s.base.value s.pauses := by
  rw [sound.backoff, Backoff.value]

/-- A pause that the backoff times is counted. -/
private theorem Sound.backs_off (sound : s.Sound) {p : Provider} (queue : JobQueue LibraryJob)
    (same : p.backoff = s.provider.backoff) (going : p.stopRequested = false)
    {answer : Option (Except DiscoveryError Repository)}
    (timed : s.provider.pause? answer (p.backOff s.now none) = some none) :
    (s.advance answer (p.backOff s.now none) queue none).Sound ∧
      (s.advance answer (p.backOff s.now none) queue none).pauses = s.pauses + 1 ∧
      (s.advance answer (p.backOff s.now none) queue none).base = s.base ∧
      (p.backOff s.now none).phase = .resting ((s.base.value s.pauses).after s.now) := by
  have counted : (s.advance answer (p.backOff s.now none) queue none).pauses = s.pauses + 1 := by
    simp [advance, timed]
  have base : (s.advance answer (p.backOff s.now none) queue none).base = s.base := by
    simp [base, advance]
  refine ⟨⟨going, ?_⟩, counted, base, ?_⟩
  · rw [counted, base, Function.iterate_succ_apply', ← sound.backoff, ← same]
    rfl
  · rw [← sound.next_delay, ← same]
    rfl

private theorem Sound.delivers (sound : s.Sound) : s.provider.backoff.reset = s.given.reset := by
  rw [sound.backoff, Backoff.reset_iterate_advanced, base]
  split
  · rfl
  · rfl

/-- A step with which no pause that the backoff times begins and no job is put into the queue. -/
private theorem Sound.steady (sound : s.Sound) {answer : Option (Except DiscoveryError Repository)}
    (provider : Provider) (queue : JobQueue LibraryJob) (event : Option ProviderEvent)
    (going : provider.stopRequested = false) (backoff : provider.backoff = s.provider.backoff)
    (untimed : s.provider.pause? answer provider ≠ some none)
    (nothing : event.bind ProviderEvent.enqueued? = none) :
    (s.advance answer provider queue event).Sound ∧
      (s.advance answer provider queue event).pauses = s.pauses ∧
      (s.advance answer provider queue event).base = s.base := by
  have same : (s.advance answer provider queue event).pauses = s.pauses := by
    simp [advance, nothing, untimed]
  have base : (s.advance answer provider queue event).base = s.base := by
    simp [base, advance, nothing]
  refine ⟨⟨going, ?_⟩, same, base⟩
  rw [same, base, ← sound.backoff, ← backoff]
  rfl

/-- A failure that the provider lives with. -/
private theorem Sound.failure (sound : s.Sound) (asked : s.provider.phase = .asking)
    {failure : DiscoveryError} (verdict : s.provider.opts.verdict failure = .ok ()) :
    ∃ t, s.act client (.step (some (.error failure))) = some t ∧ t.Sound ∧ t.queue = s.queue ∧
      t.base = s.base ∧
      t.provider.phase =
        .resting ((failure.hint?.getD (s.base.value s.pauses)).after s.now) ∧
      t.pauses = if failure.hint?.isNone then s.pauses + 1 else s.pauses := by
  have stepped : s.provider.step s.now client (some (.error failure)) none s.queue =
      some (s.provider.restAfter s.now none failure, s.queue, none) :=
    Provider.step_of_failure sound.going asked verdict
  refine ⟨_, by rw [act, stepped, Option.map_some], ?_⟩
  cases told : failure.hint? with
  | some hint =>
      rw [Provider.restAfter_of_hint told]
      have untimed : s.provider.pause? (some (.error failure))
          { s.provider with phase := .resting (hint.after s.now) } ≠ some none := by
        simp only [Provider.pause?, asked, told, ne_eq, Option.some.injEq, reduceCtorEq,
          not_false_eq_true]
      obtain ⟨kept, same, base⟩ := sound.steady
        { s.provider with phase := .resting (hint.after s.now) } s.queue none sound.going rfl
        untimed rfl
      exact ⟨kept, rfl, base, rfl, same⟩
  | none =>
      rw [Provider.restAfter_of_no_hint told]
      have timed : s.provider.pause? (some (.error failure)) (s.provider.backOff s.now none) =
          some none := by
        simp only [Provider.pause?, Provider.backOff, asked, told]
      obtain ⟨kept, counted, base, rests⟩ := sound.backs_off s.queue rfl sound.going timed
      exact ⟨kept, rfl, base, rests, counted⟩

/-- A job that has waited for a slot in vain. -/
private theorem Sound.timeout (sound : s.Sound) {job : LibraryJob} {deadline : Instant}
    (sends : s.provider.phase = .sending job deadline)
    (full : (s.queue.resumeSend client job).2 = none) (late : deadline ≤ s.now)
    (answer : Option (Except DiscoveryError Repository)) :
    ∃ t, s.act client (.step answer) = some t ∧ t.Sound ∧ t.queue = s.queue.abandonSend client ∧
      t.base = s.base ∧ t.provider.phase = .resting ((s.base.value s.pauses).after s.now) ∧
      t.pauses = s.pauses + 1 := by
  have stepped : s.provider.step s.now client answer none s.queue =
      some ((s.provider.keep job).backOff s.now none, s.queue.abandonSend client, none) :=
    Provider.step_of_timeout sound.going sends full late
  refine ⟨_, by rw [act, stepped, Option.map_some], ?_⟩
  have timed : s.provider.pause? answer ((s.provider.keep job).backOff s.now none) =
      some none := by
    simp only [Provider.pause?, Provider.backOff, sends]
  have going : (s.provider.keep job).stopRequested = false := by
    unfold Provider.keep
    split
    · exact sound.going
    · exact sound.going
  obtain ⟨kept, counted, base, rests⟩ :=
    sound.backs_off (s.queue.abandonSend client) (s.provider.backoff_keep job) going timed
  exact ⟨kept, rfl, base, rests, counted⟩

/-- **Every step keeps the count.**  It starts over when a job is put into the queue, and a pause
begins only after a setback. -/
theorem Sound.step (sound : s.Sound) {answer : Option (Except DiscoveryError Repository)}
    (moved : s.act client (.step answer) = some t) :
    t.Sound ∧
      ((∃ job, t.queue.items = s.queue.items ++ [job] ∧ t.base = s.given.reset ∧ t.pauses = 0) ∨
        t.queue.items = s.queue.items ∧ t.base = s.base ∧
          (s.Setback client answer ∨
            t.pauses = s.pauses ∧ ∀ wakeAt, t.provider.phase ≠ .resting wakeAt)) := by
  have whole := moved
  obtain ⟨⟨provider, queue, event⟩, stepped, rfl⟩ := Option.map_eq_some_iff.mp moved
  have going := sound.going
  have turn := Provider.turn_of_step stepped
  have items := turn.items
  -- a step that neither begins a pause nor puts a job into the queue
  have quiet (kept : provider.stopRequested = false)
      (backoff : provider.backoff = s.provider.backoff)
      (awake : ∀ wakeAt, provider.phase ≠ .resting wakeAt)
      (nothing : event.bind ProviderEvent.enqueued? = none) :
      (s.advance answer provider queue event).Sound ∧
        ((∃ job, queue.items = s.queue.items ++ [job] ∧
            (s.advance answer provider queue event).base = s.given.reset ∧
            (s.advance answer provider queue event).pauses = 0) ∨
          queue.items = s.queue.items ∧ (s.advance answer provider queue event).base = s.base ∧
            (s.Setback client answer ∨
              (s.advance answer provider queue event).pauses = s.pauses ∧
                ∀ wakeAt, provider.phase ≠ .resting wakeAt)) := by
    have untimed : s.provider.pause? answer provider ≠ some none := by
      unfold Provider.pause?
      split
      next wakeAt rests => exact absurd rests (awake wakeAt)
      · exact (Option.some_ne_none _).symm
    obtain ⟨sound, same, base⟩ := sound.steady provider queue event kept backoff untimed nothing
    rw [nothing] at items
    exact ⟨sound, Or.inr ⟨items.trans (List.append_nil _), base, Or.inr ⟨same, awake⟩⟩⟩
  cases turn with
  | stops _ requested => exact Bool.noConfusion (requested.symm.trans going)
  | delivers _ _ _ _ items =>
      refine ⟨⟨going, ?_⟩, Or.inl ⟨_, items, ?_, rfl⟩⟩
      · change s.provider.backoff.reset = (if s.delivered || true then s.given.reset else s.given)
        rw [Bool.or_true, if_pos rfl, sound.delivers]
      · change (if s.delivered || true then s.given.reset else s.given) = s.given.reset
        rw [Bool.or_true, if_pos rfl]
  | rests _ asked told verdict =>
      subst told
      obtain ⟨t, failed, kept, _, base, _⟩ := sound.failure asked verdict
      cases failed.symm.trans whole
      exact ⟨kept, Or.inr ⟨rfl, base, Or.inl (.failure asked rfl verdict)⟩⟩
  | timesOut _ sends late =>
      have full := Provider.timeout_of_step going sends stepped
      obtain ⟨t, failed, kept, _, base, _⟩ := sound.timeout sends full late answer
      cases failed.symm.trans whole
      exact ⟨kept, Or.inr ⟨rfl, base, Or.inl (.timeout sends full late)⟩⟩
  | asks | refused | waits | skips | fails | wakes =>
      exact quiet going rfl (fun _ => ProviderPhase.noConfusion) rfl

theorem Sound.act {move : PacingMove} (sound : s.Sound) (moved : s.act client move = some t) :
    t.Sound := by
  cases move with
  | wait moment =>
      simp only [Pacing.act, Option.ite_none_right_eq_some, Option.some.injEq] at moved
      obtain ⟨_, rfl⟩ := moved
      exact ⟨sound.going, sound.backoff⟩
  | others queue =>
      cases moved
      exact ⟨sound.going, sound.backoff⟩
  | start =>
      simp only [Pacing.act, Option.ite_none_right_eq_some, Option.some.injEq] at moved
      obtain ⟨_, rfl⟩ := moved
      exact ⟨sound.going, sound.backoff⟩
  | step answer => exact (sound.step moved).1

/-- The clock does not go back, and the provider keeps its backoff. -/
private theorem given_of_act {move : PacingMove} (moved : s.act client move = some t) :
    t.given = s.given ∧ s.now ≤ t.now := by
  cases move with
  | wait moment =>
      simp only [act, Option.ite_none_right_eq_some, Option.some.injEq] at moved
      obtain ⟨later, rfl⟩ := moved
      exact ⟨rfl, later⟩
  | others queue =>
      cases moved
      exact ⟨rfl, Nat.le_refl _⟩
  | start =>
      simp only [act, Option.ite_none_right_eq_some, Option.some.injEq] at moved
      obtain ⟨_, rfl⟩ := moved
      exact ⟨rfl, Nat.le_refl _⟩
  | step answer =>
      obtain ⟨_, _, rfl⟩ := Option.map_eq_some_iff.mp moved
      exact ⟨rfl, Nat.le_refl _⟩

theorem sound_of_play {opts : ProviderOpts} {backoff : Backoff Float}
    {queue : JobQueue LibraryJob} {moves : List PacingMove}
    (played : play (act client) moves (make opts backoff queue) = some s) :
    s.Sound ∧ s.given = backoff := by
  have kept := play_keeps (fun (_ : PacingMove) (first last : Pacing) (_ : True)
    (both : first.Sound ∧ first.given = backoff) (moved : first.act client _ = some last) =>
    And.intro (both.1.act moved) ((given_of_act moved).1.trans both.2)) (fun _ _ => trivial)
    ⟨sound_make opts backoff queue, rfl⟩ played
  exact kept

end Pacing

end RepoCollector
