import RepoCollector.Proofs.Schedule.Waiting

/-! # One attempt against the clock

A vigil is one attempt to find a job, on a clock, while others send jobs to the lanes and close
them.  The attempt goes on as soon as it can: the clock moves only while it has to wait.  Beside the
lanes, a vigil keeps what they would be if the attempt were not made.

A client that waits is called at the first moment at which there is a definite answer, and a call in
vain makes a lane drop out.  Hence the attempt answers at that moment, and at its deadline otherwise
(`RepoCollector.Vigil.answers_in_time`), and it never turns in circles
(`RepoCollector.Vigil.Sound.effort_go`).
-/

namespace RepoCollector

/-- An attempt, the clock and the lanes. -/
structure Vigil where
  clock : Instant
  lanes : Lanes
  /-- The lanes as they would be if the attempt were not made. -/
  alone : Lanes
  attempt : Attempt
  answer : Option (Scheduled LibraryJob) := none

inductive VigilMove where
  /-- The attempt goes on. -/
  | go
  /-- Time passes; the attempt has to wait. -/
  | tick
  | outside (lane : JobKind) (deed : Deed)

def VigilMove.isGo : VigilMove → Bool
  | .go => true
  | .tick | .outside _ _ => false

namespace Vigil

/-- An attempt begins. -/
def start (now : Instant) (lanes : Lanes) : Vigil :=
  { clock := now, lanes, alone := lanes, attempt := .start now lanes }

/-- Makes a move, if it is possible.  Nothing is of interest after the answer. -/
def act (client : Client) (move : VigilMove) (v : Vigil) : Option Vigil :=
  if v.answer.isSome then none
  else
    match move with
    | .go => (v.attempt.step v.clock client v.lanes).map fun after =>
        { v with
          lanes := after.1
          attempt := after.2.getLeft?.getD v.attempt
          answer := after.2.getRight? }
    | .tick =>
      if (v.attempt.step v.clock client v.lanes).isNone then some { v with clock := v.clock + 1 }
      else none
    | .outside lane deed => some { v with
        lanes := v.lanes.modify lane deed.apply, alone := v.alone.modify lane deed.apply }

/-- **What holds of a vigil until the answer.** -/
structure Sound (client : Client) (begun limit : Instant) (v : Vigil) : Prop where
  balanced : v.lanes.Balanced
  alone : v.lanes.without client = v.alone
  awake : v.attempt.parked = false → v.lanes.Unattended
  parked : v.attempt.parked = true → v.lanes.Posted client
  deadline : v.attempt.deadline = limit
  since : begun ≤ v.clock
  inTime : v.clock ≤ limit

variable {client : Client} {begun limit : Instant} {v w : Vigil}

theorem sound_start {lanes : Lanes} (balanced : lanes.Balanced) (unattended : lanes.Unattended)
    (client : Client) (now : Instant) :
    (start now lanes).Sound client now (lanes.wait.after now) where
  balanced := balanced
  alone := unattended.without_eq client
  awake := fun _ => unattended
  parked := Bool.noConfusion
  deadline := rfl
  since := Nat.le_refl _
  inTime := Nat.le_add_right _ _

theorem Sound.lanes_eq (sound : v.Sound client begun limit) (awake : v.attempt.parked = false) :
    v.lanes = v.alone :=
  ((sound.awake awake).without_eq client).symm.trans sound.alone

theorem Sound.unattended (sound : v.Sound client begun limit) : v.alone.Unattended := by
  cases parked : v.attempt.parked with
  | false => exact sound.lanes_eq parked ▸ sound.awake parked
  | true => exact sound.alone ▸ (sound.parked parked).unpark.2

theorem Sound.sameJobs (sound : v.Sound client begun limit) : v.lanes.SameJobs v.alone := by
  rw [← sound.alone]
  exact Lanes.without_sameJobs client v.lanes

/-- How an attempt goes on, and what it leaves of the lanes. -/
inductive Goes (client : Client) (v : Vigil) : Vigil → Prop where
  /-- It is called and leaves the lines. -/
  | wakes (parked : v.attempt.parked = true) (called : v.lanes.calls client = true) :
      Goes client v { v with
        lanes := v.alone, attempt := { v.attempt with parked := false }, answer := none }
  /-- Its time is up. -/
  | expires (parked : v.attempt.parked = true) (uncalled : v.lanes.calls client = false)
      (late : v.attempt.deadline ≤ v.clock) :
      Goes client v { v with lanes := v.alone, answer := some .notReady }
  | takes {lane : JobKind} {job : LibraryJob} (awake : v.attempt.parked = false)
      (took : Lanes.Took lane job v.alone ((v.alone.modify lane (·.tryRecv.1)).counted lane)) :
      Goes client v { v with
        lanes := (v.alone.modify lane (·.tryRecv.1)).counted lane
        answer := some (.job (job.withWork lane)) }
  | ends (awake : v.attempt.parked = false) (exhausted : v.alone.IsExhausted) :
      Goes client v { v with lanes := v.alone, answer := some .exhausted }
  /-- It lines up. -/
  | lines {lanes : Lanes} (awake : v.attempt.parked = false) (nothing : ¬ v.lanes.Holds)
      (remains : ¬ v.lanes.IsExhausted) (posted : lanes.Posted client)
      (uncalled : lanes.calls client = false) (alone : lanes.without client = v.alone)
      (same : v.lanes.SameJobs lanes) :
      Goes client v { v with
        lanes, attempt := { v.attempt with parked := true }, answer := none }

theorem Goes.clock (goes : Goes client v w) : w.clock = v.clock := by
  cases goes <;> rfl

/-- **An attempt goes on unless it is to wait.** -/
theorem Sound.exists_go (sound : v.Sound client begun limit) (unanswered : v.answer = none)
    (able : v.attempt.parked = true → v.lanes.calls client = false → limit ≤ v.clock) :
    ∃ w, act client .go v = some w ∧ Goes client v w := by
  simp only [act, unanswered, Option.isSome_none, Bool.false_eq_true, ↓reduceIte]
  cases parked : v.attempt.parked with
  | false =>
      have same := sound.lanes_eq parked
      rcases Attempt.step_awake parked sound.balanced (sound.awake parked) v.clock client with
        ⟨lane, job, took, stepped⟩ | ⟨exhausted, stepped⟩ |
        ⟨nothing, remains, after, stepped, posted, uncalled, left, jobs⟩
      · rw [stepped]
        rw [same] at took ⊢
        exact ⟨_, rfl, .takes parked took⟩
      · rw [stepped]
        rw [same] at exhausted ⊢
        exact ⟨_, rfl, .ends parked exhausted⟩
      · rw [stepped]
        exact ⟨_, rfl, .lines parked nothing remains posted uncalled (left.trans same) jobs⟩
  | true =>
      rw [Attempt.step_parked parked (sound.parked parked), sound.alone]
      cases called : v.lanes.calls client with
      | true => exact ⟨_, rfl, .wakes parked called⟩
      | false =>
          have late := sound.deadline ▸ able parked called
          simp only [Bool.false_eq_true, ↓reduceIte, late]
          exact ⟨_, rfl, .expires parked called late⟩

theorem act_outside (unanswered : v.answer = none) (lane : JobKind) (deed : Deed) :
    act client (.outside lane deed) v = some { v with
      lanes := v.lanes.modify lane deed.apply, alone := v.alone.modify lane deed.apply } := by
  rw [act, unanswered]
  rfl

theorem unanswered_of_act {move : VigilMove} (moved : act client move v = some w) :
    v.answer = none := by
  cases answered : v.answer with
  | none => rfl
  | some answer =>
      simp only [act, answered, Option.isSome_some, ↓reduceIte, reduceCtorEq] at moved

/-- The clock moves only while the attempt waits, and not beyond the deadline. -/
theorem Sound.of_tick (sound : v.Sound client begun limit) (moved : act client .tick v = some w) :
    w = { v with clock := v.clock + 1 } ∧ v.attempt.parked = true ∧ v.lanes.calls client = false ∧
      v.clock < limit := by
  have unanswered := unanswered_of_act moved
  simp only [act, unanswered, Option.isSome_none, Bool.false_eq_true, ↓reduceIte] at moved
  split at moved
  next waits =>
    have stuck (able : v.attempt.parked = true → v.lanes.calls client = false → limit ≤ v.clock) :
        False := by
      obtain ⟨_, went, _⟩ := sound.exists_go unanswered able
      simp only [act, unanswered, Option.isSome_none, Bool.false_eq_true, ↓reduceIte,
        Option.isNone_iff_eq_none.mp waits, Option.map_none, reduceCtorEq] at went
    refine ⟨?_, ?_, ?_, ?_⟩
    · rw [← Option.some.inj moved, unanswered]
    · by_contra awake
      exact stuck fun parked => absurd parked awake
    · by_contra called
      exact stuck fun _ uncalled => absurd uncalled called
    · by_contra late
      exact stuck fun _ _ => Nat.le_of_not_lt late
  · cases moved

theorem Sound.goes (sound : v.Sound client begun limit) (moved : act client .go v = some w) :
    Goes client v w := by
  have unanswered := unanswered_of_act moved
  have able : v.attempt.parked = true → v.lanes.calls client = false → limit ≤ v.clock := by
    intro parked uncalled
    by_contra early
    simp only [act, unanswered, Option.isSome_none, Bool.false_eq_true, ↓reduceIte,
      Attempt.step_parked parked (sound.parked parked), uncalled, sound.deadline, early,
      Option.map_none, reduceCtorEq] at moved
  obtain ⟨_, went, goes⟩ := sound.exists_go unanswered able
  cases went.symm.trans moved
  exact goes

/-- **Every move keeps a vigil sound** until it is answered. -/
theorem Sound.act {move : VigilMove} (sound : v.Sound client begun limit)
    (moved : act client move v = some w) (unanswered : w.answer = none) :
    w.Sound client begun limit := by
  cases move with
  | go =>
      cases sound.goes moved with
      | wakes parked called =>
          refine ⟨sound.sameJobs.balanced sound.balanced, sound.unattended.without_eq client,
            fun _ => sound.unattended, Bool.noConfusion, sound.deadline, sound.since,
            sound.inTime⟩
      | lines awake nothing remains posted uncalled alone same =>
          exact ⟨same.balanced sound.balanced, alone, Bool.noConfusion, fun _ => posted,
            sound.deadline, sound.since, sound.inTime⟩
      | expires | takes | ends => cases unanswered
  | tick =>
      obtain ⟨rfl, _, _, early⟩ := sound.of_tick moved
      exact ⟨sound.balanced, sound.alone, sound.awake, sound.parked, sound.deadline,
        Nat.le_succ_of_le sound.since, early⟩
  | outside lane deed =>
      rw [act_outside (unanswered_of_act moved)] at moved
      cases moved
      have kept := (sound.balanced lane).apply deed
      refine ⟨sound.balanced.setQueue kept, ?_, ?_, ?_, sound.deadline, sound.since, sound.inTime⟩
      · rw [Lanes.modify_without (sound.alone ▸ sound.unattended), sound.alone]
      · intro awake other
        exact (v.lanes.watchers_modify lane (fun q => q.watchers_apply deed) other).trans
          (sound.awake awake other)
      · exact fun parked => (sound.parked parked).modify lane deed

/-- A client that is to be called has been called. -/
theorem Sound.not_waits (sound : v.Sound client begun limit)
    (definite : v.lanes.Definite) (parked : v.attempt.parked = true)
    (uncalled : v.lanes.calls client = false) : False :=
  Bool.false_ne_true (uncalled.symm.trans ((sound.parked parked).calls sound.balanced definite))

/-- **Once a lane holds a job**, time stands still until the attempt answers with a job. -/
theorem Sound.holds_act {move : VigilMove} (sound : v.Sound client begun limit)
    (holds : v.lanes.Holds) (moved : Vigil.act client move v = some w) :
    w.clock = v.clock ∧
      (w.answer = none ∧ w.lanes.Holds ∨ ∃ job, w.answer = some (.job job)) := by
  cases move with
  | go =>
      cases sound.goes moved with
      | wakes => exact ⟨rfl, Or.inl ⟨rfl, sound.sameJobs.holds holds⟩⟩
      | expires parked uncalled => exact (sound.not_waits (Or.inl holds) parked uncalled).elim
      | takes => exact ⟨rfl, Or.inr ⟨_, rfl⟩⟩
      | ends awake exhausted =>
          exact absurd exhausted (Lanes.not_isExhausted_of_holds (sound.sameJobs.holds holds))
      | lines awake nothing => exact absurd holds nothing
  | tick =>
      obtain ⟨_, parked, uncalled, _⟩ := sound.of_tick moved
      exact (sound.not_waits (Or.inl holds) parked uncalled).elim
  | outside lane deed =>
      have unanswered := unanswered_of_act moved
      rw [act_outside unanswered] at moved
      cases moved
      exact ⟨rfl, Or.inl ⟨unanswered, holds.modify lane deed⟩⟩

/-- **Once there is nothing more to come**, time stands still until the attempt says so. -/
theorem Sound.exhausted_act {move : VigilMove} (sound : v.Sound client begun limit)
    (exhausted : v.lanes.IsExhausted) (moved : Vigil.act client move v = some w) :
    w.clock = v.clock ∧
      (w.answer = none ∧ w.lanes.IsExhausted ∨ w.answer = some .exhausted) := by
  cases move with
  | go =>
      cases sound.goes moved with
      | wakes => exact ⟨rfl, Or.inl ⟨rfl, sound.sameJobs.isExhausted exhausted⟩⟩
      | expires parked uncalled => exact (sound.not_waits (Or.inr exhausted) parked uncalled).elim
      | takes awake took =>
          exact absurd (sound.sameJobs.isExhausted exhausted) took.not_isExhausted
      | ends => exact ⟨rfl, Or.inr rfl⟩
      | lines awake nothing remains => exact absurd exhausted remains
  | tick =>
      obtain ⟨_, parked, uncalled, _⟩ := sound.of_tick moved
      exact (sound.not_waits (Or.inr exhausted) parked uncalled).elim
  | outside lane deed =>
      have unanswered := unanswered_of_act moved
      rw [act_outside unanswered] at moved
      cases moved
      exact ⟨rfl, Or.inl ⟨unanswered, exhausted.modify lane deed⟩⟩

/-! ## Whole runs -/

/-- The lanes looked so at a moment before the answer. -/
def Saw (client : Client) (first : Vigil) (moves : List VigilMove) (moment : Instant)
    (view : Lanes → Prop) : Prop :=
  ∃ front back u, moves = front ++ back ∧ play (Vigil.act client) front first = some u ∧
    u.answer = none ∧ u.clock = moment ∧ view u.lanes

variable {moves : List VigilMove}

theorem play_answered {answer : Scheduled LibraryJob} (answered : v.answer = some answer)
    (played : play (Vigil.act client) moves v = some w) : moves = [] ∧ w = v := by
  cases moves with
  | nil =>
      cases played
      exact ⟨rfl, rfl⟩
  | cons move moves =>
      obtain ⟨_, moved, _⟩ := play_cons played
      cases (unanswered_of_act moved).symm.trans answered

theorem Sound.play (sound : v.Sound client begun limit)
    (played : play (Vigil.act client) moves v = some w) (unanswered : w.answer = none) :
    w.Sound client begun limit := by
  induction moves generalizing v with
  | nil =>
      cases played
      exact sound
  | cons move moves ih =>
      obtain ⟨u, moved, rest⟩ := play_cons played
      cases answered : u.answer with
      | none => exact ih (sound.act moved answered) rest
      | some answer =>
          obtain ⟨_, rfl⟩ := play_answered answered rest
          cases unanswered.symm.trans answered

/-- A view that lasts until it settles the answer, and at which time stands still. -/
private theorem Sound.settled {view : Lanes → Prop} {settles : Option (Scheduled LibraryJob) → Prop}
    (vague : ¬ settles none)
    (step : ∀ {move u w}, Sound client begun limit u → view u.lanes →
      Vigil.act client move u = some w →
      w.clock = u.clock ∧ (w.answer = none ∧ view w.lanes ∨ settles w.answer))
    (sound : v.Sound client begun limit) (unanswered : v.answer = none) (here : view v.lanes)
    (played : RepoCollector.play (Vigil.act client) moves v = some w) :
    w.clock = v.clock ∧ (w.answer = none ∨ settles w.answer) := by
  induction moves generalizing v with
  | nil =>
      cases played
      exact ⟨rfl, Or.inl unanswered⟩
  | cons move moves ih =>
      obtain ⟨u, moved, rest⟩ := play_cons played
      obtain ⟨still, ⟨unanswered, here⟩ | settled⟩ := step sound here moved
      · obtain ⟨clock, outcome⟩ := ih (sound.act moved unanswered) unanswered here rest
        exact ⟨clock.trans still, outcome⟩
      · cases answered : u.answer with
        | none => exact absurd (answered ▸ settled) vague
        | some answer =>
            obtain ⟨_, rfl⟩ := play_answered answered rest
            exact ⟨still, Or.inr settled⟩

/-- A moment at which the answer is settled is the last one. -/
private theorem Sound.clock_of_saw {view : Lanes → Prop}
    (settles : Option (Scheduled LibraryJob) → Prop) (vague : ¬ settles none)
    (step : ∀ {move u w}, Sound client begun limit u → view u.lanes →
      Vigil.act client move u = some w →
      w.clock = u.clock ∧ (w.answer = none ∧ view w.lanes ∨ settles w.answer))
    (sound : v.Sound client begun limit)
    (played : RepoCollector.play (Vigil.act client) moves v = some w) {moment : Instant}
    (saw : Saw client v moves moment view) :
    w.clock = moment ∧ (w.answer = none ∨ settles w.answer) := by
  obtain ⟨front, back, u, rfl, before, unanswered, rfl, here⟩ := saw
  obtain ⟨middle, reached, after⟩ := play_append played
  cases before.symm.trans reached
  exact (sound.play before unanswered).settled vague step unanswered here after

/-- An answer is given by the attempt's last step. -/
private theorem Sound.answered {answer : Scheduled LibraryJob} (sound : v.Sound client begun limit)
    (unanswered : v.answer = none)
    (played : RepoCollector.play (Vigil.act client) moves v = some w)
    (answered : w.answer = some answer) :
    ∃ front u, moves = front ++ [.go] ∧ RepoCollector.play (Vigil.act client) front v = some u ∧
      u.answer = none ∧ u.Sound client begun limit ∧ Goes client u w := by
  rcases List.eq_nil_or_concat moves with rfl | ⟨front, last, rfl⟩
  · cases played
    cases unanswered.symm.trans answered
  · rw [List.concat_eq_append] at played ⊢
    obtain ⟨u, before, after⟩ := play_append played
    obtain ⟨_, moved, rest⟩ := play_cons after
    cases rest
    have pending := unanswered_of_act moved
    have sound := sound.play before pending
    cases last with
    | go => exact ⟨front, u, rfl, before, pending, sound, sound.goes moved⟩
    | tick =>
        obtain ⟨rfl, _⟩ := sound.of_tick moved
        cases pending.symm.trans answered
    | outside lane deed =>
        rw [act_outside pending] at moved
        cases moved
        cases pending.symm.trans answered

/-! ## Answers -/

/-- How often the attempt goes on, at most, before it is answered.  It lines up and is called once
for each lane that may still give a job, and looks once more. -/
def effort (v : Vigil) : Nat :=
  if v.answer.isSome then 0
  else if v.attempt.parked then 2 * v.lanes.attended
  else if v.lanes.Definite then 1
  else 2 * v.lanes.remaining + 1

theorem effort_start_le (now : Instant) (lanes : Lanes) :
    (start now lanes).effort ≤ 2 * lanes.reads.kinds.length + 1 := by
  have most : lanes.remaining ≤ lanes.reads.kinds.length := List.countP_le_length
  change (if lanes.Definite then 1 else 2 * lanes.remaining + 1) ≤ _
  split <;> omega

theorem Sound.effort_pos (sound : v.Sound client begun limit) (unanswered : v.answer = none) :
    0 < v.effort := by
  rw [effort, unanswered]
  cases parked : v.attempt.parked with
  | true =>
      have waits := (sound.parked parked).attended_pos
      simp only [Option.isSome_none, Bool.false_eq_true, ↓reduceIte]
      omega
  | false =>
      simp only [Option.isSome_none, Bool.false_eq_true, ↓reduceIte]
      split <;> omega

/-- **An attempt never turns in circles.** -/
theorem Sound.effort_go (sound : v.Sound client begun limit)
    (moved : Vigil.act client .go v = some w) : w.effort < v.effort := by
  have unanswered := unanswered_of_act moved
  cases sound.goes moved with
  | expires | takes | ends => exact sound.effort_pos unanswered
  | wakes parked called =>
      -- Either the next look settles the answer, or the call was in vain and a lane drops out.
      have waits := (sound.parked parked).attended_pos
      have same := sound.sameJobs.remaining
      simp only [effort, unanswered, parked, Option.isSome_none, Bool.false_eq_true, ↓reduceIte]
      split
      · omega
      next vague =>
        have nothing (holds : v.lanes.Holds) : False := vague (Or.inl (sound.sameJobs.holds holds))
        have fewer := (sound.parked parked).remaining_lt sound.balanced called nothing
        omega
  | lines awake nothing remains posted uncalled alone same =>
      have vague : ¬ v.lanes.Definite := not_or_intro nothing remains
      have here := posted.attended_le (same.balanced sound.balanced) uncalled
      rw [same.remaining] at here
      simp only [effort, unanswered, awake, vague, Option.isSome_none, Bool.false_eq_true,
        ↓reduceIte]
      omega

/-- Nothing that others do makes an attempt turn longer. -/
theorem Sound.effort_le {move : VigilMove} (sound : v.Sound client begun limit)
    (moved : Vigil.act client move v = some w) (idle : move.isGo = false) :
    w.effort ≤ v.effort := by
  have unanswered := unanswered_of_act moved
  cases move with
  | go => cases idle
  | tick =>
      obtain ⟨rfl, _⟩ := sound.of_tick moved
      exact Nat.le_refl _
  | outside lane deed =>
      rw [act_outside unanswered] at moved
      cases moved
      have fewer := v.lanes.remaining_modify_le lane deed
      cases parked : v.attempt.parked with
      | true =>
          simp only [effort, unanswered, parked, Lanes.attended_modify, ↓reduceIte, Nat.le_refl]
      | false =>
          simp only [effort, unanswered, parked, Option.isSome_none, Bool.false_eq_true, ↓reduceIte]
          split
          · split <;> omega
          next vague =>
            rw [if_neg fun definite => vague (Lanes.Definite.modify definite lane deed)]
            omega

theorem Sound.effort_play (sound : v.Sound client begun limit)
    (played : RepoCollector.play (Vigil.act client) moves v = some w) :
    moves.countP VigilMove.isGo + w.effort ≤ v.effort := by
  induction moves generalizing v with
  | nil =>
      cases played
      exact Nat.le_of_eq (Nat.zero_add _)
  | cons move moves ih =>
      obtain ⟨u, moved, rest⟩ := play_cons played
      have less : (if move.isGo then 1 else 0) + u.effort ≤ v.effort := by
        cases goes : move.isGo with
        | true =>
            cases move with
            | go => exact Nat.add_comm _ _ ▸ sound.effort_go moved
            | tick | outside => cases goes
        | false => exact Nat.zero_add _ ▸ sound.effort_le moved goes
      have later : moves.countP VigilMove.isGo + w.effort ≤ u.effort := by
        cases answered : u.answer with
        | none => exact ih (sound.act moved answered) rest
        | some answer =>
            obtain ⟨rfl, rfl⟩ := play_answered answered rest
            exact Nat.le_of_eq (Nat.zero_add _)
      rw [List.countP_cons]
      omega

/-- The attempt can go on, which uses up effort, or time can pass, which is limited. -/
theorem Sound.exists_move (sound : v.Sound client begun limit) (unanswered : v.answer = none) :
    ∃ move w, (move = .go ∨ move = .tick) ∧ Vigil.act client move v = some w ∧
      w.effort + (limit - w.clock) < v.effort + (limit - v.clock) := by
  by_cases able : v.attempt.parked = true → v.lanes.calls client = false → limit ≤ v.clock
  · obtain ⟨w, moved, goes⟩ := sound.exists_go unanswered able
    have less := sound.effort_go moved
    refine ⟨.go, w, Or.inl rfl, moved, ?_⟩
    rw [goes.clock]
    omega
  · simp only [not_forall, Nat.not_le] at able
    obtain ⟨parked, uncalled, early⟩ := able
    have moved : Vigil.act client .tick v = some { v with clock := v.clock + 1 } := by
      simp only [Vigil.act, unanswered, Attempt.step_parked parked (sound.parked parked), uncalled,
        sound.deadline, Nat.not_le_of_lt early, Option.isSome_none, Option.isNone_none,
        Bool.false_eq_true, ↓reduceIte]
    refine ⟨.tick, _, Or.inr rfl, moved, ?_⟩
    have same := sound.effort_le moved rfl
    dsimp only at same ⊢
    omega

/-- **An attempt that is left alone is answered.** -/
theorem exists_answer (sound : v.answer = none → v.Sound client begun limit) :
    ∃ rest w, (∀ move ∈ rest, move = .go ∨ move = .tick) ∧
      RepoCollector.play (Vigil.act client) rest v = some w ∧ w.answer.isSome = true := by
  induction left : v.effort + (limit - v.clock) using Nat.strongRecOn generalizing v with
  | ind _ ih =>
    cases answered : v.answer with
    | some answer => exact ⟨[], v, List.forall_mem_nil _, rfl, answered ▸ rfl⟩
    | none =>
        -- Going on uses up effort, and waiting uses up time.
        have sound := sound answered
        obtain ⟨move, u, own, moved, less⟩ := sound.exists_move answered
        obtain ⟨rest, w, all, played, told⟩ := ih _ (left ▸ less) (sound.act moved) rfl
        exact ⟨move :: rest, w, List.forall_mem_cons.mpr ⟨own, all⟩,
          Option.bind_eq_some_iff.mpr ⟨u, moved, played⟩, told⟩

/-! ### What an answer says -/

theorem Sound.of_job {job : LibraryJob} (sound : v.Sound client begun limit)
    (goes : Goes client v w) (answered : w.answer = some (.job job)) :
    v.lanes.Holds ∧ ∃ lane head, job = head.withWork lane ∧ Lanes.Took lane head v.alone w.lanes ∧
      w.lanes = (v.alone.modify lane (·.tryRecv.1)).counted lane := by
  cases goes with
  | takes awake took =>
      cases answered
      refine ⟨?_, _, _, rfl, took, rfl⟩
      rw [sound.lanes_eq awake]
      exact took.holds
  | wakes | expires | ends | lines => cases answered

theorem Sound.of_exhausted (sound : v.Sound client begun limit) (goes : Goes client v w)
    (answered : w.answer = some .exhausted) :
    v.lanes.IsExhausted ∧ w.lanes.IsExhausted ∧ w.lanes = v.alone := by
  cases goes with
  | ends awake exhausted => exact ⟨(sound.lanes_eq awake).symm ▸ exhausted, exhausted, rfl⟩
  | wakes | expires | takes | lines => cases answered

theorem Sound.of_notReady (sound : v.Sound client begun limit) (goes : Goes client v w)
    (answered : w.answer = some .notReady) : v.clock = limit ∧ w.lanes = v.alone := by
  cases goes with
  | expires parked uncalled late =>
      rw [sound.deadline] at late
      exact ⟨Nat.le_antisymm sound.inTime late, rfl⟩
  | wakes | ends | takes | lines => cases answered

/-- An attempt that is answered has left the lines, and another one may begin. -/
theorem Sound.of_answer {answer : Scheduled LibraryJob} (sound : v.Sound client begun limit)
    (goes : Goes client v w) (answered : w.answer = some answer) :
    w.alone = v.alone ∧ w.lanes.Balanced ∧ w.lanes.Unattended := by
  have balanced := sound.sameJobs.balanced sound.balanced
  cases goes with
  | expires | ends => exact ⟨rfl, balanced, sound.unattended⟩
  | takes awake took => exact ⟨rfl, took.balanced balanced, sound.unattended.take _⟩
  | wakes | lines => cases answered

/-- **The answer and the time of an attempt.**  An attempt begins at lanes at which nobody waits for
jobs, and is left alone with them, except that others send jobs and close lanes at any moment.  At
any moment after that:
* the attempt has not gone on beyond its deadline, nor oftener than the lanes that it reads allow,
  and it can be completed by going on and waiting;
* a moment at which some lane held a job is the present one, and the answer, if it is given, is a
  job;
* a moment at which every lane was closed and drained is the present one, and the answer, if it is
  given, says so;
* before the answer, the lanes are as they would be without the attempt, except for its place in
  line;
* a job that is the answer was at the head of its lane at this very moment, has the work of that
  lane attached, and its receipt is all that the attempt did;
* the attempt says that nothing is to come only while that is so, and that nothing came only at its
  deadline; then the lanes are as they would be without it.

The deadline is one that a clock can reach (`Duration.after`). -/
theorem answers_in_time {lanes : Lanes} (balanced : lanes.Balanced) (unattended : lanes.Unattended)
    (client : Client) (now : Instant) {moves : List VigilMove} {v : Vigil}
    (played : RepoCollector.play (act client) moves (start now lanes) = some v) :
    (now ≤ v.clock ∧ v.clock ≤ lanes.wait.after now ∧
      moves.countP VigilMove.isGo ≤ 2 * lanes.reads.kinds.length + 1 ∧
      ∃ rest w, (∀ move ∈ rest, move = .go ∨ move = .tick) ∧
        RepoCollector.play (act client) rest v = some w ∧ w.answer.isSome = true) ∧
    (∀ moment, Saw client (start now lanes) moves moment Lanes.Holds →
      v.clock = moment ∧ (v.answer = none ∨ ∃ job, v.answer = some (.job job))) ∧
    (∀ moment, Saw client (start now lanes) moves moment Lanes.IsExhausted →
      v.clock = moment ∧ (v.answer = none ∨ v.answer = some .exhausted)) ∧
    (v.answer = none → v.lanes.without client = v.alone) ∧
    (∀ job, v.answer = some (.job job) →
      Saw client (start now lanes) moves v.clock Lanes.Holds ∧
      ∃ lane head, job = head.withWork lane ∧ Lanes.Took lane head v.alone v.lanes ∧
        v.lanes = (v.alone.modify lane (·.tryRecv.1)).counted lane) ∧
    (v.answer = some .exhausted →
      Saw client (start now lanes) moves v.clock Lanes.IsExhausted ∧ v.lanes.IsExhausted ∧
        v.lanes = v.alone) ∧
    (v.answer = some .notReady → v.clock = lanes.wait.after now ∧ v.lanes = v.alone) ∧
    (v.answer.isSome = true → v.lanes.Balanced ∧ v.lanes.Unattended) := by
  have first := sound_start balanced unattended client now
  have last {answer : Scheduled LibraryJob} (answered : v.answer = some answer) :=
    first.answered rfl played answered
  have timely : now ≤ v.clock ∧ v.clock ≤ lanes.wait.after now := by
    cases answered : v.answer with
    | none => exact ⟨(first.play played answered).since, (first.play played answered).inTime⟩
    | some answer =>
        obtain ⟨_, u, _, _, _, sound, goes⟩ := last answered
        rw [goes.clock]
        exact ⟨sound.since, sound.inTime⟩
  have effort := first.effort_play played
  have most := effort_start_le now lanes
  refine ⟨⟨timely.1, timely.2, by omega, exists_answer (first.play played)⟩, ?_, ?_,
    fun unanswered => (first.play played unanswered).alone, ?_, ?_, ?_, ?_⟩
  · exact fun moment => first.clock_of_saw (fun answer => ∃ job, answer = some (.job job)) nofun
      Sound.holds_act played
  · exact fun moment => first.clock_of_saw (fun answer => answer = some .exhausted) nofun
      Sound.exhausted_act played
  · intro job answered
    obtain ⟨front, u, rfl, before, unanswered, sound, goes⟩ := last answered
    obtain ⟨holds, taken⟩ := sound.of_job goes answered
    rw [(sound.of_answer goes answered).1]
    exact ⟨⟨front, _, u, rfl, before, unanswered, goes.clock.symm, holds⟩, taken⟩
  · intro answered
    obtain ⟨front, u, rfl, before, unanswered, sound, goes⟩ := last answered
    obtain ⟨exhausted, still, same⟩ := sound.of_exhausted goes answered
    rw [(sound.of_answer goes answered).1]
    exact ⟨⟨front, _, u, rfl, before, unanswered, goes.clock.symm, exhausted⟩, still, same⟩
  · intro answered
    obtain ⟨front, u, rfl, before, unanswered, sound, goes⟩ := last answered
    obtain ⟨late, same⟩ := sound.of_notReady goes answered
    rw [(sound.of_answer goes answered).1, goes.clock]
    exact ⟨late, same⟩
  · intro answered
    obtain ⟨answer, answered⟩ := Option.isSome_iff_exists.mp answered
    obtain ⟨_, u, _, _, _, sound, goes⟩ := last answered
    exact (sound.of_answer goes answered).2

/-- The job that was taken, if one was. -/
def taken (v : Vigil) : Option LibraryJob :=
  match v.answer with
  | some (.job job) => some job
  | _ => none

theorem answer_of_taken {job : LibraryJob} (taken : v.taken = some job) :
    v.answer = some (.job job) := by
  unfold Vigil.taken at taken
  split at taken
  next answered =>
    cases taken
    exact answered
  · cases taken

/-- An attempt waits at both lanes.  The update lane is closed, which calls it in vain, and it waits
at the other one.  When its time is up, an update comes in there. -/
def latecomer : List VigilMove :=
  [.go, .outside .update .close, .go, .go] ++ List.replicate 10 .tick ++
    [.outside .download (.offer (.task 1) (.update ["a"])), .go, .go]

def latecomerLanes : Lanes where
  reads := .combined
  download := .make "downloads" 1
  update := .make "updates" 1
  wait := .ofMillis 10

theorem latecomer_account :
    (RepoCollector.play (act (.worker 0)) latecomer (start 0 latecomerLanes)).map
        (fun v => (v.clock, v.taken)) =
      some (10, some { kind := .update, endpoints := ["a"], work := some .download }) := by
  decide +kernel

/-- The deadline is at 10, and no attempt at two lanes can take more than five steps. -/
theorem answers_in_time_latecomer :
    latecomerLanes.wait.after 0 = 10 ∧ latecomer.countP VigilMove.isGo = 5 ∧
    ∃ v, RepoCollector.play (act (.worker 0)) latecomer (start 0 latecomerLanes) = some v ∧
      v.clock = 10 ∧
      v.answer = some (.job { kind := .update, endpoints := ["a"], work := some .download }) ∧
      Saw (.worker 0) (start 0 latecomerLanes) latecomer 10 Lanes.Holds ∧
      v.lanes.Unattended := by
  obtain ⟨v, played, account⟩ := Option.map_eq_some_iff.mp latecomer_account
  injection account with clock job
  have answered := answer_of_taken job
  have balanced : latecomerLanes.Balanced := by
    intro lane
    cases lane <;> exact JobQueue.balanced_make _ _
  have unattended : latecomerLanes.Unattended := by
    intro lane
    cases lane <;> rfl
  obtain ⟨_, _, _, _, taken, _, _, left⟩ := answers_in_time balanced unattended (.worker 0) 0 played
  obtain ⟨saw, _⟩ := taken _ answered
  rw [clock] at saw
  exact ⟨by decide, by decide, v, played, clock, answered, saw, (left (by rw [answered]; rfl)).2⟩

end Vigil

end RepoCollector
