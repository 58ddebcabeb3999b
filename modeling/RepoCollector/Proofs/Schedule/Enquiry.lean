import RepoCollector.Proofs.Play
import RepoCollector.Proofs.Schedule.Course

/-! # Requests for jobs follow the schedule function

Requests follow one another on a clock, each with delays of its own, and go on in the same script.
Moves come from outside, where a job is asked for and the scheduler is stopped, or from the request
and the clock.  No time passes while the request can go on.

`RepoCollector.Enquiry.follows_script`: after any moves, every request that has ended did so as its
course says, and one that has not has made the calls of its course and will end by itself, if an
answer decides.  After the stop it ends at once, and the schedule function is not asked again.  The
delay between two calls is the bound as a double can tell it
(`RepoCollector.Enquiry.long_delay_is_longer`).
-/

namespace RepoCollector

/-- Every request goes on in the script where the one before it has left it. -/
def Told {J : Type} (script : Nat → Cue J) (opts : SchedulerOpts) (stopped : Option Instant) :
    Nat → List (Enquired J) → Prop
  | _, [] => True
  | first, enquired :: rest =>
    Course.Follows { script, opts, first, begun := enquired.begun } stopped enquired ∧
      Told script opts stopped (first + enquired.calls.length) rest

/-! ## Requests on a clock -/

/-- A request that has not ended, and how many calls were made before it began. -/
structure Enquiring (J : Type) where
  begun : Instant
  first : Nat
  request : JobRequest (Awaited J)

/-- Requests for jobs, one after the other. -/
structure Enquiry (J : Type) where
  clock : Instant := 0
  calls : Calls := {}
  /-- When the scheduler was stopped. -/
  stopped : Option Instant := none
  current : Option (Enquiring J) := none
  past : List (Enquired J) := []

inductive EnquiryMove where
  /-- A job is asked for. -/
  | next
  /-- The request goes on. -/
  | go (draw : Float)
  /-- Time passes; the request, if there is one, has to wait. -/
  | tick
  | stop

/-- Whether a move is made by the request or the clock alone. -/
def EnquiryMove.isOwn : EnquiryMove → Bool
  | .go _ | .tick => true
  | .next | .stop => false

namespace Enquiry

variable {J : Type}

/-- What a step of the request leads to. -/
def arrive (e : Enquiry J) (visit : Enquiring J) (calls : Calls) :
    JobRequest (Awaited J) ⊕ Option J → Enquiry J
  | .inl request => { e with calls, current := some { visit with request } }
  | .inr result => { e with
      calls
      current := none
      past := e.past ++ [⟨visit.begun, e.clock, calls.made.drop visit.first, result⟩] }

/-- How the request goes on. -/
def goes (policy : Policy Calls (Awaited J) J) (opts : SchedulerOpts) (draw : Float)
    (e : Enquiry J) : Option (Enquiry J) :=
  e.current.bind fun visit =>
    (visit.request.step policy opts e.stopped.isSome e.clock (.task 0) draw e.calls).map
      fun after => e.arrive visit after.1 after.2

/-- Makes a move, if it is possible. -/
def act (policy : Policy Calls (Awaited J) J) (opts : SchedulerOpts) (move : EnquiryMove)
    (e : Enquiry J) : Option (Enquiry J) :=
  match move with
  | .next =>
    if e.current.isSome then none
    else some { e with current := some ⟨e.clock, e.calls.made.length, .start opts⟩ }
  | .go draw => e.goes policy opts draw
  | .tick => if (e.goes policy opts 0).isNone then some { e with clock := e.clock + 1 } else none
  | .stop => some { e with stopped := some (e.stopped.getD e.clock) }

/-- The calls of the requests that have ended. -/
def spent (e : Enquiry J) : List Instant := e.past.flatMap (·.calls)

/-! ## What every move keeps -/

variable {script : Nat → Cue J} {opts : SchedulerOpts} {e : Enquiry J}

theorem told_concat {stopped : Option Instant} {first : Nat} {front : List (Enquired J)}
    {last : Enquired J} : Told script opts stopped first (front ++ [last]) ↔
      Told script opts stopped first front ∧
        Course.Follows { script, opts, begun := last.begun
                         first := first + (front.flatMap (·.calls)).length } stopped last := by
  induction front generalizing first with
  | nil => exact and_comm
  | cons enquired front ih =>
      rw [List.cons_append, Told, Told, ih, and_assoc, List.flatMap_cons, List.length_append,
        Nat.add_assoc]

theorem told_stop {first moment : Nat} {past : List (Enquired J)}
    (told : Told script opts none first past)
    (before : ∀ enquired ∈ past, enquired.ended ≤ moment) :
    Told script opts (some moment) first past := by
  induction past generalizing first with
  | nil => trivial
  | cons enquired past ih =>
      obtain ⟨here, before⟩ := List.forall_mem_cons.mp before
      exact ⟨told.1.stop here, ih told.2 before⟩

/-- The course of a request. -/
def course (script : Nat → Cue J) (opts : SchedulerOpts) (visit : Enquiring J) : Course J :=
  { script, opts, first := visit.first, begun := visit.begun }

/-- **What holds of a request that has not ended.** -/
structure Underway (script : Nat → Cue J) (opts : SchedulerOpts) (e : Enquiry J)
    (visit : Enquiring J) (own : List Instant) : Prop where
  made : e.calls.made = e.spent ++ own
  first : e.spent.length = visit.first
  steady : Course.Steady opts visit.request.idle
  stands : (course script opts visit).Stands e.clock own visit.request.phase
  /-- Time stands still after the stop, and no call is made. -/
  still : ∀ moment ∈ e.stopped, e.clock = max visit.begun moment ∧ ∀ call ∈ own, call ≤ moment

/-- **What holds after any moves.** -/
structure Sound (script : Nat → Cue J) (opts : SchedulerOpts) (e : Enquiry J) : Prop where
  told : Told script opts e.stopped 0 e.past
  ended : ∀ enquired ∈ e.past, enquired.ended ≤ e.clock
  since : ∀ moment ∈ e.stopped, moment ≤ e.clock
  vacant : e.current = none → e.calls.made = e.spent
  underway : ∀ visit ∈ e.current, ∃ own, e.Underway script opts visit own

theorem sound_start : Sound script opts {} where
  told := trivial
  ended := nofun
  since := nofun
  vacant := fun _ => rfl
  underway := nofun

variable {visit : Enquiring J} {own : List Instant}

/-- Time passes only while nothing can go on. -/
theorem act_tick {policy : Policy Calls (Awaited J) J} {after : Enquiry J}
    (moved : Enquiry.act policy opts .tick e = some after) :
    e.goes policy opts 0 = none ∧ after = { e with clock := e.clock + 1 } := by
  rw [Enquiry.act] at moved
  split at moved
  next waits =>
    cases moved
    exact ⟨Option.isNone_iff_eq_none.mp waits, rfl⟩
  next => cases moved

/-- There is one request at a time. -/
theorem act_next {policy : Policy Calls (Awaited J) J} {after : Enquiry J}
    (moved : Enquiry.act policy opts .next e = some after) :
    e.current = none ∧
      after = { e with current := some ⟨e.clock, e.calls.made.length, .start opts⟩ } := by
  rw [Enquiry.act] at moved
  split at moved
  next => cases moved
  next free =>
    cases moved
    exact ⟨Option.not_isSome_iff_eq_none.mp free, rfl⟩

/-- A call can be given up without a trace. -/
def Spares (policy : Policy Calls (Awaited J) J) : Prop :=
  ∀ client awaited calls, policy.abandon client awaited calls = calls

theorem spares_scripted : Spares (scripted script) :=
  fun _ _ _ => rfl

theorem Spares.abandon {policy : Policy Calls (Awaited J) J} (spares : Spares policy)
    (request : JobRequest (Awaited J)) (client : Client) (calls : Calls) :
    request.abandon policy client calls = calls := by
  unfold JobRequest.abandon
  split
  · exact spares _ _ _
  · rfl

/-- After the stop the request ends by its next move, and no call is made. -/
theorem goes_of_stopped {policy : Policy Calls (Awaited J) J} {moment : Instant}
    (spares : Spares policy) (current : e.current = some visit) (stopped : e.stopped = some moment)
    (draw : Float) : e.goes policy opts draw = some (e.arrive visit e.calls (.inr none)) := by
  rw [goes, current, Option.bind_some, stopped, Option.isSome_some, JobRequest.step_of_stopped,
    spares.abandon]
  rfl

theorem goes_of_waits (current : e.current = some visit) (stopped : e.stopped = none)
    (waits : (course script opts visit).Waits e.clock visit.request e.calls) (draw : Float) :
    e.goes (scripted script) opts draw = none := by
  rw [goes, current, Option.bind_some, stopped, Option.isSome_none]
  exact congrArg (Option.map _) (waits draw)

theorem goes_of_goesOn {calls : Calls} {outcome : JobRequest (Awaited J) ⊕ Option J}
    (current : e.current = some visit) (stopped : e.stopped = none)
    (goesOn : (course script opts visit).GoesOn e.clock visit.request e.calls calls outcome)
    (draw : Float) : e.goes (scripted script) opts draw = some (e.arrive visit calls outcome) := by
  rw [goes, current, Option.bind_some, stopped, Option.isSome_none]
  exact congrArg (Option.map _) (goesOn draw)

/-- Before the stop a request is underway wherever it stands. -/
theorem Underway.of_unstopped {e' : Enquiry J} {request : JobRequest (Awaited J)}
    {later : List Instant} (underway : e.Underway script opts visit own)
    (stopped : e'.stopped = none) (past : e'.past = e.past)
    (made : e'.calls.made = e.spent ++ later)
    (steady : Course.Steady opts request.idle)
    (stands : (course script opts visit).Stands e'.clock later request.phase) :
    e'.Underway script opts { visit with request } later := by
  have spent : e'.spent = e.spent := by rw [spent, past, spent]
  refine ⟨spent ▸ made, spent ▸ underway.first, steady, stands, ?_⟩
  intro moment member
  cases stopped.symm.trans member

/-- **What a request does next**, before the stop. -/
theorem Underway.next (underway : e.Underway script opts visit own) :
    (course script opts visit).Next e.clock e.spent own visit.request e.calls :=
  underway.stands.next underway.steady underway.made underway.first

theorem Underway.drop_made (underway : e.Underway script opts visit own) :
    e.calls.made.drop visit.first = own := by
  rw [underway.made, ← underway.first, List.drop_left]

theorem Underway.follows_of_stopped {moment : Instant} (underway : e.Underway script opts visit own)
    (stopped : e.stopped = some moment) :
    (course script opts visit).Follows e.stopped ⟨visit.begun, e.clock, own, none⟩ := by
  obtain ⟨count, rfl, reaches⟩ := underway.stands.reaches
  obtain ⟨still, early⟩ := underway.still moment stopped
  have before : moment ≤ e.clock := still ▸ Nat.le_max_right _ _
  rw [stopped, still]
  refine .stopped rfl ⟨?_, before.trans reaches.late, ?_⟩
  · intro index earlier
    exact early _ (List.mem_map_of_mem (List.mem_range.mpr earlier))
  · intro index earlier decisive
    exact before.trans (reaches.undecided index earlier decisive)

/-- What a request ends with is added to the past. -/
theorem Sound.finish {calls : Calls} {result : Option J} (sound : e.Sound script opts)
    (first : e.spent.length = visit.first) (made : calls.made = e.spent ++ own)
    (follows : (course script opts visit).Follows e.stopped ⟨visit.begun, e.clock, own, result⟩) :
    (e.arrive visit calls (.inr result)).Sound script opts := by
  have past : (e.arrive visit calls (.inr result)).past =
      e.past ++ [⟨visit.begun, e.clock, own, result⟩] := by
    rw [arrive, made, ← first, List.drop_left]
  refine ⟨?_, ?_, sound.since, fun _ => ?_, nofun⟩
  · rw [past]
    refine told_concat.mpr ⟨sound.told, ?_⟩
    change Course.Follows { script, opts, begun := visit.begun, first := 0 + e.spent.length } _ _
    rw [Nat.zero_add, first]
    exact follows
  · rw [past]
    exact List.forall_mem_append.mpr
      ⟨sound.ended, List.forall_mem_singleton.mpr (Nat.le_refl _)⟩
  · rw [spent, past, List.flatMap_append, List.flatMap_singleton]
    exact made

theorem Sound.go {draw : Float} {after : Enquiry J} (sound : e.Sound script opts)
    (moved : e.goes (scripted script) opts draw = some after) : after.Sound script opts := by
  obtain ⟨visit, current, _⟩ := Option.bind_eq_some_iff.mp moved
  obtain ⟨own, underway⟩ := sound.underway visit current
  cases stopped : e.stopped with
  | some moment =>
      rw [goes_of_stopped spares_scripted current stopped] at moved
      cases moved
      exact sound.finish underway.first underway.made (underway.follows_of_stopped stopped)
  | none =>
      cases underway.next with
      | waits waits _ =>
          rw [goes_of_waits current stopped waits] at moved
          cases moved
      | goesOn goes made stands steady _ =>
          rw [goes_of_goesOn current stopped goes] at moved
          cases moved
          refine ⟨sound.told, sound.ended, sound.since, nofun, ?_⟩
          rintro _ ⟨⟩
          exact ⟨_, underway.of_unstopped stopped rfl made steady stands⟩
      | ends goes all made now pending decisive =>
          rw [goes_of_goesOn current stopped goes] at moved
          cases moved
          refine sound.finish underway.first (made.trans underway.made) ?_
          rw [all, now, stopped]
          exact .decided pending decisive nofun

/-- Only before the stop there is something to wait for. -/
theorem Sound.of_waits (sound : e.Sound script opts) (current : e.current = some visit)
    (waits : e.goes (scripted script) opts 0 = none) : e.stopped = none ∧ ∃ own,
      e.Underway script opts visit own ∧
        (course script opts visit).Stands (e.clock + 1) own visit.request.phase := by
  obtain ⟨own, underway⟩ := sound.underway visit current
  cases stopped : e.stopped with
  | some moment =>
      rw [goes_of_stopped spares_scripted current stopped] at waits
      cases waits
  | none =>
      cases underway.next with
      | waits _ stands => exact ⟨rfl, own, underway, stands⟩
      | goesOn goes => cases (goes_of_goesOn current stopped goes 0).symm.trans waits
      | ends goes => cases (goes_of_goesOn current stopped goes 0).symm.trans waits

theorem Sound.tick {after : Enquiry J} (sound : e.Sound script opts)
    (moved : Enquiry.act (scripted script) opts .tick e = some after) :
    after.Sound script opts := by
  obtain ⟨waits, rfl⟩ := act_tick moved
  refine ⟨sound.told, fun enquired member => (sound.ended enquired member).trans (Nat.le_succ _),
    fun moment member => (sound.since moment member).trans (Nat.le_succ _), sound.vacant, ?_⟩
  intro visit current
  obtain ⟨stopped, own, underway, stands⟩ := sound.of_waits current waits
  exact ⟨own, underway.of_unstopped stopped rfl underway.made underway.steady stands⟩

theorem steady_start (equal : opts.idleGreatest = opts.idleLeast) :
    Course.Steady opts opts.idle := by
  refine ⟨rfl, ?_⟩
  change opts.idleGreatest.longer opts.idleLeast = opts.idleLeast
  rw [equal, Duration.longer, Nat.max_self]

theorem Sound.next {after : Enquiry J} (equal : opts.idleGreatest = opts.idleLeast)
    (sound : e.Sound script opts)
    (moved : Enquiry.act (scripted script) opts .next e = some after) :
    after.Sound script opts := by
  obtain ⟨free, rfl⟩ := act_next moved
  have made := sound.vacant free
  refine ⟨sound.told, sound.ended, sound.since, nofun, ?_⟩
  rintro _ ⟨⟩
  refine ⟨[], ?_, ?_, steady_start equal, ?_, ?_⟩
  · rw [List.append_nil]
    exact made
  · exact congrArg List.length made.symm
  · exact Course.stands_start _
  · intro moment member
    exact ⟨(Nat.max_eq_left (sound.since moment member)).symm, nofun⟩

theorem Sound.stop (sound : e.Sound script opts) :
    Sound script opts { e with stopped := some (e.stopped.getD e.clock) } := by
  cases stopped : e.stopped with
  | some moment =>
      rw [Option.getD_some, ← stopped]
      exact sound
  | none =>
      rw [Option.getD_none]
      have told := sound.told
      rw [stopped] at told
      refine ⟨told_stop told sound.ended, sound.ended, ?_, sound.vacant, ?_⟩
      · rintro _ ⟨⟩
        exact Nat.le_refl _
      · intro visit current
        obtain ⟨own, underway⟩ := sound.underway visit current
        refine ⟨own, underway.made, underway.first, underway.steady, underway.stands, ?_⟩
        rintro _ ⟨⟩
        obtain ⟨count, rfl, reaches⟩ := underway.stands.reaches
        refine ⟨(Nat.max_eq_right underway.stands.begun_le).symm, ?_⟩
        intro call member
        obtain ⟨index, earlier, rfl⟩ := List.mem_map.mp member
        exact reaches.early index (List.mem_range.mp earlier)

theorem Sound.act {move : EnquiryMove} {after : Enquiry J}
    (equal : opts.idleGreatest = opts.idleLeast) (sound : e.Sound script opts)
    (moved : Enquiry.act (scripted script) opts move e = some after) : after.Sound script opts := by
  cases move with
  | next => exact sound.next equal moved
  | go draw => exact sound.go moved
  | tick => exact sound.tick moved
  | stop =>
      cases moved
      exact sound.stop

/-! ## Whole runs -/

section Progress

variable {last : Nat}

/-- **A request that is not stopped gets to every answer** that comes after none that decides. -/
theorem Sound.exists_answer (sound : e.Sound script opts) (current : e.current = some visit)
    (stopped : e.stopped = none) (underway : e.Underway script opts visit own)
    (pending : ∀ index < last, (course script opts visit).decides index = false)
    (ahead : Course.Ahead last own visit.request.phase) :
    ∃ rest after request, (∀ move ∈ rest, move.isOwn = true) ∧
      play (Enquiry.act (scripted script) opts) rest e = some after ∧ after.Sound script opts ∧
      after.current = some { visit with request } ∧ after.stopped = none ∧ after.past = e.past ∧
      after.Underway script opts { visit with request }
        ((course script opts visit).callsTo (last + 1)) ∧
      after.clock = (course script opts visit).answerAt last := by
  induction left : Course.effort last own visit.request.phase +
    ((course script opts visit).answerAt last - e.clock) using Nat.strongRecOn
    generalizing e visit own with
  | ind _ ih =>
    by_cases there : own.length = last + 1 ∧ e.clock = (course script opts visit).answerAt last
    · obtain ⟨made, clock⟩ := there
      obtain ⟨count, rfl, _⟩ := underway.stands.reaches
      obtain rfl := (Course.length_callsTo count).symm.trans made
      exact ⟨[], e, visit.request, nofun, rfl, sound, current, stopped, rfl, underway, clock⟩
    · cases underway.next with
      | waits waits stands =>
          have moved : Enquiry.act (scripted script) opts .tick e =
              some { e with clock := e.clock + 1 } := by
            rw [Enquiry.act, goes_of_waits current stopped waits]
            rfl
          have nearer : (course script opts visit).answerAt last - (e.clock + 1) <
              (course script opts visit).answerAt last - e.clock :=
            Nat.sub_lt_sub_left (stands.le_answerAt ahead) (Nat.lt_succ_self _)
          have underway : Underway script opts { e with clock := e.clock + 1 } visit own :=
            underway.of_unstopped stopped rfl underway.made underway.steady stands
          obtain ⟨rest, after, request, all, played, reached⟩ := ih _
            (left ▸ Nat.add_lt_add_left nearer _) (sound.tick moved) current stopped underway
            pending ahead rfl
          exact ⟨.tick :: rest, after, request, List.forall_mem_cons.mpr ⟨rfl, all⟩,
            Option.bind_eq_some_iff.mpr ⟨_, moved, played⟩, reached⟩
      | @goesOn calls next later goes made stands steady closer =>
          have moved := goes_of_goesOn current stopped goes 0
          obtain ⟨less, ahead⟩ := closer last ahead
          have ahead := ahead.resolve_left there
          have underway : Underway script opts (e.arrive visit calls (.inl next))
              { visit with request := next } later :=
            underway.of_unstopped stopped rfl made steady stands
          obtain ⟨rest, after, request, all, played, reached⟩ := ih _
            (left ▸ Nat.add_lt_add_right less _) (sound.go moved) rfl stopped underway pending
            ahead rfl
          exact ⟨.go 0 :: rest, after, request, List.forall_mem_cons.mpr ⟨rfl, all⟩,
            Option.bind_eq_some_iff.mpr ⟨_, moved, played⟩, reached⟩
      | ends _ all _ now _ decides =>
          have made := ahead.length_le
          rw [all, Course.length_callsTo] at made
          obtain rfl := Nat.le_antisymm (Nat.le_of_succ_le_succ made)
            (Course.le_of_decides pending decides)
          exact absurd ⟨all ▸ Course.length_callsTo _, now⟩ there

/-- **A request that is not stopped ends with the first answer that decides.** -/
theorem Sound.exists_return (sound : e.Sound script opts) (current : e.current = some visit)
    (stopped : e.stopped = none)
    (pending : ∀ index < last, (course script opts visit).decides index = false)
    (decisive : (course script opts visit).decides last = true) :
    ∃ rest after, (∀ move ∈ rest, move.isOwn = true) ∧
      play (Enquiry.act (scripted script) opts) rest e = some after ∧ after.current = none ∧
      after.past = e.past ++ [{
        begun := visit.begun
        ended := (course script opts visit).answerAt last
        calls := (course script opts visit).callsTo (last + 1)
        result := ((course script opts visit).cue last).answer.result }] := by
  obtain ⟨own, underway⟩ := sound.underway visit current
  obtain ⟨rest, e', request, all, played, sound, current, stopped, past, underway, clock⟩ :=
    sound.exists_answer current stopped underway pending (underway.stands.ahead decisive)
  have ahead := underway.stands.ahead decisive
  cases underway.next with
  | waits _ stands =>
      have inTime := stands.le_answerAt ahead
      rw [clock] at inTime
      exact absurd inTime (Nat.not_succ_le_self _)
  | goesOn _ _ stands _ closer =>
      -- no step is left but the one that ends the request
      have less := (closer last ahead).1.trans_le
        (Course.effort_le_two (Course.length_callsTo _) _)
      exact absurd less (Nat.not_lt_of_le (stands.ahead decisive).two_le_effort)
  | ends goes _ made _ undecided decides =>
      have moved : Enquiry.act (scripted script) opts (.go 0) e' = some _ :=
        goes_of_goesOn current stopped goes 0
      obtain rfl := Nat.le_antisymm (Course.le_of_decides undecided decisive)
        (Course.le_of_decides pending decides)
      refine ⟨rest ++ [.go 0], _,
        List.forall_mem_append.mpr ⟨all, List.forall_mem_singleton.mpr rfl⟩,
        play_append_of_play played (Option.bind_eq_some_iff.mpr ⟨_, moved, rfl⟩), rfl, ?_⟩
      rw [arrive, made, underway.drop_made, clock, past]
      rfl

end Progress

section Stopped

variable {policy : Policy Calls (Awaited J) J} {moment : Instant}

theorem goes_eq_of_stopped (spares : Spares policy) (stopped : e.stopped = some moment)
    (draw : Float) : e.goes policy opts draw = e.goes (scripted script) opts draw := by
  cases current : e.current with
  | none => rw [goes, goes, current, Option.bind_none, Option.bind_none]
  | some visit =>
      rw [goes_of_stopped spares current stopped, goes_of_stopped spares_scripted current stopped]

/-- After the stop a move is the same whatever the schedule function is. -/
theorem act_eq_of_stopped (move : EnquiryMove) (spares : Spares policy)
    (stopped : e.stopped = some moment) :
    Enquiry.act policy opts move e = Enquiry.act (scripted script) opts move e := by
  cases move with
  | next | stop => rfl
  | go draw => exact goes_eq_of_stopped spares stopped draw
  | tick => rw [Enquiry.act, Enquiry.act, goes_eq_of_stopped spares stopped]

theorem calls_of_stopped {move : EnquiryMove} {after : Enquiry J} (spares : Spares policy)
    (stopped : e.stopped = some moment) (moved : Enquiry.act policy opts move e = some after) :
    after.calls = e.calls ∧ after.stopped = some moment := by
  cases move with
  | next =>
      obtain ⟨_, rfl⟩ := act_next moved
      exact ⟨rfl, stopped⟩
  | go draw =>
      have moved : e.goes policy opts draw = some after := moved
      obtain ⟨visit, current, _⟩ := Option.bind_eq_some_iff.mp moved
      rw [goes_of_stopped spares current stopped] at moved
      cases moved
      exact ⟨rfl, stopped⟩
  | tick =>
      obtain ⟨_, rfl⟩ := act_tick moved
      exact ⟨rfl, stopped⟩
  | stop =>
      cases moved
      exact ⟨rfl, congrArg (fun known => some (known.getD e.clock)) stopped⟩

/-- **After the stop the schedule function does not matter.** -/
theorem play_of_stopped (moves : List EnquiryMove) (spares : Spares policy)
    (stopped : e.stopped = some moment) :
    play (Enquiry.act policy opts) moves e = play (Enquiry.act (scripted script) opts) moves e ∧
      ∀ after ∈ play (Enquiry.act policy opts) moves e, after.calls = e.calls := by
  induction moves generalizing e with
  | nil =>
      refine ⟨rfl, ?_⟩
      rintro _ ⟨⟩
      rfl
  | cons move moves ih =>
      have same : Enquiry.act policy opts move e = Enquiry.act (scripted script) opts move e :=
        act_eq_of_stopped move spares stopped
      rw [play, play, ← same]
      cases moved : Enquiry.act policy opts move e with
      | none => exact ⟨rfl, nofun⟩
      | some middle =>
          obtain ⟨calls, still⟩ := calls_of_stopped spares stopped moved
          obtain ⟨rest, kept⟩ := ih still
          exact ⟨rest, fun after member => (kept after member).trans calls⟩

end Stopped

/-- **Requests that follow the script.** -/
structure FollowsScript (script : Nat → Cue J) (opts : SchedulerOpts) (e : Enquiry J) : Prop where
  /-- The requests that have ended have followed it, one after the other. -/
  told : Told script opts e.stopped 0 e.past
  /-- No other calls were made. -/
  vacant : e.current = none → e.calls.made = e.spent
  /-- A request that has not ended goes on where they have left the script, and has made the calls
  that it should have made by now. -/
  onCourse : ∀ visit ∈ e.current, visit.first = e.spent.length ∧ ∃ count,
    e.calls.made = e.spent ++ (course script opts visit).callsTo count ∧
      (course script opts visit).Reaches e.clock count
  /-- If it is not stopped, it gets by itself to every call that comes before the end. -/
  goesOn : e.stopped = none → ∀ visit ∈ e.current, ∀ last,
    (∀ index < last, (course script opts visit).decides index = false) →
    e.calls.made.length ≤ e.spent.length + last →
    ∃ rest after, (∀ move ∈ rest, move.isOwn = true) ∧
      play (act (scripted script) opts) rest e = some after ∧
      after.calls.made = e.spent ++ (course script opts visit).callsTo (last + 1) ∧
      after.clock = (course script opts visit).answerAt last
  /-- If it is not stopped, it ends by itself with the first answer that decides. -/
  returns : e.stopped = none → ∀ visit ∈ e.current, ∀ last,
    (∀ index < last, (course script opts visit).decides index = false) →
    (course script opts visit).decides last = true →
    ∃ rest after, (∀ move ∈ rest, move.isOwn = true) ∧
      play (act (scripted script) opts) rest e = some after ∧ after.current = none ∧
      after.past = e.past ++ [{
        begun := visit.begun
        ended := (course script opts visit).answerAt last
        calls := (course script opts visit).callsTo (last + 1)
        result := ((course script opts visit).cue last).answer.result }]
  /-- After the stop it ends with nothing before any time passes. -/
  givesUp : ∀ moment ∈ e.stopped, ∀ visit ∈ e.current, act (scripted script) opts .tick e = none ∧
    ∀ draw, ∃ after, act (scripted script) opts (.go draw) e = some after ∧
      after.clock = e.clock ∧ after.current = none ∧
      after.past = e.past ++ [⟨visit.begun, e.clock, e.calls.made.drop visit.first, none⟩]
  /-- After the stop the schedule function is neither called nor taken further: whatever it does,
  the requests are the same. -/
  silent : ∀ moment ∈ e.stopped, ∀ policy, Spares policy → ∀ moves,
    play (act policy opts) moves e = play (act (scripted script) opts) moves e ∧
      ∀ after ∈ play (act policy opts) moves e, after.calls = e.calls

theorem Sound.followsScript (sound : e.Sound script opts) : e.FollowsScript script opts where
  told := sound.told
  vacant := sound.vacant
  onCourse := by
    intro visit current
    obtain ⟨own, underway⟩ := sound.underway visit current
    obtain ⟨count, rfl, reaches⟩ := underway.stands.reaches
    exact ⟨underway.first.symm, count, underway.made, reaches⟩
  goesOn := by
    intro stopped visit current last pending few
    obtain ⟨own, underway⟩ := sound.underway visit current
    rw [underway.made, List.length_append] at few
    obtain ⟨rest, after, request, all, played, _, _, _, past, underway, clock⟩ :=
      sound.exists_answer current stopped underway pending
        (Course.Ahead.of_length_le (Nat.le_of_add_le_add_left few))
    refine ⟨rest, after, all, played, ?_, clock⟩
    rw [underway.made, spent, past, spent]
  returns := by
    intro stopped visit current last
    exact sound.exists_return current stopped
  givesUp := by
    intro moment stopped visit current
    have goes (draw : Float) : e.goes (scripted script) opts draw = _ :=
      goes_of_stopped spares_scripted current stopped draw
    refine ⟨?_, fun draw => ⟨_, goes draw, rfl, rfl, rfl⟩⟩
    rw [Enquiry.act, goes]
    rfl
  silent := by
    intro moment stopped policy spares moves
    exact play_of_stopped moves spares stopped

/-- **Requests for jobs follow their schedule function**, stopped or not, if the bounds of the idle
delay are equal.  The bound is one that stays below `2 ^ 64` seconds as a double. -/
theorem follows_script (script : Nat → Cue J) (equal : opts.idleGreatest = opts.idleLeast)
    {moves : List EnquiryMove} (played : play (act (scripted script) opts) moves {} = some e) :
    e.FollowsScript script opts ∧ (opts.idleLeast.secs < 2 ^ 23 → opts.pause = opts.idleLeast) := by
  have sound : e.Sound script opts :=
    play_keeps (fun _ _ _ _ sound moved => sound.act equal moved) (fun _ _ => trivial) sound_start
      played
  exact ⟨sound.followsScript, toDuration_ofDuration⟩

/-- Nothing is ready at first, and a job is found at the second call; the second request is stopped
while it idles, and a third one comes too late. -/
def errands : List EnquiryMove :=
  [.next, .go 0, .tick, .tick, .go 0, .tick, .tick, .tick, .tick, .go 0, .go 0, .tick, .go 0,
    .next, .go 0, .go 0, .tick, .stop, .go 0, .next, .go 0]

def errandScript (index : Nat) : Cue String :=
  [⟨.notReady, 2⟩, ⟨.job "update", 1⟩].getD index ⟨.notReady, 0⟩

def errandOpts : SchedulerOpts where
  idleLeast := .ofMillis 4
  idleGreatest := .ofMillis 4

theorem errands_account :
    (play (act (scripted errandScript) errandOpts) errands {}).map
        (fun e => (e.past, e.calls, e.stopped)) =
      some ([⟨0, 7, [0, 6], some "update"⟩, ⟨7, 8, [7], none⟩, ⟨8, 8, [], none⟩],
        ⟨[0, 6, 7], [2, 7, 7]⟩, some 8) := by
  decide +kernel

theorem follows_script_errands :
    errandOpts.idleGreatest = errandOpts.idleLeast ∧
    ∃ e, play (act (scripted errandScript) errandOpts) errands {} = some e ∧
      e.past = [⟨0, 7, [0, 6], some "update"⟩, ⟨7, 8, [7], none⟩, ⟨8, 8, [], none⟩] ∧
      e.calls = ⟨[0, 6, 7], [2, 7, 7]⟩ ∧ e.stopped = some 8 ∧
      e.FollowsScript errandScript errandOpts ∧
      errandOpts.idleLeast.secs < 2 ^ 23 ∧ errandOpts.pause = errandOpts.idleLeast := by
  obtain ⟨e, played, account⟩ := Option.map_eq_some_iff.mp errands_account
  injection account with past account
  injection account with calls stopped
  obtain ⟨follows, exact_of_short⟩ := follows_script errandScript rfl played
  have short : errandOpts.idleLeast.secs < 2 ^ 23 := by decide
  exact ⟨rfl, e, played, past, calls, stopped, follows, short, exact_of_short short⟩

/-- Nothing is ready at first, then there is a job. -/
def remoteScript (index : Nat) : Cue String :=
  [⟨.notReady, 0⟩].getD index ⟨.job "update", 0⟩

/-- An idle delay of more than 97 days. -/
def remoteOpts : SchedulerOpts where
  idleLeast := .ofMillis 8388608004
  idleGreatest := .ofMillis 8388608004

/-- **A long idle delay is not exact**: it is a nanosecond longer as a double, so that the second
call comes a millisecond late. -/
theorem long_delay_is_longer :
    remoteOpts.idleGreatest = remoteOpts.idleLeast ∧
    remoteOpts.idleLeast.coverMillis = 8388608004 ∧
    ∃ moves e, play (act (scripted remoteScript) remoteOpts) moves {} = some e ∧
      e.past = [⟨0, 8388608005, [0, 8388608005], some "update"⟩] := by
  have asked : Enquiry.act (scripted remoteScript) remoteOpts .next {} =
      some { current := some ⟨0, 0, .start remoteOpts⟩ } := rfl
  have pending : ∀ index < 1,
      (course remoteScript remoteOpts ⟨0, 0, .start remoteOpts⟩).decides index = false := by
    decide
  obtain ⟨rest, e, _, played, _, past⟩ :=
    (sound_start.next rfl asked).exists_return rfl rfl pending rfl
  refine ⟨rfl, by decide, .next :: rest, e, Option.bind_eq_some_iff.mpr ⟨_, asked, played⟩, ?_⟩
  have delay : remoteOpts.pause.coverMillis = 8388608005 := by decide +kernel
  have second : (course remoteScript remoteOpts ⟨0, 0, .start remoteOpts⟩).callAt 1 =
      8388608005 := by
    rw [← delay]
    exact Nat.zero_add _
  rw [past, Course.answerAt, Course.callsTo_succ, second]
  rfl

end Enquiry

end RepoCollector
