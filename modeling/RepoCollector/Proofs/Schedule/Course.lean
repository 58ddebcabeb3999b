import RepoCollector.Proofs.Number.Seconds
import RepoCollector.Proofs.Schedule.Dispatch

/-! # A request for a job and a script

The schedule function is whatever the scheduler is given.  Here it answers by a script, which has an
answer for every call and says how long it takes for it, and it keeps a record of the calls.  The
course of a request is what the script makes of it: when each call is made and answered, which
answer ends the request (`RepoCollector.Course.decides`), and what becomes of it if the scheduler is
stopped (`RepoCollector.Course.Follows`).

Where the bounds of the idle delay are equal, a request stands where its course says, or goes on to
where its course says, or ends with the first answer that decides
(`RepoCollector.Course.Stands.next`).
-/

namespace RepoCollector

/-- The idle delay where the bounds are equal. -/
def SchedulerOpts.pause (opts : SchedulerOpts) : Duration :=
  Seconds.toDuration (Seconds.ofDuration opts.idleLeast : Float)

/-- What the schedule function answers to a call, and how long it takes. -/
structure Cue (J : Type) where
  answer : Scheduled J
  delay : Nat := 0

/-- What a request ends with. -/
def Scheduled.result {J : Type} : Scheduled J → Option J
  | .job found => some found
  | .notReady | .exhausted => none

/-- When the schedule function was called, and when it answered. -/
structure Calls where
  made : List Instant := []
  answered : List Instant := []
deriving DecidableEq

/-- A call that is not answered yet. -/
structure Awaited (J : Type) where
  answer : Scheduled J
  readyAt : Instant

/-- The schedule function that answers by a script. -/
def scripted {J : Type} (script : Nat → Cue J) : Policy Calls (Awaited J) J where
  start now calls :=
    let cue := script calls.made.length
    ({ calls with made := calls.made ++ [now] }, ⟨cue.answer, now + cue.delay⟩)
  step now _ awaited calls :=
    if awaited.readyAt ≤ now then
      some ({ calls with answered := calls.answered ++ [now] }, .inr awaited.answer)
    else none
  abandon _ _ calls := calls
  deadline? awaited := some awaited.readyAt

/-! ## What the script says -/

/-- What a request for a job is told to do: the script from some place on, the settings, and when
the request begins. -/
structure Course (J : Type) where
  script : Nat → Cue J
  opts : SchedulerOpts
  first : Nat
  begun : Instant

/-- A request that has ended. -/
structure Enquired (J : Type) where
  begun : Instant
  ended : Instant
  calls : List Instant
  result : Option J
deriving DecidableEq

namespace Course

variable {J : Type} (course : Course J)

def cue (index : Nat) : Cue J := course.script (course.first + index)

/-- When a call is made, counted from the first one. -/
def callAt : Nat → Instant
  | 0 => course.begun
  | index + 1 => callAt index + (course.cue index).delay + course.opts.pause.coverMillis

/-- When a call is answered. -/
def answerAt (index : Nat) : Instant := course.callAt index + (course.cue index).delay

/-- The calls that come first. -/
def callsTo (count : Nat) : List Instant := (List.range count).map course.callAt

/-- Whether an answer ends the request. -/
def decides (index : Nat) : Bool :=
  match (course.cue index).answer with
  | .notReady => course.opts.notWait
  | .job _ | .exhausted => true

/-- How far the request has come at a moment.  It has made some calls, none of them after the
moment, and all that were to be made before it; and no answer before the moment has ended it. -/
structure Reaches (moment : Instant) (count : Nat) : Prop where
  early : ∀ index < count, course.callAt index ≤ moment
  late : moment ≤ course.callAt count
  undecided : ∀ index < count, course.decides index = true → moment ≤ course.answerAt index

/-- **What becomes of a request**, given when the scheduler is stopped, if it is. -/
inductive Follows (stopped : Option Instant) : Enquired J → Prop where
  /-- The request ends with the first answer that decides. -/
  | decided {count : Nat} (pending : ∀ index < count, course.decides index = false)
      (decisive : course.decides count = true)
      (inTime : ∀ moment ∈ stopped, course.answerAt count ≤ moment) :
      Follows stopped {
        begun := course.begun
        ended := course.answerAt count
        calls := course.callsTo (count + 1)
        result := (course.cue count).answer.result }
  /-- The request ends when the scheduler is stopped, or at once if it was stopped before. -/
  | stopped {moment : Instant} {count : Nat} (stop : stopped = some moment)
      (reaches : course.Reaches moment count) :
      Follows stopped {
        begun := course.begun
        ended := max course.begun moment
        calls := course.callsTo count
        result := none }

variable {course}

@[simp]
theorem length_callsTo (count : Nat) : (course.callsTo count).length = count := by
  rw [callsTo, List.length_map, List.length_range]

theorem callsTo_succ (count : Nat) :
    course.callsTo (count + 1) = course.callsTo count ++ [course.callAt count] := by
  rw [callsTo, List.range_succ, List.map_append]
  rfl

theorem decides_eq_false_iff {index : Nat} : course.decides index = false ↔
    (course.cue index).answer = .notReady ∧ course.opts.notWait = false := by
  unfold decides
  cases (course.cue index).answer with
  | notReady => exact (and_iff_right rfl).symm
  | job | exhausted => exact iff_of_false nofun nofun

theorem le_of_decides {count last : Nat} (pending : ∀ index < count, course.decides index = false)
    (decisive : course.decides last = true) : count ≤ last := by
  by_contra before
  rw [pending last (Nat.lt_of_not_le before)] at decisive
  cases decisive

theorem answerAt_le (index : Nat) : course.answerAt index ≤ course.callAt (index + 1) :=
  Nat.le_add_right _ _

theorem callAt_mono {index count : Nat} (earlier : index ≤ count) :
    course.callAt index ≤ course.callAt count := by
  induction earlier with
  | refl => exact Nat.le_refl _
  | step _ ih => exact ih.trans ((Nat.le_add_right _ _).trans (answerAt_le _))

end Course

/-! ## One request -/

namespace Course

variable {J : Type} {course : Course J}

/-- Where a request stands before the stop, with the calls that it has made. -/
inductive Stands (course : Course J) (clock : Instant) :
    List Instant → RequestPhase (Awaited J) → Prop where
  | asking {count : Nat} (pending : ∀ index < count, course.decides index = false)
      (now : clock = course.callAt count) :
      Stands course clock (course.callsTo count) .asking
  | attempting {count : Nat} (pending : ∀ index < count, course.decides index = false)
      (since : course.callAt count ≤ clock) (inTime : clock ≤ course.answerAt count) :
      Stands course clock (course.callsTo (count + 1))
        (.attempting ⟨(course.cue count).answer, course.answerAt count⟩)
  | idling {count : Nat} (pending : ∀ index < count + 1, course.decides index = false)
      (since : course.answerAt count ≤ clock) (inTime : clock ≤ course.callAt (count + 1)) :
      Stands course clock (course.callsTo (count + 1)) (.idling (course.callAt (count + 1)))

/-- Wherever a request stands, it has come as far as it should. -/
theorem Stands.reaches {clock : Instant} {calls : List Instant} {phase : RequestPhase (Awaited J)}
    (stands : course.Stands clock calls phase) :
    ∃ count, calls = course.callsTo count ∧ course.Reaches clock count := by
  cases stands with
  | @asking count pending now =>
      refine ⟨count, rfl, ?_, now.le, ?_⟩
      · intro index earlier
        rw [now]
        exact callAt_mono earlier.le
      · intro index earlier decides
        rw [pending index earlier] at decides
        cases decides
  | @attempting count pending since inTime =>
      refine ⟨count + 1, rfl, ?_, inTime.trans (answerAt_le count), ?_⟩
      · intro index earlier
        exact (callAt_mono (Nat.le_of_lt_succ earlier)).trans since
      · intro index earlier decides
        obtain before | rfl := (Nat.le_of_lt_succ earlier).lt_or_eq
        · rw [pending index before] at decides
          cases decides
        · exact inTime
  | @idling count pending since inTime =>
      refine ⟨count + 1, rfl, ?_, inTime, ?_⟩
      · intro index earlier
        exact (callAt_mono (Nat.le_of_lt_succ earlier)).trans ((Nat.le_add_right _ _).trans since)
      · intro index earlier decides
        rw [pending index earlier] at decides
        cases decides

/-- The answer with this number is still to come. -/
def Ahead (last : Nat) (calls : List Instant) : RequestPhase (Awaited J) → Prop
  | .asking | .idling _ => calls.length ≤ last
  | .attempting _ => calls.length ≤ last + 1

/-- The steps of a request that are left, at most, until the answer with this number is there. -/
def effort (last : Nat) (calls : List Instant) : RequestPhase (Awaited J) → Nat
  | .asking => 3 * (last + 1 - calls.length)
  | .attempting _ => 3 * (last + 1 - calls.length) + 2
  | .idling _ => 3 * (last + 1 - calls.length) + 1

theorem Ahead.length_le {last : Nat} {calls : List Instant} {phase : RequestPhase (Awaited J)}
    (ahead : Ahead last calls phase) : calls.length ≤ last + 1 := by
  cases phase with
  | attempting _ => exact ahead
  | asking | idling _ => exact Nat.le_succ_of_le ahead

theorem Ahead.of_length_le {last : Nat} {calls : List Instant} {phase : RequestPhase (Awaited J)}
    (few : calls.length ≤ last) : Ahead last calls phase := by
  cases phase with
  | attempting _ => exact Nat.le_succ_of_le few
  | asking | idling _ => exact few

theorem Ahead.two_le_effort {last : Nat} {calls : List Instant} {phase : RequestPhase (Awaited J)}
    (ahead : Ahead last calls phase) : 2 ≤ effort last calls phase := by
  cases phase <;> simp only [Ahead, effort] at ahead ⊢ <;> omega

theorem effort_le_two {last : Nat} {calls : List Instant} (made : calls.length = last + 1)
    (phase : RequestPhase (Awaited J)) : effort last calls phase ≤ 2 := by
  cases phase <;> simp only [effort] <;> omega

/-- As long as an answer that decides is not there, it is still to come. -/
theorem Stands.ahead {clock : Instant} {calls : List Instant} {phase : RequestPhase (Awaited J)}
    {last : Nat} (stands : course.Stands clock calls phase)
    (decisive : course.decides last = true) : Ahead last calls phase := by
  cases stands with
  | asking pending _ =>
      rw [Ahead, length_callsTo]
      exact le_of_decides pending decisive
  | attempting pending _ _ =>
      rw [Ahead, length_callsTo]
      exact Nat.succ_le_succ (le_of_decides pending decisive)
  | idling pending _ _ =>
      rw [Ahead, length_callsTo]
      exact le_of_decides pending decisive

/-- The delays of a backoff lie between equal bounds. -/
def Steady (opts : SchedulerOpts) (backoff : Backoff Float) : Prop :=
  backoff.least = opts.idleLeast ∧ backoff.greatest = opts.idleLeast

theorem Steady.next {opts : SchedulerOpts} {backoff : Backoff Float} (steady : Steady opts backoff)
    (draw : Float) :
    backoff.next (some draw) = (opts.pause, backoff.advanced) ∧ Steady opts backoff.advanced := by
  obtain ⟨least, greatest⟩ := steady
  have delay := Backoff.next_fst_of_equal (greatest.trans least.symm) (some draw)
  rw [least] at delay
  exact ⟨Prod.ext delay rfl, least, greatest⟩

section Step

variable {clock : Instant} {before own : List Instant} {request : JobRequest (Awaited J)}
  {calls : Calls}

/-- The request has to wait. -/
def Waits (course : Course J) (clock : Instant) (request : JobRequest (Awaited J)) (calls : Calls) :
    Prop :=
  ∀ draw, request.step (scripted course.script) course.opts false clock (.task 0) draw calls = none

/-- The request goes on, whatever the draw. -/
def GoesOn (course : Course J) (clock : Instant) (request : JobRequest (Awaited J)) (calls : Calls)
    (after : Calls) (outcome : JobRequest (Awaited J) ⊕ Option J) : Prop :=
  ∀ draw, request.step (scripted course.script) course.opts false clock (.task 0) draw calls =
    some (after, outcome)

/-- What a request does next, where `before` are the calls before it and `own` its own ones: it has
to wait, or it goes on and stands where it should, or it ends with the first answer that decides. -/
inductive Next (course : Course J) (clock : Instant) (before own : List Instant)
    (request : JobRequest (Awaited J)) (calls : Calls) : Prop where
  | waits (waits : course.Waits clock request calls)
      (stands : course.Stands (clock + 1) own request.phase)
  | goesOn {after : Calls} {next : JobRequest (Awaited J)} {later : List Instant}
      (goes : course.GoesOn clock request calls after (.inl next))
      (made : after.made = before ++ later) (stands : course.Stands clock later next.phase)
      (steady : Steady course.opts next.idle)
      (closer : ∀ last, Ahead last own request.phase →
        effort last later next.phase < effort last own request.phase ∧
          (own.length = last + 1 ∧ clock = course.answerAt last ∨ Ahead last later next.phase))
  | ends {after : Calls} {count : Nat}
      (goes : course.GoesOn clock request calls after (.inr (course.cue count).answer.result))
      (all : own = course.callsTo (count + 1)) (made : after.made = calls.made)
      (now : clock = course.answerAt count)
      (pending : ∀ index < count, course.decides index = false)
      (decisive : course.decides count = true)

variable {idle : Backoff Float} {count : Nat}

/-- The call is made. -/
theorem next_of_asking (steady : Steady course.opts idle)
    (made : calls.made = before ++ course.callsTo count) (first : before.length = course.first)
    (pending : ∀ index < count, course.decides index = false) :
    course.Next (course.callAt count) before (course.callsTo count) ⟨idle, .asking⟩ calls := by
  have number : calls.made.length = course.first + count := by
    rw [made, List.length_append, first, length_callsTo]
  have goes : course.GoesOn (course.callAt count) ⟨idle, .asking⟩ calls
      { calls with made := calls.made ++ [course.callAt count] }
      (.inl ⟨idle, .attempting ⟨(course.cue count).answer, course.answerAt count⟩⟩) := by
    intro draw
    simp only [JobRequest.step, scripted, number]
    rfl
  have more : calls.made ++ [course.callAt count] = before ++ course.callsTo (count + 1) := by
    rw [made, callsTo_succ, List.append_assoc]
  refine .goesOn goes more (.attempting pending (Nat.le_refl _) (Nat.le_add_right _ _)) steady ?_
  intro last ahead
  simp only [Ahead, effort, length_callsTo] at ahead ⊢
  omega

/-- The answer is there. -/
theorem next_of_answer (steady : Steady course.opts idle)
    (made : calls.made = before ++ course.callsTo (count + 1))
    (pending : ∀ index < count, course.decides index = false) :
    course.Next (course.answerAt count) before (course.callsTo (count + 1))
      ⟨idle, .attempting ⟨(course.cue count).answer, course.answerAt count⟩⟩ calls := by
  let after := { calls with answered := calls.answered ++ [course.answerAt count] }
  cases decides : course.decides count with
  | false =>
      have goes : course.GoesOn (course.answerAt count)
          ⟨idle, .attempting ⟨(course.cue count).answer, course.answerAt count⟩⟩ calls after
          (.inl ⟨idle.advanced, .idling (course.callAt (count + 1))⟩) := by
        intro draw
        obtain ⟨unready, waits⟩ := decides_eq_false_iff.mp decides
        simp only [JobRequest.step, scripted, unready, waits, (steady.next draw).1, le_refl,
          Bool.false_eq_true, ↓reduceIte]
        rfl
      have still : ∀ index < count + 1, course.decides index = false := by
        intro index earlier
        obtain before | rfl := (Nat.le_of_lt_succ earlier).lt_or_eq
        · exact pending index before
        · exact decides
      refine .goesOn goes made (.idling still (Nat.le_refl _) (answerAt_le count))
        (steady.next 0).2 ?_
      intro last ahead
      refine ⟨Nat.lt_succ_self _, ?_⟩
      rw [Ahead, length_callsTo] at ahead
      obtain before | rfl := (Nat.le_of_succ_le_succ ahead).lt_or_eq
      · right
        rw [Ahead, length_callsTo]
        exact before
      · exact .inl ⟨length_callsTo _, rfl⟩
  | true =>
      have goes : course.GoesOn (course.answerAt count)
          ⟨idle, .attempting ⟨(course.cue count).answer, course.answerAt count⟩⟩ calls after
          (.inr (course.cue count).answer.result) := by
        intro draw
        unfold Course.decides at decides
        cases answer : (course.cue count).answer with
        | job | exhausted =>
            simp only [JobRequest.step, scripted, le_refl, Bool.false_eq_true, ↓reduceIte]
            rfl
        | notReady =>
            rw [answer] at decides
            simp only [JobRequest.step, scripted, decides, le_refl, Bool.false_eq_true, ↓reduceIte]
            rfl
      exact .ends goes rfl rfl rfl pending decides

/-- **How a request goes on before the stop.** -/
theorem Stands.next (stands : course.Stands clock own request.phase)
    (steady : Steady course.opts request.idle) (made : calls.made = before ++ own)
    (first : before.length = course.first) : course.Next clock before own request calls := by
  obtain ⟨idle, phase⟩ := request
  cases stands with
  | asking pending now =>
      subst now
      exact next_of_asking steady made first pending
  | @attempting count pending since inTime =>
      by_cases ready : course.answerAt count ≤ clock
      · obtain rfl := Nat.le_antisymm inTime ready
        exact next_of_answer steady made pending
      · refine .waits ?_
          (.attempting pending (since.trans (Nat.le_succ _)) (Nat.lt_of_not_le ready))
        intro draw
        simp only [JobRequest.step, scripted, ready, Bool.false_eq_true, ↓reduceIte]
  | @idling count pending since inTime =>
      by_cases awake : course.callAt (count + 1) ≤ clock
      · obtain rfl := Nat.le_antisymm inTime awake
        have goes : course.GoesOn (course.callAt (count + 1))
            ⟨idle, .idling (course.callAt (count + 1))⟩ calls calls (.inl ⟨idle, .asking⟩) := by
          intro draw
          simp only [JobRequest.step, Bool.false_eq_true, le_refl, ↓reduceIte]
        exact .goesOn goes made (.asking pending rfl) steady
          fun last ahead => ⟨Nat.lt_succ_self _, .inr ahead⟩
      · refine .waits ?_ (.idling pending (since.trans (Nat.le_succ _)) (Nat.lt_of_not_le awake))
        intro draw
        simp only [JobRequest.step, awake, Bool.false_eq_true, ↓reduceIte]

end Step

theorem stands_start (course : Course J) : course.Stands course.begun [] .asking := by
  have none : ∀ index < 0, course.decides index = false :=
    fun index earlier => absurd earlier (Nat.not_lt_zero index)
  exact @Stands.asking J course course.begun 0 none rfl

theorem Stands.begun_le {clock : Instant} {own : List Instant} {phase : RequestPhase (Awaited J)}
    (stands : course.Stands clock own phase) : course.begun ≤ clock := by
  have first (count : Nat) : course.begun ≤ course.callAt count := callAt_mono (Nat.zero_le count)
  cases stands with
  | asking _ now => exact now ▸ first _
  | attempting _ since _ => exact (first _).trans since
  | idling _ since _ => exact (first _).trans ((Nat.le_add_right _ _).trans since)

theorem answerAt_mono {index count : Nat} (earlier : index ≤ count) :
    course.answerAt index ≤ course.answerAt count := by
  obtain before | rfl := earlier.lt_or_eq
  · exact (answerAt_le index).trans ((callAt_mono before).trans (Nat.le_add_right _ _))
  · exact Nat.le_refl _

/-- Time does not pass an answer that is still to come. -/
theorem Stands.le_answerAt {clock : Instant} {own : List Instant} {last : Nat}
    {phase : RequestPhase (Awaited J)} (stands : course.Stands clock own phase)
    (ahead : Ahead last own phase) : clock ≤ course.answerAt last := by
  cases stands with
  | asking _ now =>
      rw [Ahead, length_callsTo] at ahead
      rw [now]
      exact (Nat.le_add_right _ _).trans (answerAt_mono ahead)
  | attempting _ _ inTime =>
      rw [Ahead, length_callsTo] at ahead
      exact inTime.trans (answerAt_mono (Nat.le_of_succ_le_succ ahead))
  | idling _ _ inTime =>
      rw [Ahead, length_callsTo] at ahead
      exact inTime.trans ((callAt_mono ahead).trans (Nat.le_add_right _ _))

/-- A stop that comes after the end of a request does not matter to it. -/
theorem Follows.stop {enquired : Enquired J} {moment : Instant}
    (follows : course.Follows none enquired) (before : enquired.ended ≤ moment) :
    course.Follows (some moment) enquired := by
  cases follows with
  | decided pending decisive _ =>
      refine .decided pending decisive ?_
      rintro _ ⟨⟩
      exact before
  | stopped stop _ => cases stop

end Course

end RepoCollector
