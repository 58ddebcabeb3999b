import RepoCollector.Proofs.Play
import RepoCollector.Proofs.Schedule.Dispatch

/-! # Sharing between the lanes

Both lanes are read by one attempt at a time, while senders come and go.  A service keeps, beside
the lanes, which lane every job was taken from and whether the other lane held a job at that moment.

Nobody but the attempt in progress waits at the lanes, so a look at a lane finds the job at its head
whenever there is one (`RepoCollector.Lanes.Watched`).  Hence the lane that gives a job although the
other one could is decided by the length of the present run of downloads alone, and neither lane is
put off for long (`RepoCollector.Service.shares_lanes`).
-/

namespace RepoCollector

def JobKind.other : JobKind → JobKind
  | .download => .update
  | .update => .download

theorem JobKind.other_ne (lane : JobKind) : lane.other ≠ lane := by
  cases lane <;> decide

/-- A job that an attempt has taken. -/
structure Take where
  lane : JobKind
  /-- Whether the other lane held a job as well. -/
  contended : Bool
deriving DecidableEq

/-- How many downloads were taken since the last update. -/
def downloadRun (taken : List Take) : Nat :=
  (taken.reverse.takeWhile (·.lane = .download)).length

/-- The two lanes, the attempt in progress, and what the attempts took. -/
structure Service where
  lanes : Lanes
  attempt : Option Attempt := none
  /-- The first one first. -/
  taken : List Take := []

inductive ServiceMove where
  /-- An attempt begins if none is in progress. -/
  | begin (now : Instant)
  | step (now : Instant)
  | abandon
  /-- A sender tries for the first time. -/
  | offer (lane : JobKind) (sender : Client) (job : LibraryJob)
  /-- A sender that waits tries again. -/
  | retry (lane : JobKind) (sender : Client) (job : LibraryJob)
  | withdraw (lane : JobKind) (sender : Client)
  | close (lane : JobKind)

namespace Lanes

def contended (lanes : Lanes) (lane : JobKind) : Bool :=
  !(lanes.queue lane.other).items.isEmpty

end Lanes

namespace Service

/-- The job that a step took, by the work that was attached to it. -/
def takes (lanes : Lanes) : Attempt ⊕ Scheduled LibraryJob → List Take
  | .inr (.job job) => job.work.toList.map fun lane => ⟨lane, lanes.contended lane⟩
  | _ => []

def setQueue (s : Service) (lane : JobKind) (q : JobQueue LibraryJob) : Service :=
  { s with lanes := s.lanes.setQueue lane q }

def act (client : Client) (move : ServiceMove) (s : Service) : Option Service :=
  match move with
  | .begin now =>
    match s.attempt with
    | none => some { s with attempt := some (.start now s.lanes) }
    | some _ => none
  | .step now =>
    match s.attempt with
    | none => none
    | some attempt => (attempt.step now client s.lanes).map fun (lanes, outcome) =>
        { lanes, attempt := outcome.getLeft?, taken := s.taken ++ takes s.lanes outcome }
  | .abandon =>
    match s.attempt with
    | none => none
    | some attempt => some { s with lanes := attempt.abandon client s.lanes, attempt := none }
  | .offer lane sender job =>
    some (s.setQueue lane ((s.lanes.queue lane).startSend sender job).1)
  | .retry lane sender job =>
    some (s.setQueue lane ((s.lanes.queue lane).resumeSend sender job).1)
  | .withdraw lane sender => some (s.setQueue lane ((s.lanes.queue lane).abandonSend sender))
  | .close lane => some (s.setQueue lane (s.lanes.queue lane).close)

end Service

/-! ## Who waits at a queue -/

namespace JobQueue

variable {α : Type}

/-- The clients that wait for something to be buffered. -/
def watchers (q : JobQueue α) : List Client := q.available.line

theorem watchers_finishSend (q : JobQueue α) (job : α) (permit : Permit) :
    (q.finishSend job permit).1.watchers = q.watchers := by
  cases permit with
  | taken => exact q.available.line_release
  | notNow => rfl
  | refused => rfl

theorem watchers_startSend (q : JobQueue α) (sender : Client) (job : α) :
    (q.startSend sender job).1.watchers = q.watchers := by
  unfold startSend
  split
  · rfl
  · exact watchers_finishSend _ job _

theorem watchers_resumeSend (q : JobQueue α) (sender : Client) (job : α) :
    (q.resumeSend sender job).1.watchers = q.watchers :=
  watchers_finishSend _ job _

theorem watchers_tryRecv (q : JobQueue α) : q.tryRecv.1.watchers = q.watchers := by
  rcases q.available.tryAcquire_cases with ⟨_, tried⟩ | ⟨_, _, tried⟩ | ⟨_, _, _, tried⟩ <;>
    cases some : q.items <;> simp only [tryRecv, tried, pop, some] <;> rfl

theorem watchers_abandonReady (q : JobQueue α) (client : Client) :
    (q.abandonReady client).watchers = q.watchers.erase client :=
  q.available.line_abandon client

/-- A client joins those that wait if it finds nothing. -/
theorem watchers_startReady (q : JobQueue α) (client : Client) :
    (q.startReady client).1.watchers =
      q.watchers ++ if (q.startReady client).2 then [] else [client] := by
  have line := q.available.line_acquire client
  unfold startReady
  generalize q.available.acquire client = told at line ⊢
  obtain ⟨available, permit⟩ := told
  cases permit with
  | taken => exact available.line_release.trans line
  | notNow => exact line
  | refused => exact line

/-- Where nobody waits, every buffered job has a free permit, so a receiver that is told that there
is nothing is told the truth. -/
theorem Balanced.items_of_empty {q : JobQueue α} (balanced : q.Balanced) (alone : q.watchers = [])
    (told : q.tryRecv = (q, .empty)) : q.items = [] := by
  have nobody : q.available.granted = [] := (List.append_eq_nil_iff.mp alone).1
  rcases q.available.tryAcquire_cases with ⟨_, tried⟩ | ⟨opened, none, _⟩ | ⟨_, _, _, tried⟩
  · cases items : q.items with
    | nil => rfl
    | cons job rest => simp [tryRecv, tried, pop, items] at told
  · have jobs := balanced.jobs (balanced.together.symm.trans opened)
    rw [Semaphore.supply, none, nobody] at jobs
    exact List.length_eq_zero_iff.mp jobs.symm
  · cases items : q.items with
    | nil => rfl
    | cons job rest => simp [tryRecv, tried, pop, items] at told

end JobQueue

/-! ## Looking at the lanes -/

namespace Lanes

/-- Nobody waits for something to arrive at a lane. -/
def Unattended (lanes : Lanes) : Prop := ∀ lane, (lanes.queue lane).watchers = []

/-- Nobody waits at the lanes but the client of the attempt in progress, and it only while it is
parked. -/
def Watched (client : Client) (parked : Bool) (lanes : Lanes) : Prop :=
  ∀ lane, (lanes.queue lane).watchers = [] ∨
    parked = true ∧ (lanes.queue lane).watchers = [client]

theorem Watched.unattended {client : Client} {lanes : Lanes}
    (watched : lanes.Watched client false) : lanes.Unattended := by
  intro lane
  rcases watched lane with none | ⟨parked, _⟩
  · exact none
  · cases parked

theorem Unattended.watched {lanes : Lanes} (unattended : lanes.Unattended) (client : Client)
    (parked : Bool) : lanes.Watched client parked :=
  fun lane => Or.inl (unattended lane)

theorem Watched.setQueue {client : Client} {parked : Bool} {lanes : Lanes}
    (watched : lanes.Watched client parked) {lane : JobKind} {q : JobQueue LibraryJob}
    (same : q.watchers = (lanes.queue lane).watchers) :
    (lanes.setQueue lane q).Watched client parked := by
  intro other
  by_cases equal : other = lane
  · subst equal
    rw [queue_setQueue_self, same]
    exact watched other
  · rw [queue_setQueue_of_ne lanes equal]
    exact watched other

/-- The same rule by which the lanes are asked. -/
structure SameRule (before after : Lanes) : Prop where
  reads : after.reads = before.reads
  maxStreak : after.maxStreak = before.maxStreak
  streak : after.streak = before.streak

theorem SameRule.refl (lanes : Lanes) : lanes.SameRule lanes := ⟨rfl, rfl, rfl⟩

theorem SameRule.trans {first middle last : Lanes} (one : first.SameRule middle)
    (two : middle.SameRule last) : first.SameRule last :=
  ⟨two.reads.trans one.reads, two.maxStreak.trans one.maxStreak, two.streak.trans one.streak⟩

theorem sameRule_setQueue (lanes : Lanes) (lane : JobKind) (q : JobQueue LibraryJob) :
    lanes.SameRule (lanes.setQueue lane q) := by
  cases lane <;> exact ⟨rfl, rfl, rfl⟩

theorem unpark_sameRule (client : Client) (lanes : Lanes) :
    lanes.SameRule (lanes.unpark client) := by
  unfold unpark
  generalize lanes.reads.kinds = kinds
  induction kinds generalizing lanes with
  | nil => exact .refl lanes
  | cons kind kinds ih => exact (lanes.sameRule_setQueue kind _).trans (ih _)

theorem parkAt_sameRule (client : Client) (kinds : List JobKind) (lanes : Lanes) :
    lanes.SameRule (lanes.parkAt client kinds).1 := by
  induction kinds generalizing lanes with
  | nil => exact .refl lanes
  | cons kind kinds ih =>
      unfold parkAt
      split
      · exact ih lanes
      · exact (lanes.sameRule_setQueue kind _).trans (ih _)

/-- Lining up at some lanes leaves the others alone. -/
theorem queue_parkAt (client : Client) {kinds : List JobKind} {other : JobKind}
    (left : other ∉ kinds) (lanes : Lanes) :
    (lanes.parkAt client kinds).1.queue other = lanes.queue other := by
  induction kinds generalizing lanes with
  | nil => rfl
  | cons kind kinds ih =>
      obtain ⟨different, left⟩ := List.ne_and_not_mem_of_not_mem_cons left
      unfold parkAt
      split
      · exact ih left lanes
      · exact (ih left _).trans (queue_setQueue_of_ne lanes different _)

private theorem watchers_parkAt (client : Client) {kinds : List JobKind} (once : kinds.Nodup)
    (lanes : Lanes) {lane : JobKind} (alone : (lanes.queue lane).watchers = []) :
    ((lanes.parkAt client kinds).1.queue lane).watchers = [] ∨
      ((lanes.parkAt client kinds).1.queue lane).watchers = [client] := by
  induction kinds generalizing lanes with
  | nil => exact Or.inl alone
  | cons kind kinds ih =>
      obtain ⟨fresh, once⟩ := List.nodup_cons.mp once
      unfold parkAt
      split
      · exact ih once lanes alone
      · by_cases same : lane = kind
        · subst same
          have joined := (lanes.queue lane).watchers_startReady client
          rw [alone, List.nil_append] at joined
          dsimp only
          rw [queue_parkAt client fresh, queue_setQueue_self, joined]
          split
          · exact Or.inl rfl
          · exact Or.inr rfl
        · apply ih once
          rw [queue_setQueue_of_ne lanes same]
          exact alone

theorem kinds_nodup (choice : LaneChoice) : choice.kinds.Nodup := by
  cases choice <;> decide

theorem Unattended.parkAt {lanes : Lanes} (unattended : lanes.Unattended) (client : Client) :
    (lanes.parkAt client lanes.reads.kinds).1.Watched client true := by
  intro lane
  have lined := watchers_parkAt client (kinds_nodup lanes.reads) lanes (unattended lane)
  exact lined.imp_right (And.intro rfl)

private theorem watchers_unpark (client : Client) {kinds : List JobKind} (lanes : Lanes)
    {lane : JobKind} (leaves : (lanes.queue lane).watchers = [] ∨
      lane ∈ kinds ∧ (lanes.queue lane).watchers = [client]) :
    ((kinds.foldl (fun lanes kind => lanes.modify kind (·.abandonReady client)) lanes).queue
      lane).watchers = [] := by
  induction kinds generalizing lanes with
  | nil =>
      rcases leaves with alone | ⟨member, _⟩
      · exact alone
      · cases member
  | cons kind kinds ih =>
      apply ih
      by_cases same : lane = kind
      · subst same
        simp only [modify, queue_setQueue_self, JobQueue.watchers_abandonReady]
        rcases leaves with alone | ⟨_, lined⟩
        · rw [alone]
          exact Or.inl rfl
        · rw [lined, List.erase_cons_head]
          exact Or.inl rfl
      · simp only [modify, queue_setQueue_of_ne lanes same]
        refine leaves.imp_right fun ⟨member, lined⟩ => ⟨?_, lined⟩
        exact (List.mem_cons.mp member).resolve_left same

theorem Watched.unpark {client : Client} {parked : Bool} {lanes : Lanes}
    (combined : lanes.reads = .combined) (watched : lanes.Watched client parked) :
    (lanes.unpark client).Unattended := by
  intro lane
  apply watchers_unpark client lanes
  refine (watched lane).imp_right fun ⟨_, lined⟩ => ⟨?_, lined⟩
  rw [combined]
  cases lane <;> decide

theorem watchers_dispatchFrom (drained : Bool) (kinds : List JobKind) (lanes : Lanes)
    (lane : JobKind) : ((dispatchFrom drained kinds lanes).1.queue lane).watchers =
      (lanes.queue lane).watchers := by
  induction kinds generalizing drained lanes with
  | nil => rfl
  | cons kind kinds ih =>
      have taken := (lanes.queue kind).watchers_tryRecv
      generalize tried : (lanes.queue kind).tryRecv = told at taken
      obtain ⟨q, answer⟩ := told
      have same : ((lanes.setQueue kind q).queue lane).watchers = (lanes.queue lane).watchers := by
        by_cases equal : lane = kind
        · subst equal
          rw [queue_setQueue_self]
          exact taken
        · rw [queue_setQueue_of_ne lanes equal]
      cases answer with
      | received job =>
          simp only [dispatchFrom, tried, queue_counted]
          exact same
      | empty =>
          simp only [dispatchFrom, tried]
          exact (ih false _).trans same
      | closed =>
          simp only [dispatchFrom, tried]
          exact (ih drained _).trans same

/-- The lanes that were asked before the one that gives a job have none. -/
private theorem dispatchFrom_first (drained : Bool) {kinds : List JobKind} {lanes : Lanes}
    {job : LibraryJob} (balanced : lanes.Balanced)
    (unattended : lanes.Unattended)
    (found : (dispatchFrom drained kinds lanes).2 = .job job) :
    ∃ front kind back, kinds = front ++ kind :: back ∧ job.work = some kind ∧
      ∀ earlier ∈ front, (lanes.queue earlier).items = [] := by
  induction kinds generalizing drained with
  | nil => cases drained <;> cases found
  | cons kind kinds ih =>
      suffices later : (lanes.queue kind).items = [] →
          ∀ drained, (dispatchFrom drained kinds lanes).2 = .job job →
          ∃ front other back, kind :: kinds = front ++ other :: back ∧ job.work = some other ∧
            ∀ earlier ∈ front, (lanes.queue earlier).items = [] by
        rcases (balanced kind).tryRecv_cases with ⟨_, q, tried, _⟩ | ⟨tried, _⟩ | ⟨tried, drained⟩
        · simp only [dispatchFrom, tried] at found
          cases found
          exact ⟨[], kind, kinds, rfl, rfl, fun _ member => absurd member List.not_mem_nil⟩
        · simp only [dispatchFrom, tried, setQueue_queue] at found
          exact later ((balanced kind).items_of_empty (unattended kind) tried) _ found
        · simp only [dispatchFrom, tried, setQueue_queue] at found
          simp only [JobQueue.isExhausted, Bool.and_eq_true, List.isEmpty_iff] at drained
          exact later drained.2 _ found
      intro none drained found
      obtain ⟨front, other, back, rfl, work, before⟩ := ih drained found
      refine ⟨kind :: front, other, back, rfl, work, fun earlier member => ?_⟩
      rcases List.mem_cons.mp member with rfl | member
      · exact none
      · exact before earlier member

/-- A lane gives a job although the other one could only if its turn has come. -/
theorem turn_of_dispatch {lanes : Lanes} {lane : JobKind} {job : LibraryJob}
    (combined : lanes.reads = .combined) (balanced : lanes.Balanced)
    (unattended : lanes.Unattended)
    (found : lanes.dispatch.2 = .job job) (work : job.work = some lane)
    (contended : lanes.contended lane = true) : lane = .update ↔ lanes.yields = true := by
  obtain ⟨front, first, back, order, given, before⟩ :=
    dispatchFrom_first true balanced unattended found
  obtain rfl : first = lane := Option.some.inj (given.symm.trans work)
  have ahead : first.other ∉ front := by
    intro member
    simp only [Lanes.contended, before _ member, List.isEmpty_nil, Bool.not_true,
      Bool.false_eq_true] at contended
  simp only [Lanes.order, combined, LaneChoice.kinds] at order
  cases yields : lanes.yields with
  | true =>
      simp only [yields, ↓reduceIte, List.reverse_cons, List.reverse_nil, List.nil_append,
        List.cons_append] at order
      cases front with
      | nil =>
          cases order
          exact iff_of_true rfl rfl
      | cons earlier front =>
          obtain ⟨rfl, order⟩ := List.cons.inj order
          cases first with
          | download => exact (ahead List.mem_cons_self).elim
          | update => exact iff_of_true rfl rfl
  | false =>
      simp only [yields, Bool.false_eq_true, ↓reduceIte] at order
      cases front with
      | nil =>
          cases order
          exact iff_of_false JobKind.noConfusion Bool.noConfusion
      | cons earlier front =>
          obtain ⟨rfl, order⟩ := List.cons.inj order
          cases first with
          | download => exact iff_of_false JobKind.noConfusion Bool.noConfusion
          | update => exact (ahead List.mem_cons_self).elim

end Lanes

namespace Attempt

/-- What a step of an attempt does to the turns of the lanes. -/
inductive Serves (client : Client) (lanes : Lanes) :
    Lanes → Attempt ⊕ Scheduled LibraryJob → Prop where
  | takes {lane : JobKind} {job : LibraryJob} {q : JobQueue LibraryJob}
      (took : Lanes.Took lane job lanes ((lanes.setQueue lane q).counted lane))
      (unattended : ((lanes.setQueue lane q).counted lane).Unattended)
      (turn : lanes.contended lane = true → (lane = .update ↔ lanes.yields = true)) :
      Serves client lanes ((lanes.setQueue lane q).counted lane) (.inr (.job (job.withWork lane)))
  | leaves {after : Lanes} {outcome : Attempt ⊕ Scheduled LibraryJob}
      (same : lanes.SameJobs after) (rule : lanes.SameRule after)
      (watched : after.Watched client (outcome.getLeft?.any Attempt.parked))
      (nothing : Service.takes lanes outcome = []) : Serves client lanes after outcome

theorem serves_of_step {now : Instant} {client : Client} {attempt : Attempt}
    {lanes after : Lanes} {outcome : Attempt ⊕ Scheduled LibraryJob}
    (combined : lanes.reads = .combined) (balanced : lanes.Balanced)
    (watched : lanes.Watched client attempt.parked)
    (stepped : attempt.step now client lanes = some (after, outcome)) :
    Serves client lanes after outcome := by
  unfold step at stepped
  split at stepped
  · have same := lanes.unpark_sameJobs client
    have rule := lanes.unpark_sameRule client
    have unattended := watched.unpark combined
    split at stepped
    · cases stepped
      exact .leaves same rule (unattended.watched client _) rfl
    · split at stepped
      · cases stepped
        exact .leaves same rule (unattended.watched client _) rfl
      · cases stepped
  next awake =>
    rw [Bool.not_eq_true] at awake
    rw [awake] at watched
    have unattended := watched.unattended
    rcases Lanes.dispatch_cases balanced with ⟨lane, job, q, found, took⟩ | found | ⟨found, _⟩
    · have still := lanes.watchers_dispatchFrom true lanes.order
      have turn := Lanes.turn_of_dispatch combined balanced unattended (congrArg Prod.snd found) rfl
      rw [← Lanes.dispatch, found] at still
      simp only [found] at stepped
      cases stepped
      exact .takes took (fun other => (still other).trans (unattended other)) turn
    · simp only [found] at stepped
      have same := lanes.parkAt_sameJobs client lanes.reads.kinds
      have rule := lanes.parkAt_sameRule client lanes.reads.kinds
      have lined := unattended.parkAt client
      generalize lanes.parkAt client lanes.reads.kinds = told at stepped same rule lined
      obtain ⟨parked, _ | _⟩ := told
      · cases stepped
        exact .leaves same rule lined rfl
      · cases stepped
        have left := (Lanes.Watched.unpark (rule.reads.trans combined) lined).watched client
        exact .leaves (same.trans (parked.unpark_sameJobs client))
          (rule.trans (parked.unpark_sameRule client)) (left _) rfl
    · simp only [found] at stepped
      cases stepped
      exact .leaves (.refl lanes) (.refl lanes) (unattended.watched client _) rfl

theorem abandon_sameRule (client : Client) (attempt : Attempt) (lanes : Lanes) :
    lanes.SameRule (attempt.abandon client lanes) := by
  unfold abandon
  split
  · exact lanes.unpark_sameRule client
  · exact .refl lanes

theorem unattended_abandon {client : Client} {attempt : Attempt} {lanes : Lanes}
    (combined : lanes.reads = .combined) (watched : lanes.Watched client attempt.parked) :
    (attempt.abandon client lanes).Unattended := by
  unfold abandon
  split
  · exact watched.unpark combined
  next awake =>
    rw [Bool.not_eq_true] at awake
    rw [awake] at watched
    exact watched.unattended

end Attempt

/-! ## Runs of downloads -/

theorem downloadRun_concat (taken : List Take) (take : Take) :
    downloadRun (taken ++ [take]) =
      if take.lane = .download then downloadRun taken + 1 else 0 := by
  unfold downloadRun
  rw [List.reverse_append, List.reverse_singleton, List.singleton_append, List.takeWhile_cons]
  by_cases download : take.lane = .download
  · simp only [download, decide_true, ↓reduceIte, List.length_cons]
  · simp only [download, decide_false, Bool.false_eq_true, ↓reduceIte, List.length_nil]

theorem length_le_downloadRun {run : List Take} (downloads : ∀ take ∈ run, take.lane = .download)
    (front : List Take) : run.length ≤ downloadRun (front ++ run) := by
  unfold downloadRun
  rw [List.reverse_append, List.takeWhile_append_of_pos, List.length_append, List.length_reverse]
  · exact Nat.le_add_right _ _
  · intro take member
    exact decide_eq_true (downloads take (List.mem_reverse.mp member))

namespace Service

/-- **What holds of a service at every moment.** -/
structure Sound (client : Client) (limit : Option Nat) (s : Service) : Prop where
  combined : s.lanes.reads = .combined
  balanced : s.lanes.Balanced
  watched : s.lanes.Watched client (s.attempt.any Attempt.parked)
  rule : s.lanes.maxStreak = limit
  streak : s.lanes.streak = downloadRun s.taken
  /-- A take beside a job on the other lane is an update exactly if downloads have had their run. -/
  turns : ∀ front take back, s.taken = front ++ take :: back → take.contended = true →
    (take.lane = .update ↔ ∃ most, limit = some most ∧ most ≤ downloadRun front)

variable {client : Client} {limit : Option Nat} {s t : Service}

theorem Sound.yields_iff (sound : s.Sound client limit) :
    s.lanes.yields = true ↔ ∃ most, limit = some most ∧ most ≤ downloadRun s.taken := by
  rw [Lanes.yields, sound.rule, sound.streak]
  cases limit <;> simp

theorem Sound.setQueue (sound : s.Sound client limit) {lane : JobKind} {q : JobQueue LibraryJob}
    (balanced : (s.lanes.queue lane).Balanced → q.Balanced)
    (same : q.watchers = (s.lanes.queue lane).watchers) :
    (s.setQueue lane q).Sound client limit := by
  have rule := s.lanes.sameRule_setQueue lane q
  exact ⟨rule.reads.trans sound.combined, sound.balanced.setQueue (balanced (sound.balanced lane)),
    sound.watched.setQueue same, rule.maxStreak.trans sound.rule, rule.streak.trans sound.streak,
    sound.turns⟩

theorem Sound.serves (sound : s.Sound client limit) {after : Lanes}
    {outcome : Attempt ⊕ Scheduled LibraryJob}
    (serves : Attempt.Serves client s.lanes after outcome) :
    Sound client limit
      { lanes := after, attempt := outcome.getLeft?,
        taken := s.taken ++ takes s.lanes outcome } := by
  cases serves with
  | leaves same rule watched nothing =>
      rw [nothing, List.append_nil]
      exact ⟨rule.reads.trans sound.combined, same.balanced sound.balanced, watched,
        rule.maxStreak.trans sound.rule, rule.streak.trans sound.streak, sound.turns⟩
  | @takes lane job q took unattended turn =>
      refine ⟨took.reads.trans sound.combined, took.balanced sound.balanced,
        unattended.watched client _, ?_, ?_, ?_⟩
      · rw [← sound.rule]
        cases lane <;> rfl
      · change _ = downloadRun (s.taken ++ [⟨lane, _⟩])
        rw [downloadRun_concat, ← sound.streak]
        cases lane <;> rfl
      · intro front take back split contended
        change s.taken ++ [_] = _ at split
        rcases List.eq_nil_or_concat back with rfl | ⟨back, last, rfl⟩
        · obtain ⟨rfl, same⟩ := List.append_inj' split rfl
          obtain rfl := List.singleton_inj.mp same
          rw [← sound.yields_iff]
          exact turn contended
        · rw [List.concat_eq_append, ← List.cons_append, ← List.append_assoc] at split
          exact sound.turns front take back (List.append_inj' split rfl).1 contended

/-- **Every move keeps a service sound.** -/
theorem Sound.act {move : ServiceMove} (sound : s.Sound client limit)
    (moved : s.act client move = some t) : t.Sound client limit := by
  cases move with
  | begin now =>
      simp only [Service.act] at moved
      split at moved
      next idle =>
        cases moved
        have watched := sound.watched
        rw [idle] at watched
        exact ⟨sound.combined, sound.balanced, watched, sound.rule, sound.streak, sound.turns⟩
      · cases moved
  | step now =>
      simp only [Service.act] at moved
      split at moved
      · cases moved
      next attempt underway =>
        obtain ⟨⟨after, outcome⟩, stepped, rfl⟩ := Option.map_eq_some_iff.mp moved
        have watched := sound.watched
        rw [underway] at watched
        exact sound.serves (Attempt.serves_of_step sound.combined sound.balanced watched stepped)
  | abandon =>
      simp only [Service.act] at moved
      split at moved
      · cases moved
      next attempt underway =>
        cases moved
        have watched := sound.watched
        rw [underway] at watched
        have same := attempt.abandon_sameJobs client s.lanes
        have rule := attempt.abandon_sameRule client s.lanes
        exact ⟨rule.reads.trans sound.combined, same.balanced sound.balanced,
          (Attempt.unattended_abandon sound.combined watched).watched client _,
          rule.maxStreak.trans sound.rule, rule.streak.trans sound.streak, sound.turns⟩
  | offer lane sender job =>
      cases moved
      exact sound.setQueue ((s.lanes.queue lane).startSend_keeps sender job).balanced
        ((s.lanes.queue lane).watchers_startSend sender job)
  | retry lane sender job =>
      cases moved
      exact sound.setQueue ((s.lanes.queue lane).resumeSend_keeps sender job).balanced
        ((s.lanes.queue lane).watchers_resumeSend sender job)
  | withdraw lane sender =>
      cases moved
      exact sound.setQueue ((s.lanes.queue lane).abandonSend_keeps sender).balanced rfl
  | close lane =>
      cases moved
      exact sound.setQueue JobQueue.Balanced.close rfl

/-- A step puts on record the lane whose head it took, or leaves all jobs where they are. -/
theorem Sound.step_taken {now : Instant} (sound : s.Sound client limit)
    (moved : s.act client (.step now) = some t) :
    (t.taken = s.taken ∧ s.lanes.SameJobs t.lanes) ∨
    ∃ lane job, t.taken = s.taken ++ [⟨lane, s.lanes.contended lane⟩] ∧
      Lanes.Took lane job s.lanes t.lanes := by
  simp only [Service.act] at moved
  split at moved
  · cases moved
  next attempt underway =>
    obtain ⟨⟨after, outcome⟩, stepped, rfl⟩ := Option.map_eq_some_iff.mp moved
    have watched := sound.watched
    rw [underway] at watched
    cases Attempt.serves_of_step sound.combined sound.balanced watched stepped with
    | leaves same _ _ nothing =>
        rw [nothing, List.append_nil]
        exact Or.inl ⟨rfl, same⟩
    | takes took => exact Or.inr ⟨_, _, rfl, took⟩

/-- Downloads taken beside a waiting update come to an end. -/
theorem Sound.length_downloads (sound : s.Sound client limit) {most : Nat}
    (limited : limit = some most) {front run back : List Take}
    (split : s.taken = front ++ run ++ back) (contended : ∀ take ∈ run, take.contended = true)
    (downloads : ∀ take ∈ run, take.lane = .download) : run.length ≤ most := by
  rcases List.eq_nil_or_concat run with rfl | ⟨run, last, rfl⟩
  · exact Nat.zero_le most
  · simp only [List.concat_eq_append, List.mem_append, List.mem_singleton] at contended downloads
    have long := length_le_downloadRun (fun take member => downloads take (Or.inl member)) front
    rw [List.concat_eq_append, ← List.append_assoc, List.append_assoc, List.singleton_append]
      at split
    have turn := sound.turns (front ++ run) last back split (contended last (Or.inr rfl))
    have early : ¬ most ≤ downloadRun (front ++ run) := by
      intro late
      have update := turn.mpr ⟨most, limited, late⟩
      rw [downloads last (Or.inr rfl)] at update
      cases update
    rw [List.concat_eq_append, List.length_append, List.length_singleton]
    omega

/-- After an update a waiting download goes first. -/
theorem Sound.not_two_updates (sound : s.Sound client limit) {most : Nat}
    (limited : limit = some most) (positive : 1 ≤ most) {front back : List Take}
    {first second : Take} (split : s.taken = front ++ first :: second :: back)
    (contended : second.contended = true) (update : first.lane = .update) :
    second.lane = .download := by
  rw [List.append_cons] at split
  have turn := sound.turns (front ++ [first]) second back split contended
  rw [downloadRun_concat, update] at turn
  cases again : second.lane with
  | download => rfl
  | update =>
      obtain ⟨_, same, late⟩ := turn.mp again
      obtain rfl := Option.some.inj (limited.symm.trans same)
      exact (Nat.not_succ_le_zero _ (Nat.le_trans positive late)).elim

theorem sound_start {lanes : Lanes} (combined : lanes.reads = .combined)
    (balanced : lanes.Balanced) (unattended : lanes.Unattended) (fresh : lanes.streak = 0)
    (client : Client) : Sound client lanes.maxStreak { lanes } :=
  ⟨combined, balanced, unattended.watched client _, rfl, fresh, fun front take back split =>
    (List.append_ne_nil_of_right_ne_nil front (List.cons_ne_nil take back) split.symm).elim⟩

/-- **The lanes share their reader.**  Whatever senders do with the two lanes, and whichever
attempts are given up, as long as one attempt is made at a time:

* a job that is taken while the other lane holds one too is an update exactly if there is a limit
  and at least so many downloads were taken since the last update; without a limit it is a download;
* while both lanes hold jobs, no more downloads than the limit are taken in a row, and with a limit
  of at least one never two updates;
* a step puts on record the lane from whose head it took a job, and whether the other lane held one,
  or leaves all jobs where they are. -/
theorem shares_lanes {lanes : Lanes} (combined : lanes.reads = .combined)
    (balanced : lanes.Balanced) (unattended : lanes.Unattended) (fresh : lanes.streak = 0)
    (client : Client) {moves : List ServiceMove} {s : Service}
    (played : play (act client) moves { lanes } = some s) :
    (∀ front take back, s.taken = front ++ take :: back → take.contended = true →
      (take.lane = .update ↔ ∃ most, lanes.maxStreak = some most ∧ most ≤ downloadRun front)) ∧
    (∀ most, lanes.maxStreak = some most →
      (∀ front run back, s.taken = front ++ run ++ back →
        (∀ take ∈ run, take.contended = true) → (∀ take ∈ run, take.lane = .download) →
        run.length ≤ most) ∧
      (1 ≤ most → ∀ front first second back, s.taken = front ++ first :: second :: back →
        second.contended = true → first.lane = .update → second.lane = .download)) ∧
    (∀ now t, s.act client (.step now) = some t →
      (t.taken = s.taken ∧ ∀ lane, (t.lanes.queue lane).items = (s.lanes.queue lane).items) ∨
      ∃ take job, t.taken = s.taken ++ [take] ∧
        (s.lanes.queue take.lane).items = job :: (t.lanes.queue take.lane).items ∧
        t.lanes.queue take.lane.other = s.lanes.queue take.lane.other ∧
        (take.contended = true ↔ (s.lanes.queue take.lane.other).items ≠ [])) := by
  have sound : s.Sound client lanes.maxStreak :=
    play_keeps (fun _ _ _ _ sound moved => sound.act moved) (fun _ _ => trivial)
      (sound_start combined balanced unattended fresh client) played
  refine ⟨sound.turns, fun most limited => ⟨fun front run back => ?_, fun positive => ?_⟩, ?_⟩
  · exact sound.length_downloads limited
  · intro front first second back
    exact sound.not_two_updates limited positive
  · intro now t moved
    rcases sound.step_taken moved with ⟨taken, same⟩ | ⟨lane, job, taken, took⟩
    · exact Or.inl ⟨taken, fun lane => (same.queue lane).items⟩
    · refine Or.inr ⟨_, job, taken, took.items, took.others _ lane.other_ne, ?_⟩
      simp only [Lanes.contended, Bool.not_eq_true', List.isEmpty_eq_false_iff, ne_eq]

/-- An attempt is given up while it waits.  The next one is parked when jobs arrive on both lanes,
and others follow it until both lanes have given jobs; the update lane is closed on the way. -/
def rush : List ServiceMove :=
  [.begin 0, .step 0, .abandon, .begin 1, .step 1,
    .offer .download (.task 1) (.download ["a"]), .offer .update (.task 2) (.update ["b"]),
    .offer .download (.task 1) (.download ["c"]), .offer .update (.task 2) (.update ["d"]),
    .offer .download (.task 1) (.download ["e"]), .close .update, .step 2, .step 2,
    .begin 3, .step 3, .begin 4, .step 4, .begin 5, .step 5, .begin 6, .step 6]

def rushLanes : Lanes where
  reads := .combined
  download := .make "downloads" 4
  update := .make "updates" 4
  maxStreak := some 2

theorem shares_lanes_rush :
    ∃ s, play (act (.worker 0)) rush { lanes := rushLanes } = some s ∧
      s.taken = [⟨.download, true⟩, ⟨.download, true⟩, ⟨.update, true⟩, ⟨.download, true⟩,
        ⟨.update, false⟩] ∧
      ∃ most, rushLanes.maxStreak = some most ∧
        most ≤ downloadRun [⟨.download, true⟩, ⟨.download, true⟩] := by
  refine ⟨_, rfl, rfl, ?_⟩
  have balanced : rushLanes.Balanced := by
    intro lane
    cases lane <;> exact JobQueue.balanced_make _ _
  have unattended : rushLanes.Unattended := by
    intro lane
    cases lane <;> rfl
  have played : play (act (.worker 0)) rush { lanes := rushLanes } = some _ := rfl
  have shared := shares_lanes rfl balanced unattended rfl (.worker 0) played
  exact (shared.1 _ _ [⟨.download, true⟩, ⟨.update, false⟩] rfl rfl).mp rfl

end Service

end RepoCollector
