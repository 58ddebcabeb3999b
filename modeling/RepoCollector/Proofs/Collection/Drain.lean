import RepoCollector.Collection.Basic
import RepoCollector.Proofs.Discovery.Delivery
import RepoCollector.Proofs.Discovery.Updates
import RepoCollector.Proofs.Metrics.Tally
import RepoCollector.Proofs.Pool.Ledger

/-! # A download drains what it discovers

A harvest is a download command at work beside a record of the jobs that were put into its lanes.
Its providers, the updates provider, the workers and the command itself go on in any order.

Every step of one of them is a move of the pool's ledger (`RepoCollector.Ledger`) together with at
most one event that is counted (`RepoCollector.Collection.Books`).  The command closes the download
lane only after the last provider of an organization has ended, and none of them goes on after that
(`RepoCollector.Collection.Steady`).  So the command ends with empty lanes, and its counts agree
with what was put there (`RepoCollector.Harvest.drains_everything`).
-/

namespace RepoCollector

def discovery (job : LibraryJob) : Report := ⟨job.kind.label, .discovered⟩

/-- What a collector has counted agrees with a ledger. -/
structure MetricsHub.Counted (hub : MetricsHub) (l : Ledger) : Prop where
  present : 0 < hub.collectors.length
  rising : (hub.snapshot 0).IsRising
  discovered : ∀ lane : JobKind,
    (hub.snapshot 0).number ⟨lane.label, .discovered⟩ = (l.accepted lane).length
  ended : ∀ (lane : JobKind) (event : JobEvent), event ≠ .discovered →
    (hub.snapshot 0).number ⟨lane.label, event⟩ =
      (l.finished.map Prod.snd).count ⟨lane.label, event⟩

namespace MetricsHub.Counted

variable {hub : MetricsHub} {l : Ledger}

theorem snapshot_record (counted : hub.Counted l) (report : Report) :
    (hub.record 0 report).snapshot 0 = (hub.snapshot 0).record report := by
  rw [hub.snapshot_record counted.present, if_pos rfl]

theorem present_record (counted : hub.Counted l) (report : Report) :
    0 < (hub.record 0 report).collectors.length := by
  rw [MetricsHub.record, List.length_modify]
  exact counted.present

/-- A job that is put into its lane is counted there. -/
theorem deliver (counted : hub.Counted l) {lane : JobKind} (q : JobQueue LibraryJob)
    {jobs : List LibraryJob} (one : jobs.length ≤ 1) (kinds : ∀ job ∈ jobs, job.kind = lane) :
    (jobs.foldl (fun hub job => hub.record 0 (discovery job)) hub).Counted
      (l.deliver lane q jobs) := by
  match jobs with
  | [] =>
      refine ⟨counted.present, counted.rising, fun other => ?_, counted.ended⟩
      have same : Function.update l.accepted lane (l.accepted lane ++ []) = l.accepted := by
        rw [List.append_nil, Function.update_eq_self]
      change _ = (Function.update l.accepted lane (l.accepted lane ++ []) other).length
      rw [same]
      exact counted.discovered other
  | [job] =>
      have kind : job.kind = lane := kinds job List.mem_cons_self
      refine ⟨counted.present_record _, ?_, fun other => ?_, fun other event different => ?_⟩
      · change ((hub.record 0 (discovery job)).snapshot 0).IsRising
        rw [counted.snapshot_record]
        exact counted.rising.record _
      · change ((hub.record 0 (discovery job)).snapshot 0).number _ =
          (Function.update l.accepted lane (l.accepted lane ++ [job]) other).length
        rw [counted.snapshot_record, Tally.number_record _ counted.rising, counted.discovered other]
        by_cases equal : other = lane
        · subst equal
          rw [Function.update_self, List.length_append, discovery, kind, if_pos rfl]
          rfl
        · have apart : discovery job ≠ ⟨other.label, .discovered⟩ := fun same =>
            equal ((JobKind.label_inj.mp (congrArg Report.kind same)).symm.trans kind)
          rw [Function.update_of_ne equal, if_neg apart]
          rfl
      · change ((hub.record 0 (discovery job)).snapshot 0).number _ = _
        have apart : discovery job ≠ ⟨other.label, event⟩ := fun same =>
          different (congrArg Report.event same).symm
        rw [counted.snapshot_record, Tally.number_record _ counted.rising, if_neg apart]
        exact counted.ended other event different
  | _ :: _ :: _ => exact absurd one (by simp)

/-- A job that has ended is counted as what it came to. -/
theorem finish (counted : hub.Counted l) {m : Ledger} {report : Option Report}
    (accepted : m.accepted = l.accepted)
    (finished : m.finished.map Prod.snd = l.finished.map Prod.snd ++ report.toList)
    (ends : ∀ told ∈ report, told.event ≠ .discovered) :
    (report.elim hub (hub.record 0)).Counted m := by
  cases report with
  | none =>
      have same : m.finished.map Prod.snd = l.finished.map Prod.snd :=
        finished.trans (List.append_nil _)
      refine ⟨counted.present, counted.rising, fun lane => ?_, fun lane event different => ?_⟩
      · rw [accepted]
        exact counted.discovered lane
      · rw [same]
        exact counted.ended lane event different
  | some told =>
      have event := ends told rfl
      refine ⟨counted.present_record _, ?_, fun lane => ?_, fun lane event different => ?_⟩
      · change ((hub.record 0 told).snapshot 0).IsRising
        rw [counted.snapshot_record]
        exact counted.rising.record _
      · change ((hub.record 0 told).snapshot 0).number _ = _
        have apart : told ≠ ⟨lane.label, .discovered⟩ := fun same =>
          event (congrArg Report.event same)
        rw [counted.snapshot_record, Tally.number_record _ counted.rising, if_neg apart, accepted]
        exact counted.discovered lane
      · change ((hub.record 0 told).snapshot 0).number _ = _
        rw [counted.snapshot_record, Tally.number_record _ counted.rising, finished,
          List.count_append, counted.ended lane event different, Option.toList_some,
          List.count_singleton]
        simp only [beq_iff_eq]

end MetricsHub.Counted

/-- What holds of the provider of an organization at every moment. -/
structure Gatherer.Sound (gatherer : Gatherer) : Prop where
  tidy : gatherer.provider.Tidy
  downloads : ∀ job ∈ gatherer.provider.held, job.kind = .download
  ended : gatherer.ended = none ↔ gatherer.provider.phase ≠ .outside

/-- What is left of a provider whose run broke off. -/
theorem Gatherer.Sound.crash {gatherer : Gatherer} (sound : gatherer.Sound) {client : Client}
    {q : JobQueue LibraryJob} :
    ({ gatherer with
      provider := (gatherer.provider.drop client q).1, ended := some .crashed } :
      Gatherer).Sound := by
  have left : ∀ job ∈ gatherer.provider.retry, job ∈ gatherer.provider.held :=
    fun _ member => List.mem_append_right _ member
  have fewer : gatherer.provider.retry.length ≤ gatherer.provider.held.length := by
    rw [Provider.held, List.length_append]
    exact Nat.le_add_left _ _
  refine ⟨⟨sound.tidy.room, Nat.le_trans fewer sound.tidy.one, ?_⟩, ?_, ?_⟩
  · intro asks
    cases asks
  · intro job member
    exact sound.downloads job (left job member)
  · exact iff_of_false (Option.some_ne_none _) (fun inside => inside rfl)

namespace Collection

/-- The books of a collection: the ledger of its pool, and its counts. -/
structure Books (c : Collection) (l : Ledger) : Prop where
  pool : l.pool = c.pool
  staffed : l.Staffed
  running : l.pool.running = true
  kinds : ∀ lane, ∀ job ∈ l.accepted lane, job.kind = lane
  counted : c.hub.Counted l

/-- All providers of organizations have ended, and this is what the command makes of it. -/
def Gathered (c : Collection) (outcome : Except CommandError Unit) : Prop :=
  c.allEnded = true ∧ outcome = c.gatheringOutcome

/-- Where a download stands that is not interrupted. -/
inductive Steady (c : Collection) : Prop where
  | gathers (phase : c.phase = .gathering)
  | settles {outcome : Except CommandError Unit} (phase : c.phase = .settling outcome)
      (gathered : c.Gathered outcome)
  | drains {outcome : Except CommandError Unit} (phase : c.phase = .draining outcome)
      (gathered : c.Gathered outcome)
  /-- The command ends when the last worker has left. -/
  | ends {outcome : Except CommandError Unit} (phase : c.phase = .over outcome)
      (gathered : c.Gathered outcome) (left : c.pool.live = 0)

/-- **What holds of an uninterrupted download at every moment.** -/
structure Sound (arguments : DownloadArguments) (c : Collection) (l : Ledger) : Prop where
  books : c.Books l
  orgs : c.gatherers.map (·.org) = arguments.organizations
  gatherers : ∀ gatherer ∈ c.gatherers, gatherer.Sound
  wanted : c.updates.isNone = arguments.noUpdates
  updates : ∀ updates, c.updates = some updates → updates.Updates
  reads : c.pool.source.reads = if arguments.noUpdates then .downloadOnly else .combined
  unread : arguments.noUpdates = true → l.accepted .update = []
  steady : c.Steady

/-- The jobs that a step has put into a lane. -/
def added (before after : Collection) (lane : JobKind) : List LibraryJob :=
  (after.pool.source.queue lane).items.drop (before.pool.source.queue lane).size

/-- A step has put jobs into a lane, and each is counted. -/
def delivered (c : Collection) (lane : JobKind) (q : JobQueue LibraryJob)
    (jobs : List LibraryJob) : Collection :=
  { c.setQueue lane q with
    hub := jobs.foldl (fun hub job => hub.record 0 (discovery job)) c.hub }

variable {arguments : DownloadArguments} {c : Collection} {l : Ledger}

/-- What is put into a lane is added to that lane only. -/
theorem accepted_deliver {lane : JobKind} {q : JobQueue LibraryJob}
    {jobs : List LibraryJob} (items : q.items = (c.pool.source.queue lane).items ++ jobs)
    {d : Collection} (source : d.pool.source = c.pool.source.setQueue lane q) (other : JobKind) :
    (l.deliver lane q jobs).accepted other = l.accepted other ++ added c d other := by
  change Function.update l.accepted lane (l.accepted lane ++ jobs) other = _
  rw [added, source]
  by_cases equal : other = lane
  · subst equal
    rw [Function.update_self, Lanes.queue_setQueue_self, items, JobQueue.size, List.drop_left]
  · rw [Function.update_of_ne equal, Lanes.queue_setQueue_of_ne _ equal, JobQueue.size,
      List.drop_length, List.append_nil]

/-- Putting a job into its lane and counting it keeps the books. -/
theorem Books.deliver (books : c.Books l) {lane : JobKind} {q : JobQueue LibraryJob}
    {jobs : List LibraryJob} (balanced : (c.pool.source.queue lane).Balanced → q.Balanced)
    (items : q.items = (c.pool.source.queue lane).items ++ jobs)
    (shut : (c.pool.source.queue lane).isClosed = true → q.isClosed = true ∧ jobs = [])
    (one : jobs.length ≤ 1) (kinds : ∀ job ∈ jobs, job.kind = lane) :
    (c.delivered lane q jobs).Books (l.deliver lane q jobs) := by
  rw [← books.pool] at balanced items shut
  refine ⟨?_, books.staffed.deliver balanced items shut, books.running, fun other job member => ?_,
    books.counted.deliver q one kinds⟩
  · change { l.pool with source := l.pool.source.setQueue lane q } =
      { c.pool with source := c.pool.source.setQueue lane q }
    rw [books.pool]
  · change job ∈ Function.update l.accepted lane (l.accepted lane ++ jobs) other at member
    by_cases equal : other = lane
    · subst equal
      rw [Function.update_self] at member
      exact (List.mem_append.mp member).elim (books.kinds other job) (kinds job)
    · rw [Function.update_of_ne equal] at member
      exact books.kinds other job member

theorem Books.closing (books : c.Books l) (lane : JobKind) :
    (c.delivered lane (c.pool.source.queue lane).close []).Books
      (l.deliver lane (c.pool.source.queue lane).close []) :=
  books.deliver JobQueue.Balanced.close (List.append_nil _).symm (fun _ => ⟨rfl, rfl⟩)
    (Nat.zero_le 1) (fun _ member => nomatch member)

theorem Books.congr (books : c.Books l) {d : Collection} (pool : d.pool = c.pool)
    (hub : d.hub = c.hub) : d.Books l :=
  ⟨books.pool.trans pool.symm, books.staffed, books.running, books.kinds, hub ▸ books.counted⟩

/-! ## The steps of those who take part -/

private theorem forall_mem_modify {α : Type} {holds : α → Prop} {items : List α} {index : Nat}
    {item : α} {change : α → α} (found : items[index]? = some item)
    (all : ∀ other ∈ items, holds other) (changed : holds (change item)) :
    ∀ other ∈ items.modify index change, holds other := by
  intro other member
  obtain ⟨place, at_place⟩ := List.mem_iff_getElem?.mp member
  rw [List.getElem?_modify] at at_place
  obtain ⟨old, known, same⟩ := Option.map_eq_some_iff.mp at_place
  split at same
  next equal =>
    rw [← equal, found] at known
    cases known
    rw [← same]
    exact changed
  · rw [← same]
    exact all old (List.mem_of_getElem? known)

private theorem map_modify {α β : Type} (items : List α) (index : Nat) {change : α → α}
    {read : α → β} (same : ∀ item, read (change item) = read item) :
    (items.modify index change).map read = items.map read := by
  refine List.ext_getElem? fun place => ?_
  rw [List.getElem?_map, List.getElem?_map, List.getElem?_modify]
  cases items[place]? with
  | none => rfl
  | some item =>
      change some (read (if index = place then change item else item)) = some (read item)
      split
      · rw [same]
      · rfl

/-- A gatherer has gone on: some jobs were put into the download lane, and its run may be over. -/
def withGatherer (c : Collection) (index : Nat) (provider : Provider) (queue : JobQueue LibraryJob)
    (jobs : List LibraryJob) (ended : Option RunEnd) : Collection :=
  { c.delivered .download queue jobs with
    gatherers := c.gatherers.modify index fun gatherer =>
      { gatherer with provider, ended := gatherer.ended.or ended } }

theorem turn_of_stepGatherer {now : Instant} {index : Nat} {tidings : Tidings} {d : Collection}
    (stepped : c.stepGatherer now index tidings = some d) :
    ∃ gatherer, c.gatherers[index]? = some gatherer ∧ gatherer.provider.phase ≠ .outside ∧
      ((∃ provider queue event,
          Provider.Turn now (.provider index) tidings.repository gatherer.provider
            c.pool.source.download provider queue event ∧
          d = c.withGatherer index provider queue (event.bind ProviderEvent.enqueued?).toList
            ((event.bind ProviderEvent.error?).map .returned)) ∨
        d = c.withGatherer index (gatherer.provider.drop (.provider index) c.pool.source.download).1
          (gatherer.provider.release (.provider index) c.pool.source.download) []
          (some .crashed)) := by
  unfold stepGatherer at stepped
  split at stepped
  · cases stepped
  next gatherer found =>
    refine ⟨gatherer, found, ?_⟩
    split at stepped
    next crashes =>
      obtain ⟨inside, same⟩ := Option.ite_none_right_eq_some.mp stepped
      cases same
      exact ⟨of_decide_eq_true inside, Or.inr rfl⟩
    next goes_on =>
      obtain ⟨⟨provider, queue, event⟩, went, rfl⟩ := Option.map_eq_some_iff.mp stepped
      constructor
      · intro outside
        simp only [Provider.step, outside, ↓reduceIte, reduceCtorEq] at went
      · refine Or.inl ⟨provider, queue, event, Provider.turn_of_step went, ?_⟩
        rcases event with _ | _ | _ | _ <;> rfl

/-- A gatherer whose run goes on, ends or breaks off keeps a download sound. -/
theorem Sound.withGatherer (sound : Sound arguments c l) {index : Nat} {gatherer : Gatherer}
    (found : c.gatherers[index]? = some gatherer) (inside : gatherer.provider.phase ≠ .outside)
    {provider : Provider} {queue : JobQueue LibraryJob} {jobs : List LibraryJob}
    {ended : Option RunEnd} (keeps : c.pool.source.download.Keeps queue)
    (items : queue.items = c.pool.source.download.items ++ jobs)
    (shut : c.pool.source.download.isClosed = true → jobs = []) (one : jobs.length ≤ 1)
    (kinds : ∀ job ∈ jobs, job.kind = .download)
    (kept : ({ gatherer with provider, ended } : Gatherer).Sound) :
    ∃ m, Sound arguments (c.withGatherer index provider queue jobs ended) m ∧
      ∀ lane, m.accepted lane = l.accepted lane ++
        added c (c.withGatherer index provider queue jobs ended) lane := by
  have member := List.mem_of_getElem? found
  have running : gatherer.ended = none := (sound.gatherers gatherer member).ended.mpr inside
  have books : (c.delivered .download queue jobs).Books _ :=
    sound.books.deliver keeps.balanced items
      (fun closed => ⟨keeps.closed.trans closed, shut closed⟩) one kinds
  refine ⟨_, ⟨books.congr rfl rfl, ?_, ?_, sound.wanted, sound.updates,
    (Lanes.reads_setQueue _ _ _).trans sound.reads, sound.unread, ?_⟩,
    accepted_deliver items rfl⟩
  · refine Eq.trans ?_ sound.orgs
    exact map_modify _ _ fun _ => rfl
  · refine forall_mem_modify found sound.gatherers ?_
    rw [running, Option.none_or]
    exact kept
  · -- A provider goes on only while the command waits for the providers.
    have going : c.allEnded ≠ true := by
      intro all
      have ended := List.all_eq_true.mp all gatherer member
      rw [running] at ended
      cases ended
    cases sound.steady with
    | gathers phase => exact .gathers phase
    | settles _ gathered | drains _ gathered | ends _ gathered => exact (going gathered.1).elim

theorem Sound.stepGatherer (sound : Sound arguments c l) {now : Instant} {index : Nat}
    {tidings : Tidings} {d : Collection}
    (stepped : c.stepGatherer now index tidings = some d) :
    ∃ m, Sound arguments d m ∧ ∀ lane, m.accepted lane = l.accepted lane ++ added c d lane := by
  obtain ⟨gatherer, found, inside, went⟩ := turn_of_stepGatherer stepped
  have known := sound.gatherers gatherer (List.mem_of_getElem? found)
  rcases went with ⟨provider, queue, event, turn, rfl⟩ | rfl
  · have kept := turn.downloads known.tidy known.downloads
    refine sound.withGatherer found inside turn.keeps turn.items ?_ Option.length_toList_le kept.2
      ⟨turn.tidy known.tidy, kept.1, Option.map_eq_none_iff.trans turn.error?_eq_none_iff⟩
    intro closed
    rw [turn.enqueued?_of_isClosed closed]
    rfl
  · exact sound.withGatherer found inside (Provider.keeps_release _ _ _)
      ((Provider.items_release _ _ _).trans (List.append_nil _).symm) (fun _ => rfl)
      (Nat.zero_le 1) (fun _ member => absurd member List.not_mem_nil) known.crash

/-- Who ends and how is a matter of the gatherers alone. -/
theorem Gathered.congr {outcome : Except CommandError Unit} (gathered : c.Gathered outcome)
    {d : Collection} (gatherers : d.gatherers = c.gatherers) : d.Gathered outcome := by
  unfold Gathered allEnded gatheringOutcome at *
  rw [gatherers]
  exact gathered

/-- The stand of the command does not change when neither it nor a gatherer goes on. -/
theorem Steady.congr (steady : c.Steady) {d : Collection} (phase : d.phase = c.phase)
    (gatherers : d.gatherers = c.gatherers) (live : c.pool.live = 0 → d.pool.live = 0) :
    d.Steady := by
  cases steady with
  | gathers stands => exact .gathers (phase.trans stands)
  | settles stands gathered => exact .settles (phase.trans stands) (gathered.congr gatherers)
  | drains stands gathered => exact .drains (phase.trans stands) (gathered.congr gatherers)
  | ends stands gathered left =>
      exact .ends (phase.trans stands) (gathered.congr gatherers) (live left)

theorem turn_of_stepUpdates {tidings : Tidings} {d : Collection}
    (stepped : c.stepUpdates tidings = some d) :
    ∃ updates next queue put, c.updates = some updates ∧
      UpdatesProvider.Turn tidings.inventory updates c.pool.source.update next queue put ∧
      d = { c.delivered .update queue put.toList with updates := some next } := by
  obtain ⟨updates, present, went⟩ := Option.bind_eq_some_iff.mp stepped
  obtain ⟨⟨next, queue, put⟩, moved, rfl⟩ := Option.map_eq_some_iff.mp went
  refine ⟨updates, next, queue, put, present, UpdatesProvider.turn_of_step moved, ?_⟩
  cases put <;> rfl

theorem Sound.stepUpdates (sound : Sound arguments c l) {tidings : Tidings} {d : Collection}
    (stepped : c.stepUpdates tidings = some d) :
    ∃ m, Sound arguments d m ∧ ∀ lane, m.accepted lane = l.accepted lane ++ added c d lane := by
  obtain ⟨updates, next, queue, put, present, turn, rfl⟩ := turn_of_stepUpdates stepped
  have kept := turn.updates (sound.updates updates present)
  have shut (closed : c.pool.source.update.isClosed = true) :
      queue.isClosed = true ∧ put.toList = [] := by
    obtain ⟨closed, none⟩ := turn.of_isClosed closed
    rw [none]
    exact ⟨closed, rfl⟩
  have kinds : ∀ job ∈ put.toList, job.kind = .update :=
    fun job member => kept.2 job (Option.mem_toList.mp member)
  have books : (c.delivered .update queue put.toList).Books _ :=
    sound.books.deliver turn.balanced turn.items shut Option.length_toList_le kinds
  have wanted : false = arguments.noUpdates := by
    rw [← sound.wanted, present]
    rfl
  refine ⟨_, ⟨books.congr rfl rfl, sound.orgs, sound.gatherers, wanted, ?_,
    (Lanes.reads_setQueue _ _ _).trans sound.reads,
    fun unwanted => Bool.noConfusion (wanted.trans unwanted), sound.steady.congr rfl rfl id⟩,
    accepted_deliver turn.items rfl⟩
  intro other found
  cases found
  exact kept.1

theorem step_of_stepWorker {now : Instant} {index : Nat} {tidings : Tidings} {d : Collection}
    (stepped : c.stepWorker now index tidings = some d) :
    ∃ pool report,
      c.pool.stepWorker Lanes.policy now index tidings.work tidings.chance = some (pool, report) ∧
      d = { c with pool, hub := report.elim c.hub (c.hub.record 0) } := by
  obtain ⟨⟨pool, report⟩, went, rfl⟩ := Option.map_eq_some_iff.mp stepped
  refine ⟨pool, report, went, ?_⟩
  cases report <;> rfl

theorem Sound.stepWorker (sound : Sound arguments c l) {now : Instant} {index : Nat}
    {tidings : Tidings} {d : Collection} (stepped : c.stepWorker now index tidings = some d) :
    ∃ m, Sound arguments d m ∧ ∀ lane, m.accepted lane = l.accepted lane ++ added c d lane := by
  obtain ⟨pool, report, went, rfl⟩ := step_of_stepWorker stepped
  have books := sound.books
  rw [← books.pool] at went
  have staffed := books.staffed.advance went
  obtain ⟨front, worker, back, shape, rfl, turn⟩ := Pool.turn_of_stepWorker went
  have before := books.staffed.sound
  have reports := turn.reports_ended shape
  have taken := Ledger.begun_cases before.balanced turn shape
  have ends : ∀ told ∈ report, told.event ≠ .discovered := by
    intro told member
    have listed := Option.mem_toList.mpr member
    rw [← reports] at listed
    obtain ⟨entry, within, rfl⟩ := List.mem_map.mp listed
    rcases ((turn.counts shape).2.2 entry within).2 with event | event
    · rw [event]
      exact JobEvent.noConfusion
    · rw [event]
      exact JobEvent.noConfusion
  have finished : (l.advance front.length pool report).finished.map Prod.snd =
      l.finished.map Prod.snd ++ report.toList := by
    rw [← reports]
    exact List.map_append
  refine ⟨l.advance front.length pool report, ⟨⟨rfl, staffed, ?_, books.kinds,
    books.counted.finish rfl finished ends⟩, sound.orgs, sound.gatherers, sound.wanted,
    sound.updates, ?_, sound.unread, ?_⟩, fun lane => ?_⟩
  · exact turn.settings.2.2.2.1.trans books.running
  · refine Eq.trans ?_ sound.reads
    rw [← books.pool]
    rcases taken with ⟨_, _, _, took⟩ | ⟨_, same⟩
    · exact took.reads
    · exact same.reads
  · refine sound.steady.congr rfl rfl fun left => ?_
    have working := turn.live_pos shape before.live
    rw [books.pool, left] at working
    exact absurd working (Nat.lt_irrefl 0)
  · -- A worker puts nothing into a lane.
    have shorter : (pool.source.queue lane).items.length ≤
        (c.pool.source.queue lane).items.length := by
      rw [← books.pool]
      rcases taken with ⟨other, job, _, took⟩ | ⟨_, same⟩
      · by_cases equal : lane = other
        · subst equal
          rw [took.items, List.length_cons]
          exact Nat.le_succ _
        · have unchanged := took.others lane equal
          exact Nat.le_of_eq (congrArg (fun q => q.items.length) unchanged)
      · exact Nat.le_of_eq (congrArg List.length (same.queue lane).items)
    exact (List.append_nil _).symm.trans
      (congrArg (l.accepted lane ++ ·) (List.drop_eq_nil_of_le shorter).symm)

theorem Sound.stepCommand (sound : Sound arguments c l) {now : Instant} {d : Collection}
    (stepped : c.stepCommand now false = some d) :
    ∃ m, Sound arguments d m ∧ ∀ lane, m.accepted lane = l.accepted lane ++ added c d lane := by
  have unmoved (source : d.pool.source = c.pool.source) (lane : JobKind) :
      l.accepted lane = l.accepted lane ++ added c d lane := by
    rw [added, source, JobQueue.size, List.drop_length, List.append_nil]
  cases sound.steady with
  | gathers phase =>
      simp only [Collection.stepCommand, phase, Bool.false_eq_true, ↓reduceIte] at stepped
      split at stepped
      next all =>
        cases stepped
        have books := sound.books.closing .download
        exact ⟨_, ⟨books.congr rfl rfl, sound.orgs, sound.gatherers, sound.wanted, sound.updates,
          (Lanes.reads_setQueue _ _ _).trans sound.reads, sound.unread, .settles rfl ⟨all, rfl⟩⟩,
          accepted_deliver (q := (c.pool.source.queue .download).close) (List.append_nil _).symm
            rfl⟩
      · cases stepped
  | settles phase gathered =>
      simp only [Collection.stepCommand, phase] at stepped
      split at stepped
      · cases stepped
        exact ⟨l, ⟨sound.books.congr rfl rfl, sound.orgs, sound.gatherers, sound.wanted,
          sound.updates, sound.reads, sound.unread, .drains rfl gathered⟩, unmoved rfl⟩
      · cases stepped
  | drains phase gathered =>
      simp only [Collection.stepCommand, phase, Bool.false_eq_true, ↓reduceIte] at stepped
      split at stepped
      next drained =>
        cases stepped
        have counted := sound.books.counted
        have left : c.pool.live = 0 := by
          rw [Pool.isDrained, Bool.and_eq_true] at drained
          exact of_decide_eq_true drained.1
        exact ⟨l, ⟨⟨sound.books.pool, sound.books.staffed, sound.books.running, sound.books.kinds,
          ⟨counted.present, counted.rising, counted.discovered, counted.ended⟩⟩, sound.orgs,
          sound.gatherers, sound.wanted, sound.updates, sound.reads, sound.unread,
          .ends rfl gathered left⟩, unmoved rfl⟩
      · cases stepped
  | ends phase =>
      simp only [Collection.stepCommand, phase, reduceCtorEq] at stepped

/-- **Every step keeps an uninterrupted download sound.** -/
theorem Sound.step (sound : Sound arguments c l) {now : Instant} {client : Client}
    {tidings : Tidings} (uninterrupted : tidings.interrupted = false) {d : Collection}
    (stepped : c.step now client tidings = some d) :
    ∃ m, Sound arguments d m ∧ ∀ lane, m.accepted lane = l.accepted lane ++ added c d lane := by
  unfold Collection.step at stepped
  split at stepped
  · rw [uninterrupted] at stepped
    exact sound.stepCommand stepped
  · exact sound.stepUpdates stepped
  · exact sound.stepGatherer stepped
  · exact sound.stepWorker stepped

/-! ## The beginning and the end -/

/-- The pool of a command begins with at least one worker. -/
theorem staffed_startPool {processors : Nat} (machine : 0 < processors) (arguments : PoolArguments)
    (reads : LaneChoice) : ({ pool := startPool arguments processors reads } : Ledger).Staffed := by
  have workers : 0 < (arguments.poolConfig processors).workers := by
    change 0 < arguments.workerCount processors
    unfold PoolArguments.workerCount
    split
    · assumption
    · omega
  let lanes : Lanes :=
    { reads, download := .make "download" arguments.queueSize,
      update := .make "update" arguments.queueSize }
  have empty : ∀ lane, ∃ name capacity, lanes.queue lane = .make name capacity := by
    rintro (_ | _)
    · exact ⟨_, _, rfl⟩
    · exact ⟨_, _, rfl⟩
  have initial : (Ledger.make lanes {} (arguments.poolConfig processors)).Staffed :=
    ⟨Ledger.sound_make empty _ _, rfl, rfl, workers, fun running => nomatch running⟩
  have started : (Ledger.make lanes {} (arguments.poolConfig processors)).act (.run true) =
      some { pool := startPool arguments processors reads } := rfl
  exact initial.act (show PoolMove.IsStaffing (.run true) from trivial) started

/-- A download begins unless all names are blank. -/
theorem sound_download {processors : Nat} (machine : 0 < processors)
    (named : ∃ org ∈ arguments.orgs, Text.trimmed org ≠ "") :
    ∃ first m, download processors arguments = .ok first ∧ Sound arguments first m ∧
      m.accepted = fun _ => [] := by
  have named : arguments.organizations.isEmpty = false := by
    obtain ⟨org, given, name⟩ := named
    refine List.isEmpty_eq_false_iff_exists_mem.mpr ⟨Text.trimmed org, ?_⟩
    exact List.mem_filter.mpr ⟨List.mem_map_of_mem given, decide_eq_true name⟩
  simp only [download, named, Bool.false_eq_true, ↓reduceIte]
  refine ⟨_, { pool := startPool arguments.pool processors _ }, rfl,
    ⟨⟨rfl, staffed_startPool machine _ _, rfl, (fun _ _ member => nomatch member), ?_⟩, ?_, ?_, ?_,
      ?_, rfl, fun _ => rfl, .gathers rfl⟩, rfl⟩
  · exact ⟨Nat.one_pos, List.Pairwise.nil, fun _ => rfl, fun _ event _ => by cases event <;> rfl⟩
  · rw [List.map_map]
    exact List.map_id _
  · intro gatherer member
    obtain ⟨org, _, rfl⟩ := List.mem_map.mp member
    have slots : 0 < (JobQueue.make "download" arguments.pool.queueSize :
        JobQueue LibraryJob).capacity := Nat.lt_of_lt_of_le Nat.one_pos (Nat.le_max_right _ _)
    have begun := Delivery.sound_start (p := Provider.make arguments.providerOpts _ .standard)
      rfl slots rfl
    exact ⟨begun.tidy, (fun _ held => nomatch held), fun _ => (nomatch ·), fun _ => rfl⟩
  · cases arguments.noUpdates <;> rfl
  · intro updates found
    cases unwanted : arguments.noUpdates with
    | true =>
        rw [unwanted] at found
        cases found
    | false =>
        rw [unwanted] at found
        cases found
        exact fun _ _ offered => nomatch offered

/-- The command fails exactly if some provider of an organization did. -/
theorem gatheringOutcome_eq_error_iff (c : Collection) :
    (∃ error, c.gatheringOutcome = .error error) ↔
      ∃ gatherer ∈ c.gatherers, gatherer.ended = some .crashed ∨
        ∃ error, gatherer.ended = some (.returned error) ∧ error.kind ≠ .providerStopped := by
  have failed (gatherer : Gatherer) : gatherer.hasFailed = true ↔
      (gatherer.ended = some .crashed ∨
        ∃ error, gatherer.ended = some (.returned error) ∧ error.kind ≠ .providerStopped) := by
    rw [Gatherer.hasFailed]
    rcases gatherer.ended with _ | error | _ <;> simp [RunEnd.isFailure]
  have outcome : (∃ error, c.gatheringOutcome = .error error) ↔
      0 < c.gatherers.countP (·.hasFailed) := by
    unfold gatheringOutcome
    split
    next none => simp [none]
    next some => exact ⟨fun _ => Nat.pos_of_ne_zero some, fun _ => ⟨_, rfl⟩⟩
  rw [outcome, List.countP_pos_iff]
  simp only [failed]

/-- A download that is over has emptied both lanes. -/
theorem Sound.drained (sound : Sound arguments c l) (left : c.pool.live = 0) (lane : JobKind) :
    (lane ∈ c.pool.source.reads.kinds → (c.pool.source.queue lane).isExhausted = true) ∧
      (c.pool.source.queue lane).items = [] := by
  have books := sound.books
  rw [← books.pool] at left ⊢
  have exhausted : l.pool.source.IsExhausted :=
    (books.staffed.manned books.running).resolve_left (by rw [left]; exact Nat.not_succ_le_zero 0)
  refine ⟨exhausted lane, ?_⟩
  by_cases read : lane ∈ l.pool.source.reads.kinds
  · have drained := exhausted lane read
    rw [JobQueue.isExhausted, Bool.and_eq_true, List.isEmpty_iff] at drained
    exact drained.2
  · -- Only the lane of the updates may not be read, and then nothing is put there.
    have reads := sound.reads
    rw [← books.pool] at reads
    cases unwanted : arguments.noUpdates with
    | false =>
        rw [reads, unwanted] at read
        cases lane <;> exact (read (by decide)).elim
    | true =>
        rw [reads, unwanted] at read
        have order := books.staffed.sound.order .update
        rw [Ledger.acceptedOn, sound.unread unwanted, List.map_nil] at order
        have waiting := (List.append_eq_nil_iff.mp order).2
        cases lane with
        | download => exact (read (by decide)).elim
        | update => exact List.map_eq_nil_iff.mp waiting

/-- What was put into a lane has been counted as discovered, and as succeeded or failed. -/
theorem Sound.totals (sound : Sound arguments c l) (left : c.pool.live = 0) (lane : JobKind) :
    (c.tally.kind lane.label).discovered = (l.accepted lane).length ∧
    (c.tally.kind lane.label).succeeded + (c.tally.kind lane.label).failed =
      (l.accepted lane).length ∧
    l.finished.countP (·.1.kind = lane) = (l.accepted lane).length := by
  have books := sound.books
  have drained := (sound.drained left lane).2
  rw [← books.pool] at left drained
  have perm := books.staffed.sound.finishedOn_perm left drained
  have ended : l.finished.countP (·.1.kind = lane) = (l.accepted lane).length := by
    rw [← books.staffed.sound.length_finishedOn books.kinds lane, perm.length_eq,
      Ledger.acceptedOn, List.length_map]
  have succeeded := books.counted.ended lane .succeeded (JobEvent.noConfusion ·)
  have failed := books.counted.ended lane .failed (JobEvent.noConfusion ·)
  refine ⟨books.counted.discovered lane, ?_, ended⟩
  rw [← ended, ← books.staffed.sound.count_reports lane, ← succeeded, ← failed]
  rfl

end Collection

/-- A download at work, and the jobs that were put into each lane. -/
structure Harvest where
  collection : Collection
  put : JobKind → List LibraryJob := fun _ => []

structure HarvestMove where
  now : Instant
  client : Client
  tidings : Tidings

namespace Harvest

/-- Makes a step of the collection, and puts on record what it has added to the lanes. -/
def act (move : HarvestMove) (h : Harvest) : Option Harvest :=
  (h.collection.step move.now move.client move.tidings).map fun c =>
    { collection := c, put := fun lane => h.put lane ++ h.collection.added c lane }

/-- **A download drains everything that it discovers.**  Take a machine with a processor and a
command with at least one name that is not blank.  The download begins with one provider for each
name.  Let the providers, the updates provider, the workers and the command go on in any order,
whatever the listings and the library answer, however the jobs end, and without an interrupt.  When
the command is over:

* the download lane is closed and empty, and so is the update lane if updates are wanted;
* every worker has left;
* for each kind of jobs, as many were counted as discovered as were put into the lane, and as many
  were counted as succeeded or failed;
* the pool has completed or failed as many jobs as were put into both lanes;
* every provider of an organization has ended, and the command fails exactly if the run of one of
  them broke off or ended otherwise than by being stopped; a failure of the updates provider is not
  one of the command. -/
theorem drains_everything {processors : Nat} (machine : 0 < processors)
    {arguments : DownloadArguments} (named : ∃ org ∈ arguments.orgs, Text.trimmed org ≠ "") :
    ∃ first, Collection.download processors arguments = .ok first ∧
      ∀ (moves : List HarvestMove) (h : Harvest) (outcome : Except CommandError Unit),
        (∀ move ∈ moves, move.tidings.interrupted = false) →
        play act moves { collection := first } = some h →
        h.collection.outcome? = some outcome →
        h.collection.pool.source.download.isExhausted = true ∧
        (arguments.noUpdates = false → h.collection.pool.source.update.isExhausted = true) ∧
        h.collection.pool.isDrained = true ∧
        (∀ lane : JobKind,
          (h.collection.tally.kind lane.label).discovered = (h.put lane).length ∧
          (h.collection.tally.kind lane.label).succeeded +
            (h.collection.tally.kind lane.label).failed = (h.put lane).length) ∧
        h.collection.pool.completed + h.collection.pool.failed =
          (h.put .download).length + (h.put .update).length ∧
        h.collection.gatherers.map (·.org) = arguments.organizations ∧
        h.collection.allEnded = true ∧
        ((∃ error, outcome = .error error) ↔
          ∃ gatherer ∈ h.collection.gatherers, gatherer.ended = some .crashed ∨
            ∃ error, gatherer.ended = some (.returned error) ∧
              error.kind ≠ .providerStopped) := by
  obtain ⟨first, initial, begun, sound, none⟩ := Collection.sound_download machine named
  refine ⟨first, begun, fun moves h outcome uninterrupted played ended => ?_⟩
  have kept (move : HarvestMove) (before after : Harvest)
      (uninterrupted : move.tidings.interrupted = false)
      (held : ∃ l, before.collection.Sound arguments l ∧ l.accepted = before.put)
      (moved : before.act move = some after) :
      ∃ l, after.collection.Sound arguments l ∧ l.accepted = after.put := by
    obtain ⟨l, sound, put⟩ := held
    obtain ⟨c, stepped, rfl⟩ := Option.map_eq_some_iff.mp moved
    obtain ⟨m, kept, grown⟩ := sound.step uninterrupted stepped
    refine ⟨m, kept, funext fun lane => ?_⟩
    rw [grown lane, put]
  obtain ⟨l, sound, put⟩ := play_keeps kept uninterrupted ⟨initial, sound, none⟩ played
  have concluded : h.collection.phase = .over outcome := by
    unfold Collection.outcome? at ended
    split at ended
    next phase =>
      cases ended
      exact phase
    · cases ended
  obtain ⟨gathered, left⟩ : h.collection.Gathered outcome ∧ h.collection.pool.live = 0 := by
    cases sound.steady with
    | gathers phase | settles phase | drains phase => cases concluded.symm.trans phase
    | ends phase gathered left =>
        cases concluded.symm.trans phase
        exact ⟨gathered, left⟩
  have books := sound.books
  have totals := sound.totals left
  rw [put] at totals
  refine ⟨?_, fun wanted => ?_, ?_, fun lane => ⟨(totals lane).1, (totals lane).2.1⟩, ?_,
    sound.orgs, gathered.1, ?_⟩
  · refine (sound.drained left .download).1 ?_
    rw [sound.reads]
    split <;> decide
  · refine (sound.drained left .update).1 ?_
    rw [sound.reads, wanted]
    decide
  · rw [← books.pool] at left ⊢
    exact (books.staffed.sound.hands_of_live left).2
  · rw [← books.pool, books.staffed.sound.processed, ← (totals .download).2.2,
      ← (totals .update).2.2, List.length_eq_countP_add_countP (·.1.kind = .download)]
    refine congrArg _ (List.countP_congr fun entry _ => ?_)
    cases entry.1.kind <;> decide
  · rw [gathered.2]
    exact h.collection.gatheringOutcome_eq_error_iff

/-- One organization with one repository, and a library with one clone. -/
def errand : DownloadArguments :=
  { pool := { library := "mirrors", workers := 1, queueSize := 2 }, orgs := [" acme "] }

def foundRepository : Repository :=
  { fullName := "acme/new", htmlUrl := some "https://host/acme/new" }

def worker (work : Option JobResult) : HarvestMove := ⟨3, .worker 0, { work }⟩

/-- The clone is scheduled for an update, the repository is found, and the worker does both jobs, of
which the second fails. -/
def errandRun : List HarvestMove :=
  [⟨0, .task 1, { inventory := some (.ok ["https://host/acme/old"]) }⟩, ⟨0, .task 1, {}⟩,
    ⟨0, .task 1, {}⟩, ⟨1, .provider 0, {}⟩,
    ⟨2, .provider 0, { repository := some (.ok foundRepository) }⟩,
    ⟨2, .provider 0, {}⟩, ⟨2, .provider 0, { repository := some (.error (.endOfSource none)) }⟩,
    ⟨2, .task 0, {}⟩, ⟨2, .task 0, {}⟩,
    worker none, worker none, worker none, worker (some (.ok ())), worker none, worker none,
    worker none, worker (some (.error .noEndpoints)), worker none, worker none, worker none,
    ⟨4, .task 0, {}⟩]

theorem drains_everything_errand :
    ∃ first h, Collection.download 4 errand = .ok first ∧
      play act errandRun { collection := first } = some h ∧
      h.collection.outcome? = some (.ok ()) ∧
      (h.put .download, h.put .update) =
        ([{ kind := .download, endpoints := ["https://host/acme/new"] }],
          [{ kind := .update, endpoints := ["https://host/acme/old"] }]) ∧
      h.collection.tally.kind "update" = { discovered := 1, failed := 1 } ∧
      h.collection.pool.completed + h.collection.pool.failed = 2 := by
  have named : ∃ org ∈ errand.orgs, Text.trimmed org ≠ "" :=
    ⟨" acme ", List.mem_cons_self, by decide⟩
  obtain ⟨first, begun, drained⟩ := drains_everything (show 0 < 4 by decide) named
  cases begun
  have played := drained errandRun _ (.ok ()) (by simp [errandRun, worker]) rfl rfl
  exact ⟨_, _, rfl, rfl, rfl, rfl, rfl, played.2.2.2.2.1⟩

/-- The library is not a directory and cannot be listed, and the organization has no repository. -/
def unlistedRun : List HarvestMove :=
  [⟨0, .task 1, { inventory := some (.error (.io .notDirectory)) }⟩, ⟨0, .provider 0, {}⟩,
    ⟨1, .provider 0, { repository := some (.error (.endOfSource none)) }⟩, ⟨1, .task 0, {}⟩,
    ⟨1, .task 0, {}⟩, worker none, worker none, worker none, ⟨4, .task 0, {}⟩]

/-- **A download succeeds although the updates provider has failed.**  What ends the updates
provider is a failure of discovery, and the command takes no notice. -/
theorem succeeds_without_updates :
    ∃ first h, Collection.download 4 errand = .ok first ∧
      (∀ move ∈ unlistedRun, move.tidings.interrupted = false) ∧
      play act unlistedRun { collection := first } = some h ∧
      h.collection.outcome? = some (.ok ()) ∧
      ∃ updates error, h.collection.updates = some updates ∧
        updates.result? = some (.error error) ∧ error.kind = .discovery :=
  ⟨_, _, rfl, by simp [unlistedRun, worker], rfl, rfl, _, _, rfl, rfl, rfl⟩

end Harvest

end RepoCollector
