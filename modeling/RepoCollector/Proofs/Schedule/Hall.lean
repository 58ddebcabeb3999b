import RepoCollector.Proofs.Schedule.Visits

/-! # The hall before the lanes

Any number of clients visit the same lanes at the same time.  In every state that they can bring
about, a client is in line only where its visit says, and only once (`RepoCollector.Hall.Sound`).  A
visitor that asks for jobs can therefore be dropped at any point, even after a job was granted to
it, and no job goes with it (`RepoCollector.Hall.leaves_no_trace`).

That nothing is left of a dropped visit is also said of whole runs: if nobody else asked for jobs in
the meantime, then the run in which the visitor never came ends in the same state.
-/

namespace RepoCollector

/-- Two lanes, a scheduler and its visitors. -/
structure Hall where
  lanes : Lanes
  opts : SchedulerOpts := {}
  /-- Whether the scheduler was told to stop. -/
  stopped : Bool := false
  visits : Client → Option Visit := fun _ => none

/-- What can happen in a hall. -/
inductive HallMove where
  /-- A client that is not there yet comes in. -/
  | begin (now : Instant) (client : Client) (intent : Intent)
  | step (now : Instant) (client : Client) (draw : Float)
  /-- A visit is dropped where it stands. -/
  | abandon (client : Client)
  /-- Somebody receives without waiting. -/
  | tryRecv (lane : JobKind)
  | close (lane : JobKind)
  | stop

namespace HallMove

def isBy (client : Client) : HallMove → Bool
  | .begin _ other _ | .step _ other _ | .abandon other => other = client
  | .tryRecv _ | .close _ | .stop => false

/-- Whether the move may be made beside a client that asks for jobs and does not leave: nobody else
asks for any. -/
def isQuiet (client : Client) : HallMove → Bool
  | .begin _ other intent => other ≠ client ∧ intent.isSend
  | .abandon other => other ≠ client
  | .tryRecv _ => false
  | .step _ _ _ | .close _ | .stop => true

end HallMove

namespace Hall

/-- Makes a move, if it is possible.  A client that has a visit goes on with it or abandons it
before another one begins. -/
def act (move : HallMove) (s : Hall) : Option Hall :=
  match move with
  | .begin now client intent =>
    match s.visits client with
    | none =>
      some { s with
        visits := Function.update s.visits client (some (.start now s.opts s.lanes intent)) }
    | some _ => none
  | .step now client draw =>
    match s.visits client with
    | none => none
    | some visit => (visit.step s.opts s.stopped now client draw s.lanes).map fun after =>
        { s with lanes := after.1, visits := Function.update s.visits client after.2 }
  | .abandon client =>
    match s.visits client with
    | none => none
    | some visit =>
      some { s with
        lanes := visit.abandon client s.lanes, visits := Function.update s.visits client none }
  | .tryRecv lane => some { s with lanes := s.lanes.modify lane (·.tryRecv.1) }
  | .close lane => some { s with lanes := s.lanes.modify lane (·.close) }
  | .stop => some { s with stopped := true }

/-- **What holds of a hall at every moment.** -/
structure Sound (s : Hall) : Prop where
  balanced : s.lanes.Balanced
  once : ∀ lane, (s.lanes.queue lane).watchers.Nodup
  known : ∀ lane client, client ∈ (s.lanes.queue lane).watchers →
    (s.visits client).any (·.awaits s.lanes.reads lane) = true

/-- Nobody but a client waits for a job. -/
def IsAlone (client : Client) (s : Hall) : Prop :=
  ∀ other visit, other ≠ client → s.visits other = some visit →
    ∀ lane, visit.awaits s.lanes.reads lane = false

/-- Nobody but a client asks for jobs. -/
def IsLone (client : Client) (s : Hall) : Prop :=
  ∀ other visit, other ≠ client → s.visits other = some visit → visit.isConsumer = false

/-- A hall in which a client is not. -/
def forget (client : Client) (s : Hall) : Hall :=
  { s with lanes := s.lanes.without client, visits := Function.update s.visits client none }

variable {s t : Hall} {client : Client}

theorem visits_forget (s : Hall) {other : Client} (different : other ≠ client) :
    (s.forget client).visits other = s.visits other := by
  simp only [forget, Function.update_of_ne different]

theorem sound_start {lanes : Lanes} (balanced : lanes.Balanced) (unattended : lanes.Unattended)
    (opts : SchedulerOpts) : Sound { lanes, opts } where
  balanced := balanced
  once := fun lane => unattended lane ▸ List.nodup_nil
  known := fun lane client member => by
    rw [unattended lane] at member
    exact (List.not_mem_nil member).elim

/-- A client is in no line where its visit does not wait. -/
theorem Sound.absent (sound : s.Sound) {visit : Visit} (held : s.visits client = some visit)
    (lane : JobKind) (quiet : visit.awaits s.lanes.reads lane = false) :
    client ∉ (s.lanes.queue lane).watchers := by
  intro member
  have waits := sound.known lane client member
  rw [held, Option.any_some, quiet] at waits
  cases waits

/-- One visitor has moved on, and nobody else has moved. -/
private theorem Sound.moved (sound : s.Sound) {lanes : Lanes} {next : Option Visit}
    (kept : lanes.Balanced ∧ lanes.reads = s.lanes.reads)
    (relined : ∀ lane, (s.lanes.queue lane).Relined client
      (next.any (·.awaits s.lanes.reads lane)) (lanes.queue lane)) :
    ({ s with lanes, visits := Function.update s.visits client next } : Hall).Sound where
  balanced := kept.1
  once := fun lane => (relined lane).nodup (sound.once lane)
  known := fun lane other member => by
    dsimp only at member ⊢
    rw [kept.2]
    rcases (relined lane).mem (sound.once lane) member with ⟨rfl, waits⟩ | ⟨different, before⟩
    · rw [Function.update_self]
      exact waits
    · rw [Function.update_of_ne different]
      exact sound.known lane other before

/-- What happens to a queue and moves nobody in line. -/
private theorem Sound.modify (sound : s.Sound) {lane : JobKind}
    {change : JobQueue LibraryJob → JobQueue LibraryJob}
    (balanced : (change (s.lanes.queue lane)).Balanced)
    (same : (change (s.lanes.queue lane)).watchers = (s.lanes.queue lane).watchers) :
    ({ s with lanes := s.lanes.modify lane change } : Hall).Sound := by
  have still (other : JobKind) :
      ((s.lanes.modify lane change).queue other).watchers = (s.lanes.queue other).watchers := by
    by_cases here : other = lane
    · subst here
      rw [Lanes.modify, Lanes.queue_setQueue_self, same]
    · rw [Lanes.modify, Lanes.queue_setQueue_of_ne _ here]
  refine ⟨sound.balanced.setQueue balanced, fun other => ?_, fun other client member => ?_⟩
  · dsimp only
    rw [still other]
    exact sound.once other
  · dsimp only at member ⊢
    rw [still other] at member
    rw [Lanes.modify, Lanes.reads_setQueue]
    exact sound.known other client member

/-- **Every move keeps a hall sound.** -/
theorem Sound.act {move : HallMove} (sound : s.Sound) (moved : act move s = some t) : t.Sound := by
  cases move with
  | begin now client intent =>
      simp only [Hall.act] at moved
      split at moved
      next away =>
        cases moved
        refine sound.moved ⟨sound.balanced, rfl⟩ fun lane => ?_
        refine JobQueue.relined_of_absent _ (fun member => ?_) rfl
        have waits := sound.known lane client member
        rw [away] at waits
        cases waits
      · cases moved
  | step now client draw =>
      simp only [Hall.act] at moved
      split at moved
      · cases moved
      next visit held =>
        obtain ⟨⟨lanes, next⟩, stepped, rfl⟩ := Option.map_eq_some_iff.mp moved
        exact sound.moved (Visit.step_keeps sound.balanced stepped)
          (Visit.step_relined sound.balanced (sound.absent held) stepped)
  | abandon client =>
      simp only [Hall.act] at moved
      split at moved
      · cases moved
      next visit held =>
        cases moved
        exact sound.moved (Visit.abandon_keeps sound.balanced client visit)
          (Visit.abandon_relined (sound.absent held))
  | tryRecv lane =>
      cases moved
      refine sound.modify ?_ (s.lanes.queue lane).watchers_tryRecv
      rcases (sound.balanced lane).tryRecv_cases with ⟨job, after, tried, _, keeps⟩ | ⟨tried, _⟩ |
        ⟨tried, _⟩
      · rw [tried]
        exact keeps.balanced (sound.balanced lane)
      · rw [tried]
        exact sound.balanced lane
      · rw [tried]
        exact sound.balanced lane
  | close lane =>
      cases moved
      exact sound.modify (sound.balanced lane).close rfl
  | stop =>
      cases moved
      exact ⟨sound.balanced, sound.once, sound.known⟩

theorem sound_of_play {lanes : Lanes} (balanced : lanes.Balanced) (unattended : lanes.Unattended)
    {opts : SchedulerOpts} {moves : List HallMove}
    (played : play act moves { lanes, opts } = some s) :
    s.Sound :=
  play_keeps (fun _ _ _ _ sound moved => sound.act moved) (fun _ _ => trivial)
    (sound_start balanced unattended opts) played

/-- A dropped consumer leaves the hall as if it were not there. -/
theorem Sound.act_abandon (sound : s.Sound) {visit : Visit} (held : s.visits client = some visit)
    (consumer : visit.isConsumer = true) :
    Hall.act (.abandon client) s = some (s.forget client) := by
  simp only [Hall.act, held, forget, Visit.abandon_eq_without consumer (sound.absent held)]

theorem IsLone.isAlone (lone : s.IsLone client) : s.IsAlone client := by
  intro other visit different held lane
  have sends := lone other visit different held
  cases visit with
  | call place pending =>
      obtain ⟨call, parked⟩ := pending
      cases call with
      | send job deadline => exact Bool.and_false _
      | recv | ready => cases sends
  | attempt | request => cases sends

theorem Sound.unattended_forget (sound : s.Sound) (alone : s.IsAlone client) :
    (s.lanes.without client).Unattended := by
  intro lane
  rw [Lanes.queue_without, JobQueue.watchers_abandonReady]
  refine List.eq_nil_iff_forall_not_mem.mpr fun other member => ?_
  obtain ⟨different, member⟩ := ((sound.once lane).mem_erase_iff).mp member
  obtain ⟨visit, held, waits⟩ := (Option.any_eq_true _ _).mp (sound.known lane other member)
  rw [alone other visit different held lane] at waits
  cases waits

/-! ## Runs without a visitor -/

/-- A quiet move of somebody else is possible without a client as well, and comes to the same. -/
private theorem Sound.act_forget (sound : s.Sound) (lone : s.IsLone client) {move : HallMove}
    (other : move.isBy client = false) (quiet : move.isQuiet client = true)
    (moved : Hall.act move s = some t) :
    t.visits client = s.visits client ∧
      Hall.act move (s.forget client) = some (t.forget client) := by
  cases move with
  | begin now visitor intent =>
      have other : visitor ≠ client := of_decide_eq_false other
      have still := s.visits_forget other
      simp only [Hall.act, still] at moved ⊢
      split at moved
      · cases moved
        refine ⟨Function.update_of_ne (Ne.symm other) _ _, congrArg some ?_⟩
        simp only [forget, Function.update_comm other]
        rfl
      · cases moved
  | step now visitor draw =>
      have other : visitor ≠ client := of_decide_eq_false other
      have still := s.visits_forget other
      simp only [Hall.act, still] at moved ⊢
      split at moved
      · cases moved
      next visit held =>
        obtain ⟨⟨lanes, next⟩, stepped, rfl⟩ := Option.map_eq_some_iff.mp moved
        refine ⟨Function.update_of_ne (Ne.symm other) _ _, ?_⟩
        have sends := lone visitor visit other held
        simp only [forget, Visit.step_of_without sends, stepped, Option.map_some,
          Function.update_comm other]
  | abandon visitor =>
      have other : visitor ≠ client := of_decide_eq_false other
      have still := s.visits_forget other
      simp only [Hall.act, still] at moved ⊢
      split at moved
      · cases moved
      next visit held =>
        cases moved
        refine ⟨Function.update_of_ne (Ne.symm other) _ _, congrArg some ?_⟩
        have sends := lone visitor visit other held
        simp only [forget, Visit.abandon_of_without sends, Function.update_comm other]
  | tryRecv lane => cases quiet
  | close lane =>
      cases moved
      refine ⟨rfl, congrArg some ?_⟩
      have here := sound.unattended_forget lone.isAlone lane
      rw [Lanes.queue_without, JobQueue.watchers_abandonReady] at here
      simp only [forget, Lanes.modify, Lanes.setQueue_without, Lanes.queue_without,
        JobQueue.close_abandonReady here]
  | stop =>
      cases moved
      exact ⟨rfl, rfl⟩

private theorem IsLone.update {visits : Client → Option Visit}
    (lone : ∀ other visit, other ≠ client → visits other = some visit → visit.isConsumer = false)
    {visitor : Client} {next : Option Visit}
    (sends : visitor ≠ client → ∀ visit, next = some visit → visit.isConsumer = false) :
    ∀ other visit, other ≠ client → Function.update visits visitor next other = some visit →
      visit.isConsumer = false := by
  intro other visit different held
  by_cases same : other = visitor
  · subst same
    rw [Function.update_self] at held
    exact sends different visit held
  · rw [Function.update_of_ne same] at held
    exact lone other visit different held

private theorem IsLone.act (sound : s.Sound) (lone : s.IsLone client) {move : HallMove}
    (quiet : move.isQuiet client = true) (moved : Hall.act move s = some t) : t.IsLone client := by
  cases move with
  | begin now visitor intent =>
      simp only [Hall.act] at moved
      split at moved
      · cases moved
        refine IsLone.update lone fun _ visit begun => ?_
        cases begun
        have sends := (of_decide_eq_true quiet).2
        cases intent with
        | call lane asked =>
            cases asked with
            | send job deadline => rfl
            | recv | ready => cases sends
        | attempt | request => cases sends
      · cases moved
  | step now visitor draw =>
      simp only [Hall.act] at moved
      split at moved
      · cases moved
      next visit held =>
        obtain ⟨⟨lanes, next⟩, stepped, rfl⟩ := Option.map_eq_some_iff.mp moved
        refine IsLone.update lone fun different later going => ?_
        dsimp only at going
        subst going
        exact (Visit.isConsumer_of_step sound.balanced stepped).trans (lone _ _ different held)
  | abandon visitor =>
      simp only [Hall.act] at moved
      split at moved
      · cases moved
      · cases moved
        exact IsLone.update lone fun _ _ none => by cases none
  | tryRecv lane => cases quiet
  | close lane | stop =>
      cases moved
      exact lone

/-- **A run without one of its visitors.**  The other moves can be made without it, and end where it
has left. -/
private theorem Sound.play_forget (sound : s.Sound) (lone : s.IsLone client)
    {moves : List HallMove} (quiet : ∀ move ∈ moves, move.isQuiet client = true)
    (played : play Hall.act moves s = some t) {last : Visit} (held : t.visits client = some last)
    (consumer : last.isConsumer = true) :
    (∃ visit, s.visits client = some visit ∧ visit.isConsumer = true) ∧
      play Hall.act (moves.filter (!·.isBy client)) (s.forget client) = some (t.forget client) := by
  induction moves generalizing s with
  | nil =>
      cases played
      exact ⟨⟨last, held, consumer⟩, rfl⟩
  | cons move moves ih =>
      obtain ⟨u, moved, rest⟩ := play_cons played
      have calm := quiet move List.mem_cons_self
      obtain ⟨⟨visit, there, asks⟩, replayed⟩ := ih (sound.act moved) (lone.act sound calm moved)
        (fun later member => quiet later (List.mem_cons_of_mem _ member)) rest
      cases own : move.isBy client with
      | false =>
          obtain ⟨same, again⟩ := sound.act_forget lone own calm moved
          refine ⟨⟨visit, same ▸ there, asks⟩, ?_⟩
          rw [List.filter_cons_of_pos (by rw [own]; rfl)]
          exact Option.bind_eq_some_iff.mpr ⟨_, again, replayed⟩
      | true =>
          rw [List.filter_cons_of_neg (by rw [own]; exact Bool.false_ne_true)]
          cases move with
          | step now visitor draw =>
              obtain rfl : visitor = client := of_decide_eq_true own
              simp only [Hall.act] at moved
              split at moved
              · cases moved
              next before here =>
                obtain ⟨⟨lanes, next⟩, stepped, rfl⟩ := Option.map_eq_some_iff.mp moved
                simp only [Function.update_self] at there
                subst there
                have asked := (Visit.isConsumer_of_step sound.balanced stepped).symm.trans asks
                have still := Visit.step_without asked sound.balanced sound.once
                  (sound.unattended_forget lone.isAlone) (sound.absent here) stepped
                refine ⟨⟨before, here, asked⟩, ?_⟩
                rw [← replayed]
                simp only [forget, still, Function.update_idem]
          | begin now visitor intent =>
              exact absurd (of_decide_eq_true own) (of_decide_eq_true calm).1
          | abandon visitor => exact absurd (of_decide_eq_true own) (of_decide_eq_true calm)
          | tryRecv | close | stop => cases own

/-- A visitor that is there comes in, and then the others have the hall to themselves. -/
private theorem play_without {start : Hall} {before during : List HallMove} {now : Instant}
    {intent : Intent} (sound : start.Sound)
    (played : play act (before ++ .begin now client intent :: during) start = some s)
    (lone : ∀ r, play act before start = some r → r.IsLone client)
    (quiet : ∀ move ∈ during, move.isQuiet client = true) {visit : Visit}
    (held : s.visits client = some visit) (consumer : visit.isConsumer = true) :
    play act (before ++ during.filter (!·.isBy client)) start = some (s.forget client) := by
  obtain ⟨r, came, rest⟩ := play_append played
  obtain ⟨u, begun, rest⟩ := play_cons rest
  have here : r.Sound := play_keeps (fun _ _ _ _ sound moved => sound.act moved)
    (fun _ _ => trivial) sound came
  simp only [Hall.act] at begun
  split at begun
  next away =>
    cases begun
    have absent (lane : JobKind) : client ∉ (r.lanes.queue lane).watchers := by
      intro member
      have waits := here.known lane client member
      rw [away] at waits
      cases waits
    have alone : IsLone client
        { r with
          visits := Function.update r.visits client (some (.start now r.opts r.lanes intent)) } :=
      IsLone.update (lone r came) fun different => absurd rfl different
    have begun : act (.begin now client intent) r = some { r with
        visits := Function.update r.visits client (some (.start now r.opts r.lanes intent)) } := by
      simp only [Hall.act, away]
    obtain ⟨_, replayed⟩ := (here.act begun).play_forget alone quiet rest held consumer
    refine play_append_of_play came (Eq.trans (congrArg _ ?_) replayed)
    have same : Function.update r.visits client none = r.visits := by
      rw [← away, Function.update_eq_self]
    simp only [forget, Function.update_idem, same, Lanes.without_of_not_mem absent]
  · cases begun

/-- **A consumer that is dropped leaves no trace.**  Take lanes at which nobody waits, and let any
number of clients send, receive, wait and ask for jobs there, drop what they began, close the lanes
and stop the scheduler, in any order.  When a visit that asks for jobs is dropped then, wherever it
stands:

* all jobs stay where they are, in their order, and so does the run of downloads, and the other
  visits go on;
* the client leaves every line, and a permit that it was granted is free again or granted to the
  next one;
* if nobody else waits for jobs, then the next receiver and the next look at the lanes find what is
  there;
* if nobody else asked for jobs since the client came, all is as it would be if it had not come. -/
theorem leaves_no_trace {lanes : Lanes} (balanced : lanes.Balanced) (unattended : lanes.Unattended)
    (opts : SchedulerOpts) {moves : List HallMove}
    (played : play act moves { lanes, opts } = some s) {visit : Visit}
    (held : s.visits client = some visit) (consumer : visit.isConsumer = true) :
    ∃ t, act (.abandon client) s = some t ∧
      (∀ lane, (t.lanes.queue lane).items = (s.lanes.queue lane).items ∧
        (t.lanes.queue lane).slots = (s.lanes.queue lane).slots ∧
        Semaphore.Leaves client (s.lanes.queue lane).available (t.lanes.queue lane).available ∧
        client ∉ (t.lanes.queue lane).watchers) ∧
      s.lanes.SameRule t.lanes ∧
      (∀ other, other ≠ client → t.visits other = s.visits other) ∧
      (s.IsAlone client →
        (∀ lane, (t.lanes.queue lane).tryRecv.2 = (s.lanes.queue lane).offers) ∧
        t.lanes.dispatch.2 = s.lanes.offers) ∧
      ∀ before now intent during, moves = before ++ .begin now client intent :: during →
        (∀ r, play act before { lanes, opts } = some r → r.IsLone client) →
        (∀ move ∈ during, move.isQuiet client = true) →
        play act (before ++ during.filter (!·.isBy client)) { lanes, opts } = some t := by
  have sound := sound_of_play balanced unattended played
  refine ⟨s.forget client, sound.act_abandon held consumer, fun lane => ?_, ⟨rfl, rfl, rfl⟩,
    fun other different => s.visits_forget different, fun alone => ?_, ?_⟩
  · simp only [forget, Lanes.queue_without]
    refine ⟨rfl, rfl, Semaphore.abandon_leaves _ client, ?_⟩
    rw [JobQueue.watchers_abandonReady, (sound.once lane).mem_erase_iff]
    exact fun member => member.1 rfl
  · have lone := sound.unattended_forget alone
    have kept := (Lanes.without_sameJobs client s.lanes).balanced sound.balanced
    refine ⟨fun lane => ?_, ?_⟩
    · refine ((kept lane).tryRecv_eq_offers (lone lane)).trans ?_
      rw [Lanes.queue_without]
      rfl
    · exact (Lanes.dispatch_eq_offers kept lone).trans (Lanes.offers_without client s.lanes)
  · intro before now intent during split lone quiet
    subst split
    exact play_without (sound_start balanced unattended opts) played lone quiet held consumer

/-- A worker asks for its next job and waits.  A download comes in and is granted to it, and another
one comes in behind. -/
def calledAway : List HallMove :=
  [.begin 0 (.worker 0) .request, .step 0 (.worker 0) 0.0, .step 0 (.worker 0) 0.0,
    .begin 1 (.task 1) (.call .download (.send (.download ["a"]) none)), .step 1 (.task 1) 0.0,
    .begin 2 (.task 2) (.call .download (.send (.download ["b"]) none)), .step 2 (.task 2) 0.0]

/-- Lanes with room for two jobs each. -/
def quietLanes : Lanes :=
  { reads := .combined, download := .make "downloads" 2, update := .make "updates" 2 }

theorem calledAway_account :
    (play act calledAway { lanes := quietLanes }).map (fun s =>
      (s.lanes.download.available.granted, (s.visits (.worker 0)).any Visit.isConsumer)) =
      some ([.worker 0], true) := by
  decide +kernel

theorem uncalled_account :
    (play act (calledAway.filter (!·.isBy (.worker 0))) { lanes := quietLanes }).map (fun t =>
      (t.lanes.download.items, t.lanes.download.available, t.lanes.update.available)) =
      some ([.download ["a"], .download ["b"]], { permits := 2 }, { permits := 0 }) := by
  decide +kernel

/-- The worker is dropped before it is run again. -/
theorem leaves_no_trace_calledAway :
    ∃ s t, play act calledAway { lanes := quietLanes } = some s ∧
      s.lanes.download.available.granted = [.worker 0] ∧
      act (.abandon (.worker 0)) s = some t ∧
      play act (calledAway.filter (!·.isBy (.worker 0))) { lanes := quietLanes } = some t ∧
      t.lanes.download.items = [.download ["a"], .download ["b"]] ∧
      t.lanes.download.available = { permits := 2 } := by
  obtain ⟨s, played, account⟩ := Option.map_eq_some_iff.mp calledAway_account
  injection account with granted asks
  obtain ⟨visit, held, consumer⟩ := (Option.any_eq_true _ _).mp asks
  have balanced : quietLanes.Balanced := fun lane => by
    cases lane <;> exact JobQueue.balanced_make _ _
  have unattended : quietLanes.Unattended := fun lane => by
    cases lane <;> rfl
  obtain ⟨t, dropped, _, _, _, _, replay⟩ :=
    leaves_no_trace balanced unattended {} played held consumer
  have nobody : ∀ r, play act [] { lanes := quietLanes } = some r → r.IsLone (.worker 0) := by
    intro r came other visit _ there
    cases came
    cases there
  have quiet : ∀ move ∈ calledAway.tail, move.isQuiet (.worker 0) = true := by decide
  have replayed : play act (calledAway.filter (!·.isBy (.worker 0))) { lanes := quietLanes } =
      some t :=
    replay [] 0 .request calledAway.tail rfl nobody quiet
  have uncalled := uncalled_account
  rw [replayed] at uncalled
  injection uncalled with uncalled
  injection uncalled with items permits
  injection permits with permits _
  exact ⟨s, t, played, granted, dropped, replayed, items, permits⟩

end Hall

end RepoCollector
