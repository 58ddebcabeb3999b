import RepoCollector.Proofs.Discovery.Turn
import RepoCollector.Proofs.Play

/-! # Deliveries of a provider

A delivery is a run of a provider beside everything that others do with its queue.  It keeps a
record of the repositories that the source gave and of the jobs that were put into the queue.

A provider has at most one job in its hands, and none while it asks its source
(`RepoCollector.Provider.Tidy`).  So its retry buffer always has room, and jobs leave in the order
in which their repositories came (`RepoCollector.Delivery.delivers_in_order`).
-/

namespace RepoCollector

def ProviderEvent.error? : ProviderEvent → Option ProviderError
  | .ended error => some error
  | .asked | .enqueued _ => none

namespace Provider

/-- The jobs that a provider has found and not yet put into the queue. -/
def held (p : Provider) : List LibraryJob := p.phase.job?.toList ++ p.retry

/-- The repository that a step takes from the source. -/
def takes? (answer : Option (Except DiscoveryError Repository)) (p : Provider) :
    Option Repository :=
  if p.stopRequested then none
  else
    match p.phase, answer with
    | .asking, some (.ok repo) => some repo
    | _, _ => none

/-- The job in the middle of being sent when a step ends the run. -/
def givesUp? (answer : Option (Except DiscoveryError Repository)) (event : Option ProviderEvent)
    (p : Provider) : Option LibraryJob :=
  match event with
  | some (.ended _) =>
    if p.stopRequested then p.phase.job? else (p.offers? answer).map Prod.fst
  | _ => none

/-- What holds of the jobs in a provider's hands. -/
structure Tidy (p : Provider) : Prop where
  room : 0 < p.opts.maxJobBuffer
  one : p.held.length ≤ 1
  asking : p.phase = .asking → p.retry = []

/-- A provider that waits for a slot has room for the job. -/
theorem Tidy.buffer_of_sending {p : Provider} (tidy : p.Tidy) {job : LibraryJob}
    {deadline : Instant} (sends : p.phase = .sending job deadline) : p.retry = [] := by
  have one : (job :: p.retry).length ≤ 1 := by
    have one := tidy.one
    rw [held, sends] at one
    exact one
  exact List.length_eq_zero_iff.mp (Nat.le_zero.mp (Nat.le_of_succ_le_succ one))

theorem Tidy.keep {p : Provider} (tidy : p.Tidy) {job : LibraryJob} {deadline : Instant}
    (sends : p.phase = .sending job deadline) : p.keep job = { p with retry := [job] } := by
  have buffer := tidy.buffer_of_sending sends
  have room : p.retry.length < p.opts.maxJobBuffer := by
    rw [buffer]
    exact tidy.room
  unfold Provider.keep
  rw [if_pos room, buffer]
  rfl

variable {now : Instant} {client : Client} {answer : Option (Except DiscoveryError Repository)}
  {p next : Provider} {q after : JobQueue LibraryJob} {event : Option ProviderEvent}

/-- What is offered was in the provider's hands or comes from the source now. -/
theorem Tidy.offered {job : LibraryJob} {retry : List LibraryJob} (tidy : p.Tidy)
    (going : p.stopRequested = false) (offered : p.offers? answer = some (job, retry)) :
    p.held ++ (p.takes? answer).toList.filterMap jobFor? = job :: retry ∧ retry = [] := by
  have one := tidy.one
  unfold offers? at offered
  split at offered
  next decides =>
    cases buffer : p.retry with
    | nil => simp only [buffer, List.head?_nil, Option.map_none, reduceCtorEq] at offered
    | cons head rest =>
        simp only [buffer, List.head?_cons, List.tail_cons, Option.map_some, Option.some.injEq,
          Prod.mk.injEq] at offered
        obtain ⟨rfl, rfl⟩ := offered
        rw [held, decides, buffer] at one
        have none : rest = [] :=
          List.length_eq_zero_iff.mp (Nat.le_zero.mp (Nat.le_of_succ_le_succ one))
        refine ⟨?_, none⟩
        simp [held, takes?, decides, ProviderPhase.job?, buffer, going]
  next asked =>
    have buffer := tidy.asking asked
    split at offered
    next repo =>
      obtain ⟨found, same, told⟩ := Option.map_eq_some_iff.mp offered
      cases told
      refine ⟨?_, buffer⟩
      simp [held, takes?, asked, ProviderPhase.job?, buffer, going, same]
    · cases offered
  next sends =>
    cases offered
    refine ⟨?_, tidy.buffer_of_sending sends⟩
    simp [held, takes?, sends, ProviderPhase.job?, going]
  · cases offered
  · cases offered

theorem Tidy.one_taken (tidy : p.Tidy) (answer : Option (Except DiscoveryError Repository)) :
    (p.held ++ (p.takes? answer).toList.filterMap jobFor?).length ≤ 1 := by
  cases taken : p.takes? answer with
  | none =>
      rw [Option.toList_none, List.filterMap_nil, List.append_nil]
      exact tidy.one
  | some repo =>
      have held : p.held = [] := by
        unfold takes? at taken
        split at taken
        · cases taken
        · split at taken
          next asked =>
            rw [Provider.held, asked, tidy.asking asked]
            rfl
          · cases taken
      rw [held, List.nil_append]
      exact List.length_filterMap_le jobFor? _

namespace Turn

theorem opts (turn : Turn now client answer p q next after event) : next.opts = p.opts := by
  cases turn with
  | timesOut =>
      simp only [backOff, keep]
      split <;> rfl
  | stops | asks | delivers | refused | waits | skips | fails | rests | wakes => rfl

theorem tidy (turn : Turn now client answer p q next after event) (tidy : p.Tidy) : next.Tidy := by
  refine ⟨turn.opts ▸ tidy.room, ?_, ?_⟩
  · have one := tidy.one
    cases turn with
    | delivers going offered | waits going offered | refused going offered =>
        have buffer := (tidy.offered going offered).2
        simp [held, finish, ProviderPhase.job?, buffer]
    | timesOut _ sends =>
        rw [tidy.keep sends]
        exact Nat.le_refl 1
    | stops | fails =>
        rw [held, List.length_append] at one
        exact Nat.le_trans (Nat.le_add_left _ _) one
    | asks _ decides | skips _ decides | rests _ decides | wakes _ decides =>
        rw [held, decides] at one
        exact one
  · cases turn with
    | asks _ _ buffer => exact fun _ => buffer
    | stops | delivers | refused | waits | skips | fails | rests | timesOut | wakes =>
        exact fun asked => nomatch asked

/-- **A turn loses no job.**  What was in the provider's hands and what the source gives is put into
the queue, stays in the provider's hands, or is given up. -/
theorem conserves (turn : Turn now client answer p q next after event) (tidy : p.Tidy) :
    (event.bind ProviderEvent.enqueued?).toList ++
        ((p.givesUp? answer event).toList ++ next.held) =
      p.held ++ (p.takes? answer).toList.filterMap jobFor? := by
  cases turn with
  | stops _ requested =>
      simp [ProviderEvent.enqueued?, givesUp?, takes?, requested, held, finish, ProviderPhase.job?]
  | delivers going offered | waits going offered =>
      rw [(tidy.offered going offered).1]
      rfl
  | refused going offered =>
      rw [(tidy.offered going offered).1]
      simp [ProviderEvent.enqueued?, givesUp?, going, offered, held, finish, ProviderPhase.job?]
  | timesOut going sends =>
      have buffer := tidy.buffer_of_sending sends
      rw [tidy.keep sends]
      simp [givesUp?, takes?, sends, going, held, backOff, ProviderPhase.job?, buffer]
  | asks going decides =>
      simp [ProviderEvent.enqueued?, givesUp?, takes?, going, decides, held, ProviderPhase.job?]
  | skips going asked told missing =>
      simp [givesUp?, takes?, going, asked, told, missing, held, ProviderPhase.job?]
  | fails going asked told =>
      simp [ProviderEvent.enqueued?, givesUp?, offers?, takes?, going, asked, told, held, finish,
        ProviderPhase.job?]
  | rests going asked told =>
      simp [givesUp?, takes?, going, asked, told, held, ProviderPhase.job?]
  | wakes going rested =>
      simp [givesUp?, takes?, going, rested, held, ProviderPhase.job?]

/-- Only downloads are put into the queue. -/
theorem downloads (turn : Turn now client answer p q next after event) (tidy : p.Tidy)
    (downloads : ∀ job ∈ p.held, job.kind = .download) :
    (∀ job ∈ next.held, job.kind = .download) ∧
      ∀ job ∈ (event.bind ProviderEvent.enqueued?).toList, job.kind = .download := by
  have found : ∀ job ∈ p.held ++ (p.takes? answer).toList.filterMap jobFor?,
      job.kind = .download := by
    intro job member
    rcases List.mem_append.mp member with held | taken
    · exact downloads job held
    · obtain ⟨_, _, found⟩ := List.mem_filterMap.mp taken
      exact kind_of_jobFor? found
  rw [← turn.conserves tidy] at found
  constructor
  · intro job held
    exact found job (List.mem_append_right _ (List.mem_append_right _ held))
  · intro job put
    exact found job (List.mem_append_left _ put)

/-- A run is over from the step that says so. -/
theorem error?_eq_none_iff (turn : Turn now client answer p q next after event) :
    event.bind ProviderEvent.error? = none ↔ next.phase ≠ .outside := by
  cases turn <;> simp [ProviderEvent.error?, finish, backOff]

/-- **How a run ends.**  A stop was requested, or the queue is closed, or else the source failed for
good; then the provider has nothing in its hands. -/
theorem ending {error : ProviderError}
    (turn : Turn now client answer p q next after (some (.ended error))) (tidy : p.Tidy) :
    (error = .stopped ∧ next.stopRequested = true) ∨
    (error = .byQueue .providerStopped after.name ∧ after.isClosed = true) ∨
    (next.retry = [] ∧ p.givesUp? answer (some (.ended error)) = none) := by
  cases turn with
  | stops _ requested => exact Or.inl ⟨rfl, requested⟩
  | refused _ _ closed keeps =>
      rw [keeps.name, keeps.closed]
      exact Or.inr (Or.inl ⟨rfl, closed⟩)
  | fails going asked told =>
      refine Or.inr (Or.inr ⟨tidy.asking asked, ?_⟩)
      simp [givesUp?, offers?, going, asked, told]

end Turn

end Provider

/-- A provider, its queue, and what became of the repositories that its source gave. -/
structure Delivery where
  provider : Provider
  queue : JobQueue LibraryJob
  /-- The repositories that the source gave, the first one first. -/
  yielded : List Repository := []
  /-- The jobs that the provider's steps added to the queue, the first one first. -/
  put : List LibraryJob := []
  /-- How the run ended, if it has. -/
  ended : Option ProviderError := none
  /-- The job that was in the middle of being sent when the run ended. -/
  givenUp : Option LibraryJob := none

/-- What can happen during a run. -/
inductive DeliveryMove where
  /-- Others have used the queue, in any way; but it does not open again once it is closed. -/
  | others (queue : JobQueue LibraryJob)
  | requestStop
  | step (now : Instant) (answer : Option (Except DiscoveryError Repository)) (draw : Option Float)

namespace Delivery

def start (p : Provider) (q : JobQueue LibraryJob) : Delivery :=
  { provider := p.start, queue := q }

def advance (d : Delivery) (answer : Option (Except DiscoveryError Repository))
    (provider : Provider) (queue : JobQueue LibraryJob) (event : Option ProviderEvent) : Delivery :=
  { provider, queue
    yielded := d.yielded ++ (d.provider.takes? answer).toList
    put := d.put ++ queue.items.drop d.queue.items.length
    ended := event.bind ProviderEvent.error?
    givenUp := d.provider.givesUp? answer event }

/-- Makes a move, if it is possible. -/
def act (client : Client) (move : DeliveryMove) (d : Delivery) : Option Delivery :=
  match move with
  | .others queue =>
    if queue.name = d.queue.name ∧ (d.queue.isClosed = true → queue.isClosed = true) then
      some { d with queue }
    else none
  | .requestStop => some { d with provider := d.provider.requestStop }
  | .step now answer draw => (d.provider.step now client answer draw d.queue).map fun after =>
      d.advance answer after.1 after.2.1 after.2.2

/-- The jobs that were found and not put into the queue. -/
def pending (d : Delivery) : List LibraryJob := d.givenUp.toList ++ d.provider.held

/-- The run ended because of a requested stop or of a closed queue. -/
def Interrupted (d : Delivery) : Prop :=
  d.ended = some .stopped ∧ d.provider.stopRequested = true ∨
    d.ended = some (.byQueue .providerStopped d.queue.name) ∧ d.queue.isClosed = true

/-- What holds of a delivery at every moment. -/
structure Sound (opts : ProviderOpts) (d : Delivery) : Prop where
  opts : d.provider.opts = opts
  tidy : d.provider.Tidy
  conserved : d.put ++ d.pending = d.yielded.filterMap jobFor?
  one : d.pending.length ≤ 1
  running : d.ended = none ↔ d.provider.phase ≠ .outside
  given : d.givenUp ≠ none → d.Interrupted
  failed : d.ended ≠ none → d.Interrupted ∨ d.provider.retry = []

theorem sound_start {p : Provider} {opts : ProviderOpts} {q : JobQueue LibraryJob}
    (settings : p.opts = opts.normalized q.capacity) (slots : 0 < q.capacity)
    (buffer : p.retry = []) : (start p q).Sound (opts.normalized q.capacity) := by
  have held : p.start.held = [] := buffer
  have room : 0 < (opts.normalized q.capacity).maxJobBuffer := by
    simp only [ProviderOpts.normalized, greatest64]
    split
    · omega
    next chosen => exact Nat.pos_of_ne_zero chosen
  have one : p.start.held.length ≤ 1 := by
    rw [held]
    exact Nat.zero_le 1
  refine ⟨settings, ⟨settings ▸ room, one, fun _ => buffer⟩, held, one, ?_, ?_, ?_⟩
  · exact ⟨fun _ => (nomatch ·), fun _ => rfl⟩
  · exact fun given => (given rfl).elim
  · exact fun ended => (ended rfl).elim

theorem put_step {client : Client} {now : Instant}
    {answer : Option (Except DiscoveryError Repository)} {draw : Option Float} {d e : Delivery}
    (moved : d.act client (.step now answer draw) = some e) :
    ∃ jobs, e.put = d.put ++ jobs ∧ e.queue.items = d.queue.items ++ jobs := by
  obtain ⟨⟨provider, queue, event⟩, stepped, rfl⟩ := Option.map_eq_some_iff.mp moved
  have items := (Provider.turn_of_step stepped).items
  refine ⟨_, rfl, ?_⟩
  simp only [advance, items, List.drop_left]

theorem Sound.step {opts : ProviderOpts} {client : Client} {now : Instant}
    {answer : Option (Except DiscoveryError Repository)} {draw : Option Float} {d e : Delivery}
    (sound : d.Sound opts) (moved : d.act client (.step now answer draw) = some e) :
    e.Sound opts := by
  obtain ⟨⟨provider, queue, event⟩, stepped, rfl⟩ := Option.map_eq_some_iff.mp moved
  have turn := Provider.turn_of_step stepped
  have tidy := turn.tidy sound.tidy
  -- A run that goes on has not given anything up.
  have kept : d.givenUp = none := by
    by_contra given
    have inside : d.ended = none := by
      rw [sound.running]
      intro outside
      simp only [Provider.step, outside, ↓reduceIte, reduceCtorEq] at stepped
    have interrupted := sound.given given
    simp only [Interrupted, inside, reduceCtorEq, false_and, or_self] at interrupted
  have conserved : (queue.items.drop d.queue.items.length) ++
      ((d.provider.givesUp? answer event).toList ++ provider.held) =
        d.provider.held ++ (d.provider.takes? answer).toList.filterMap jobFor? := by
    rw [turn.items, List.drop_left]
    exact turn.conserves sound.tidy
  have ending : event.bind ProviderEvent.error? ≠ none →
      (d.advance answer provider queue event).Interrupted ∨
        provider.retry = [] ∧ d.provider.givesUp? answer event = none := by
    intro ended
    rcases event with _ | _ | _ | error
    · exact (ended rfl).elim
    · exact (ended rfl).elim
    · exact (ended rfl).elim
    · rcases turn.ending sound.tidy with ⟨rfl, requested⟩ | ⟨rfl, closed⟩ | none
      · exact Or.inl (Or.inl ⟨rfl, requested⟩)
      · exact Or.inl (Or.inr ⟨rfl, closed⟩)
      · exact Or.inr none
  refine ⟨turn.opts.trans sound.opts, tidy, ?_, ?_, turn.error?_eq_none_iff, ?_, ?_⟩
  · have before := sound.conserved
    simp only [pending, kept, Option.toList_none, List.nil_append] at before
    simp only [advance, pending, List.append_assoc, List.filterMap_append, conserved]
    rw [← before, List.append_assoc]
  · have one := sound.tidy.one_taken answer
    rw [← conserved, List.length_append] at one
    exact Nat.le_trans (Nat.le_add_left _ _) one
  · intro given
    have ended : event.bind ProviderEvent.error? ≠ none := by
      intro unended
      rcases event with _ | _ | _ | error
      · exact given rfl
      · exact given rfl
      · exact given rfl
      · cases unended
    rcases ending ended with interrupted | ⟨_, none⟩
    · exact interrupted
    · exact (given none).elim
  · intro ended
    exact (ending ended).imp_right And.left

/-- **Every move keeps a delivery sound.** -/
theorem Sound.act {opts : ProviderOpts} {client : Client} {move : DeliveryMove} {d e : Delivery}
    (sound : d.Sound opts) (moved : d.act client move = some e) : e.Sound opts := by
  cases move with
  | others queue =>
      simp only [Delivery.act] at moved
      split at moved
      next like =>
        cases moved
        have interrupted : d.Interrupted → ({ d with queue } : Delivery).Interrupted := by
          rintro (stopped | ⟨ended, closed⟩)
          · exact Or.inl stopped
          · exact Or.inr ⟨like.1 ▸ ended, like.2 closed⟩
        exact ⟨sound.opts, sound.tidy, sound.conserved, sound.one, sound.running,
          interrupted ∘ sound.given, fun ended => (sound.failed ended).imp_left interrupted⟩
      · cases moved
  | requestStop =>
      cases moved
      have tidy : d.provider.requestStop.Tidy :=
        ⟨sound.tidy.room, sound.tidy.one, sound.tidy.asking⟩
      have interrupted : d.Interrupted →
          ({ d with provider := d.provider.requestStop } : Delivery).Interrupted := by
        rintro (⟨ended, _⟩ | closed)
        · exact Or.inl ⟨ended, rfl⟩
        · exact Or.inr closed
      exact ⟨sound.opts, tidy, sound.conserved, sound.one, sound.running, interrupted ∘ sound.given,
        fun ended => (sound.failed ended).imp_left interrupted⟩
  | step now answer draw => exact sound.step moved

/-- The error that a failing source ends a run with is told apart from those of an interruption. -/
theorem not_interrupted_of_verdict {opts : ProviderOpts} {failure : DiscoveryError}
    {error : ProviderError} {d : Delivery} (verdict : opts.verdict failure = .error error)
    (ended : d.ended = some error) : ¬ d.Interrupted := by
  have cause : error = .byDiscovery .discovery failure ∨
      ∃ kind, error = .stoppedBy (.byDiscovery kind failure) := by
    unfold ProviderOpts.verdict at verdict
    split at verdict
    · split at verdict
      · cases verdict
      · cases verdict
        exact Or.inr ⟨_, rfl⟩
    · split at verdict
      · cases verdict
      · cases verdict
        exact Or.inr ⟨_, rfl⟩
    · split at verdict
      · cases verdict
        exact Or.inl rfl
      · cases verdict
    · cases verdict
      exact Or.inl rfl
  rintro (⟨stopped, _⟩ | ⟨closed, _⟩)
  · rcases cause with rfl | ⟨kind, rfl⟩
    · cases ended.symm.trans stopped
    · cases ended.symm.trans stopped
  · rcases cause with rfl | ⟨kind, rfl⟩
    · cases ended.symm.trans closed
    · cases ended.symm.trans closed

/-- **A provider delivers every repository once and in order.**  Whatever the source answers,
whoever else uses the queue, and whenever the run is asked to stop:

* the jobs put into the queue, followed by at most one that is pending, are one download for each of
  the repositories the source gave that has an endpoint, with this endpoint alone, in the order in
  which the source gave them;
* the pending job is in the retry buffer, waits for a slot, or was given up in the middle of being
  sent because the run ended by a requested stop or by a closed queue;
* the retry buffer holds at most one job, and has room for the one that is being sent;
* each step adds to the end of the queue what it puts on record, and nothing else;
* a run that a failure of the source has ended leaves nothing behind.

Every queue has a slot, as `JobQueue.make` makes it. -/
theorem delivers_in_order {opts : ProviderOpts} {p : Provider} {q : JobQueue LibraryJob}
    (settings : p.opts = opts.normalized q.capacity) (slots : 0 < q.capacity)
    (buffer : p.retry = []) (client : Client) {moves : List DeliveryMove} {d : Delivery}
    (played : play (act client) moves (start p q) = some d) :
    let found := (d.yielded.filterMap fun repo => (resolveEndpoint repo).toOption).map
      fun url => ({ kind := .download, endpoints := [url] } : LibraryJob)
    d.put ++ d.pending = found ∧
    d.pending = d.givenUp.toList ++ d.provider.phase.job?.toList ++ d.provider.retry ∧
    d.pending.length ≤ 1 ∧
    (d.givenUp ≠ none → d.Interrupted) ∧
    d.provider.retry.length ≤ 1 ∧
    (∀ job deadline, d.provider.phase = .sending job deadline →
      d.provider.retry.length < d.provider.opts.maxJobBuffer ∧
        (d.provider.keep job).retry = [job]) ∧
    (∀ now answer draw e, d.act client (.step now answer draw) = some e →
      ∃ jobs, e.put = d.put ++ jobs ∧ e.queue.items = d.queue.items ++ jobs) ∧
    (∀ failure error, (opts.normalized q.capacity).verdict failure = .error error →
      d.ended = some error → d.put = found ∧ d.provider.retry = []) := by
  have sound : d.Sound (opts.normalized q.capacity) :=
    play_keeps (fun _ _ _ _ sound moved => sound.act moved) (fun _ _ => trivial)
      (sound_start settings slots buffer) played
  have parts : d.pending = d.givenUp.toList ++ d.provider.phase.job?.toList ++ d.provider.retry :=
    (List.append_assoc _ _ _).symm
  have jobs : d.yielded.filterMap jobFor? =
      (d.yielded.filterMap fun repo => (resolveEndpoint repo).toOption).map downloadOf :=
    List.map_filterMap.symm
  refine ⟨sound.conserved.trans jobs, parts, sound.one, sound.given, ?_, ?_, ?_, ?_⟩
  · have one := sound.one
    rw [parts, List.length_append] at one
    exact Nat.le_trans (Nat.le_add_left _ _) one
  · intro job deadline sends
    have room := sound.tidy.room
    refine ⟨?_, congrArg Provider.retry (sound.tidy.keep sends)⟩
    rw [sound.tidy.buffer_of_sending sends]
    exact room
  · intro now answer draw e moved
    exact put_step moved
  · intro failure error verdict ended
    have uninterrupted := not_interrupted_of_verdict verdict ended
    have finished : d.ended ≠ none := by
      rw [ended]
      exact Option.some_ne_none error
    have outside : d.provider.phase = .outside := by
      by_contra inside
      exact finished (sound.running.mpr inside)
    have given : d.givenUp = none := by
      by_contra given
      exact uninterrupted (sound.given given)
    have empty : d.provider.retry = [] := (sound.failed finished).resolve_left uninterrupted
    have conserved := sound.conserved.trans jobs
    rw [parts, given, outside, empty] at conserved
    exact ⟨(List.append_nil _).symm.trans conserved, empty⟩

/-- A source gives three repositories, the second without an endpoint.  The queue has one slot, so
the third one's job goes to the retry buffer, where a stop leaves it. -/
def crowdedRun : List DeliveryMove :=
  [.step 0 none none,
    .step 0 (some (.ok { fullName := "a/one", htmlUrl := some "one", gitUrl := some "1" })) none,
    .step 1 none none, .step 2 (some (.ok { fullName := "a/bare", htmlUrl := some "" })) none,
    .step 2 none none,
    .step 3 (some (.ok { fullName := "a/two", gitUrl := some "two", sshUrl := some "2" })) none,
    .step 9000000000 none none, .requestStop, .step 9000000000 none none]

theorem delivers_in_order_crowded :
    ∃ d, play (act (.task 0)) crowdedRun (start (.make {} 1 .standard) (.make "downloads" 1)) =
        some d ∧
      d.ended = some .stopped ∧ d.put = [{ kind := .download, endpoints := ["one"] }] ∧
      d.provider.retry = [{ kind := .download, endpoints := ["two"] }] ∧
      d.put ++ d.pending = [{ kind := .download, endpoints := ["one"] },
        { kind := .download, endpoints := ["two"] }] := by
  refine ⟨_, rfl, rfl, rfl, rfl, ?_⟩
  have settings : (Provider.make {} 1 .standard).opts =
      ProviderOpts.normalized {} (JobQueue.make "downloads" 1 : JobQueue LibraryJob).capacity := rfl
  have played : play (act (.task 0)) crowdedRun
      (start (.make {} 1 .standard) (.make "downloads" 1)) = some _ := rfl
  exact (delivers_in_order settings Nat.one_pos rfl (.task 0) played).1

end Delivery

end RepoCollector
