import RepoCollector.Discovery.Provider
import RepoCollector.Proofs.Queue.Accounts

/-! # Turns of a provider

A step of a provider is one of ten turns (`RepoCollector.Provider.Turn`,
`RepoCollector.Provider.turn_of_step`).  Three of them deal with a job that is offered to the queue,
which is the head of the retry buffer, the job for a repository that the source has just given, or
one that already waits for a slot (`RepoCollector.Provider.offers?`).

What a turn does to the queue can be read from its event: a job is put at the end of the queue if
the event says so, and nothing else changes there (`RepoCollector.Provider.Turn.keeps`,
`RepoCollector.Provider.Turn.items`).
-/

namespace RepoCollector

/-- The download of a repository at one of its URLs. -/
def downloadOf (url : String) : LibraryJob := { kind := .download, endpoints := [url] }

/-- The job that downloads a repository, if it has an endpoint. -/
def jobFor? (repo : Repository) : Option LibraryJob :=
  (resolveEndpoint repo).toOption.map downloadOf

theorem jobFor?_of_ok {repo : Repository} {url : String} (found : resolveEndpoint repo = .ok url) :
    jobFor? repo = some (downloadOf url) := by
  rw [jobFor?, found]
  rfl

theorem jobFor?_eq_none {repo : Repository} {error : ProviderError}
    (missing : resolveEndpoint repo = .error error) : jobFor? repo = none := by
  rw [jobFor?, missing]
  rfl

theorem kind_of_jobFor? {repo : Repository} {job : LibraryJob} (found : jobFor? repo = some job) :
    job.kind = .download := by
  obtain ⟨url, _, rfl⟩ := Option.map_eq_some_iff.mp found
  rfl

def ProviderEvent.enqueued? : ProviderEvent → Option LibraryJob
  | .enqueued job => some job
  | .asked | .ended _ => none

def ProviderPhase.job? : ProviderPhase → Option LibraryJob
  | .sending job _ => some job
  | .outside | .deciding | .asking | .resting _ => none

namespace Provider

/-- The job that is offered to the queue next, with the jobs that then stay in the retry buffer. -/
def offers? (answer : Option (Except DiscoveryError Repository)) (p : Provider) :
    Option (LibraryJob × List LibraryJob) :=
  match p.phase with
  | .deciding => p.retry.head?.map (·, p.retry.tail)
  | .asking =>
    match answer with
    | some (.ok repo) => (jobFor? repo).map (·, p.retry)
    | _ => none
  | .sending job _ => some (job, p.retry)
  | .outside | .resting _ => none

/-- **The turns of a provider.** -/
inductive Turn (now : Instant) (client : Client)
    (answer : Option (Except DiscoveryError Repository)) (p : Provider) (q : JobQueue LibraryJob) :
    Provider → JobQueue LibraryJob → Option ProviderEvent → Prop where
  /-- A requested stop is noticed. -/
  | stops (inside : p.phase ≠ .outside) (requested : p.stopRequested = true) :
      Turn now client answer p q p.finish (p.release client q) (some (.ended .stopped))
  /-- The retry buffer is empty, and the source is asked. -/
  | asks (going : p.stopRequested = false) (decides : p.phase = .deciding) (buffer : p.retry = []) :
      Turn now client answer p q { p with phase := .asking } q (some .asked)
  /-- The queue takes the job that is offered. -/
  | delivers {job : LibraryJob} {retry : List LibraryJob} {after : JobQueue LibraryJob}
      (going : p.stopRequested = false) (offered : p.offers? answer = some (job, retry))
      (opened : q.isClosed = false) (keeps : q.Keeps after)
      (items : after.items = q.items ++ [job]) :
      Turn now client answer p q
        { p with retry, phase := .deciding, backoff := p.backoff.reset } after
        (some (.enqueued job))
  /-- The queue is closed. -/
  | refused {job : LibraryJob} {retry : List LibraryJob} {after : JobQueue LibraryJob}
      (going : p.stopRequested = false) (offered : p.offers? answer = some (job, retry))
      (closed : q.isClosed = true) (keeps : q.Keeps after) (items : after.items = q.items) :
      Turn now client answer p q ({ p with retry } : Provider).finish after
        (some (.ended (.byQueue .providerStopped q.name)))
  /-- The queue is full, and the job waits for a slot. -/
  | waits {job : LibraryJob} {retry : List LibraryJob} {after : JobQueue LibraryJob}
      {deadline : Instant} (going : p.stopRequested = false)
      (offered : p.offers? answer = some (job, retry)) (keeps : q.Keeps after)
      (items : after.items = q.items) :
      Turn now client answer p q { p with retry, phase := .sending job deadline } after none
  /-- The repository has no endpoint. -/
  | skips {repo : Repository} (going : p.stopRequested = false) (asked : p.phase = .asking)
      (told : answer = some (.ok repo)) (missing : jobFor? repo = none) :
      Turn now client answer p q { p with phase := .deciding } q none
  /-- The source fails for good. -/
  | fails {failure : DiscoveryError} {error : ProviderError} (going : p.stopRequested = false)
      (asked : p.phase = .asking) (told : answer = some (.error failure))
      (verdict : p.opts.verdict failure = .error error) :
      Turn now client answer p q p.finish q (some (.ended error))
  /-- The source fails for now. -/
  | rests {failure : DiscoveryError} {backoff : Backoff Float} {wakeAt : Instant}
      (going : p.stopRequested = false) (asked : p.phase = .asking)
      (told : answer = some (.error failure)) (verdict : p.opts.verdict failure = .ok ()) :
      Turn now client answer p q { p with backoff, phase := .resting wakeAt } q none
  /-- No slot became free in time. -/
  | timesOut {job : LibraryJob} {deadline : Instant} {draw : Option Float}
      (going : p.stopRequested = false) (sends : p.phase = .sending job deadline)
      (late : deadline ≤ now) :
      Turn now client answer p q ((p.keep job).backOff now draw) (q.abandonSend client) none
  /-- The provider has waited long enough. -/
  | wakes {wakeAt : Instant} (going : p.stopRequested = false) (rested : p.phase = .resting wakeAt)
      (late : wakeAt ≤ now) :
      Turn now client answer p q { p with phase := .deciding } q none

variable {now : Instant} {client : Client} {answer : Option (Except DiscoveryError Repository)}
  {draw : Option Float} {p next : Provider} {q after : JobQueue LibraryJob}
  {event : Option ProviderEvent}

/-- An offer is taken, refused by a closed queue, or has to wait. -/
private theorem turn_of_offer {job : LibraryJob} {retry : List LibraryJob}
    (going : p.stopRequested = false) (offered : p.offers? answer = some (job, retry))
    (stepped : ({ p with retry } : Provider).offer now client q job = (next, after, event)) :
    Turn now client answer p q next after event := by
  have told := q.startSend_told client job
  unfold offer at stepped
  generalize q.startSend client job = answered at stepped told
  obtain ⟨later, verdict⟩ := answered
  cases told with
  | sent opened keeps items =>
      cases stepped
      exact .delivers going offered opened keeps items
  | refused closed keeps items =>
      cases stepped
      rw [keeps.name]
      exact .refused going offered closed keeps items
  | waits _ keeps items =>
      cases stepped
      exact .waits going offered keeps items

private theorem turn_of_answer {told : Except DiscoveryError Repository}
    (going : p.stopRequested = false) (asked : p.phase = .asking)
    (stepped : p.afterAnswer now client draw q told = (next, after, event)) :
    Turn now client (some told) p q next after event := by
  cases told with
  | ok repo =>
      simp only [afterAnswer] at stepped
      split at stepped
      next endpoint found =>
        have offered : p.offers? (some (.ok repo)) = some (downloadOf endpoint, p.retry) := by
          simp only [offers?, asked, jobFor?_of_ok found, Option.map_some]
        exact turn_of_offer going offered stepped
      next missing =>
        cases stepped
        exact .skips going asked rfl (jobFor?_eq_none missing)
  | error failure =>
      simp only [afterAnswer] at stepped
      split at stepped
      next verdict =>
        cases stepped
        exact .fails going asked rfl verdict
      next verdict =>
        cases stepped
        unfold restAfter
        split
        · split
          · exact .rests going asked rfl verdict
          · exact .rests going asked rfl verdict
        · exact .rests going asked rfl verdict

/-- **Every step is a turn.** -/
theorem turn_of_step (stepped : p.step now client answer draw q = some (next, after, event)) :
    Turn now client answer p q next after event := by
  unfold step at stepped
  split at stepped
  · cases stepped
  next inside =>
    split at stepped
    next requested =>
      cases stepped
      exact .stops inside requested
    next unrequested =>
      have going : p.stopRequested = false := Bool.eq_false_iff.mpr unrequested
      split at stepped
      next outside => exact (inside outside).elim
      next decides =>
        split at stepped
        next job retry buffer =>
          have offered : p.offers? answer = some (job, retry) := by
            simp only [offers?, decides, buffer, List.head?_cons, List.tail_cons, Option.map_some]
          exact turn_of_offer going offered (Option.some.inj stepped)
        next buffer =>
          cases stepped
          exact .asks going decides buffer
      next asked =>
        obtain ⟨told, rfl, answered⟩ := Option.map_eq_some_iff.mp stepped
        exact turn_of_answer going asked answered
      next job deadline sends =>
        have told := q.resumeSend_told client job
        have offered : p.offers? answer = some (job, p.retry) := by
          simp only [offers?, sends]
        generalize q.resumeSend client job = answered at stepped told
        obtain ⟨later, verdict⟩ := answered
        cases told with
        | sent opened keeps items =>
            cases stepped
            exact .delivers going offered opened keeps items
        | refused closed keeps items =>
            cases stepped
            rw [keeps.name]
            exact .refused going offered closed keeps items
        | waits =>
            simp only at stepped
            split at stepped
            next late =>
              cases stepped
              exact .timesOut going sends late
            · cases stepped
      next wakeAt rested =>
        split at stepped
        next late =>
          cases stepped
          exact .wakes going rested late
        · cases stepped

theorem keeps_release (p : Provider) (client : Client) (q : JobQueue LibraryJob) :
    q.Keeps (p.release client q) := by
  unfold release
  split
  · exact q.abandonSend_keeps client
  · exact .refl q

@[simp]
theorem items_release (p : Provider) (client : Client) (q : JobQueue LibraryJob) :
    (p.release client q).items = q.items := by
  unfold release
  split <;> rfl

namespace Turn

theorem keeps (turn : Turn now client answer p q next after event) : q.Keeps after := by
  cases turn with
  | stops => exact p.keeps_release client q
  | delivers _ _ _ keeps => exact keeps
  | refused _ _ _ keeps => exact keeps
  | waits _ _ keeps => exact keeps
  | timesOut => exact q.abandonSend_keeps client
  | asks | skips | fails | rests | wakes => exact .refl q

/-- A turn puts the job that its event names at the end of the queue, and nothing else. -/
theorem items (turn : Turn now client answer p q next after event) :
    after.items = q.items ++ (event.bind ProviderEvent.enqueued?).toList := by
  cases turn with
  | stops => exact (p.items_release client q).trans (List.append_nil _).symm
  | delivers _ _ _ _ items => exact items
  | refused _ _ _ _ items => exact items.trans (List.append_nil _).symm
  | waits _ _ _ items => exact items.trans (List.append_nil _).symm
  | asks | skips | fails | rests | timesOut | wakes => exact (List.append_nil _).symm

theorem enqueued?_of_isClosed (turn : Turn now client answer p q next after event)
    (closed : q.isClosed = true) : event.bind ProviderEvent.enqueued? = none := by
  cases turn with
  | delivers _ _ opened => exact Bool.noConfusion (opened.symm.trans closed)
  | stops | asks | refused | waits | skips | fails | rests | timesOut | wakes => rfl

end Turn

end Provider

end RepoCollector
