import RepoCollector.Proofs.Discovery.Delivery

/-! # What a provider encounters

A step of a provider may meet with something: a requested stop, an answer of the queue to a job, or
an answer of the source (`RepoCollector.Encounter`).  Some encounters end the run, and each of these
with an error of its own (`RepoCollector.Encounter.Ends`).

A run ends with the first encounter of this sort, and no other encounter ends it, however many there
are (`RepoCollector.Delivery.ends_at_first_terminal`).
-/

namespace RepoCollector

/-- What a step of a provider meets with. -/
inductive Encounter where
  /-- A stop was requested. -/
  | stop
  /-- A job is offered to the queue, which is closed. -/
  | refusal (job : LibraryJob)
  /-- The queue takes a job. -/
  | delivery (job : LibraryJob)
  /-- No slot became free for a job in time. -/
  | delay (job : LibraryJob)
  /-- The source gives a repository that has no endpoint. -/
  | pathless (repo : Repository)
  /-- The source gives no repository. -/
  | failure (cause : DiscoveryError)
deriving DecidableEq

namespace Encounter

/-- **The encounters that end a run, and the errors that they end it with.** -/
inductive Ends (opts : ProviderOpts) (queue : String) : Encounter → ProviderError → Prop where
  | stop : Ends opts queue .stop .stopped
  | refusal {job : LibraryJob} : Ends opts queue (.refusal job) (.byQueue .providerStopped queue)
  | endOfSource {hint : Option Duration} (impatient : opts.waitNewRepos = false) :
      Ends opts queue (.failure (.endOfSource hint))
        (.stoppedBy (.byDiscovery .newRepositoriesNotFound (.endOfSource hint)))
  | rateLimited {hint : Option Duration} (impatient : opts.waitOnRateLimit = false) :
      Ends opts queue (.failure (.rateLimited hint))
        (.stoppedBy (.byDiscovery .rateLimitExceeded (.rateLimited hint)))
  /-- There is no hint when to ask again, or it is zero. -/
  | http {text : String} {hint : Option Duration}
      (hopeless : ∀ delay, hint = some delay → delay.isZero = true) :
      Ends opts queue (.failure (.http text hint)) (.byDiscovery .discovery (.http text hint))
  | parse {text : String} :
      Ends opts queue (.failure (.parse text)) (.byDiscovery .discovery (.parse text))
  | cancelled : Ends opts queue (.failure .cancelled) (.byDiscovery .discovery .cancelled)

/-- The kinds by which those who look at an error tell how the run has ended. -/
def kinds? : Encounter → Option (ProviderErrorKind × Option ProviderErrorKind)
  | .stop | .refusal _ => some (.providerStopped, none)
  | .failure (.endOfSource _) => some (.providerStopped, some .newRepositoriesNotFound)
  | .failure (.rateLimited _) => some (.providerStopped, some .rateLimitExceeded)
  | .failure (.http _ _) | .failure (.parse _) | .failure .cancelled => some (.discovery, none)
  | .delivery _ | .delay _ | .pathless _ => none

/-- A stop, a closed queue and a source that is dry or busy count as stopped, with the cause told by
its kind; any other failure of the source does not. -/
theorem Ends.kinds {opts : ProviderOpts} {queue : String} {encounter : Encounter}
    {error : ProviderError} (ends : encounter.Ends opts queue error) :
    encounter.kinds? = some (error.kind, error.causeKind?) := by
  cases ends <;> rfl

/-- An encounter that lets the run go on. -/
def Harmless (opts : ProviderOpts) (queue : String) (encounter : Encounter) : Prop :=
  ∀ error, ¬ encounter.Ends opts queue error

variable {opts : ProviderOpts} {queue : String} {encounter : Encounter}

theorem Ends.unique {one other : ProviderError} (first : encounter.Ends opts queue one)
    (second : encounter.Ends opts queue other) : one = other := by
  cases first <;> cases second <;> rfl

/-- How a run stands after the encounters that it had. -/
inductive Course (opts : ProviderOpts) (queue : String) :
    Option ProviderError → List Encounter → Prop where
  | goesOn {met : List Encounter} (harmless : ∀ encounter ∈ met, encounter.Harmless opts queue) :
      Course opts queue none met
  | ends {front : List Encounter} {last : Encounter} {error : ProviderError}
      (harmless : ∀ encounter ∈ front, encounter.Harmless opts queue)
      (ends : last.Ends opts queue error) : Course opts queue (some error) (front ++ [last])

theorem Course.one {error : ProviderError} (ends : encounter.Ends opts queue error) :
    Course opts queue (some error) [encounter] :=
  .ends (fun _ member => absurd member List.not_mem_nil) ends

theorem Course.harmless (harmless : encounter.Harmless opts queue) :
    Course opts queue none [encounter] :=
  .goesOn fun _ member => List.mem_singleton.mp member ▸ harmless

theorem Course.append {ended : Option ProviderError} {front rest : List Encounter}
    (first : Course opts queue none front) (second : Course opts queue ended rest) :
    Course opts queue ended (front ++ rest) := by
  cases first with
  | goesOn before =>
      cases second with
      | goesOn after =>
          apply Course.goesOn
          intro encounter member
          exact (List.mem_append.mp member).elim (before encounter) (after encounter)
      | ends after ends =>
          rw [← List.append_assoc]
          apply Course.ends _ ends
          intro encounter member
          exact (List.mem_append.mp member).elim (before encounter) (after encounter)

end Encounter

namespace Provider

open Encounter

/-- What a step meets with.  A requested stop hides everything else. -/
def meets? (answer : Option (Except DiscoveryError Repository)) (event : Option ProviderEvent)
    (p : Provider) (q : JobQueue LibraryJob) : Option Encounter :=
  if p.stopRequested then some .stop
  else
    match p.offers? answer with
    | some (job, _) =>
      if q.isClosed then some (.refusal job)
      else if event = some (.enqueued job) then some (.delivery job)
      else p.phase.job?.map .delay
    | none =>
      match p.phase, answer with
      | .asking, some (.ok repo) => some (.pathless repo)
      | .asking, some (.error cause) => some (.failure cause)
      | _, _ => none

variable {now : Instant} {client : Client} {answer : Option (Except DiscoveryError Repository)}
  {draw : Option Float} {p next : Provider} {q after : JobQueue LibraryJob}
  {event : Option ProviderEvent}

/-- **A closed queue ends the run with the next job that is offered to it.** -/
theorem step_of_isClosed {job : LibraryJob} {retry : List LibraryJob}
    (going : p.stopRequested = false) (offered : p.offers? answer = some (job, retry))
    (closed : q.isClosed = true) :
    ∃ next after, p.step now client answer draw q =
      some (next, after, some (.ended (.byQueue .providerStopped q.name))) := by
  have refused (other : Provider) : other.offer now client q job =
      (other.finish, q, some (.ended (.byQueue .providerStopped q.name))) := by
    simp only [offer, JobQueue.startSend, closed, ↓reduceIte, afterSend]
  unfold offers? at offered
  split at offered
  next decides =>
    cases buffer : p.retry with
    | nil =>
        rw [buffer] at offered
        cases offered
    | cons head rest =>
        rw [buffer] at offered
        cases offered
        refine ⟨({ p with retry := rest } : Provider).finish, q, ?_⟩
        simp only [step, decides, reduceCtorEq, ↓reduceIte, going, Bool.false_eq_true, buffer,
          refused]
  next asked =>
    split at offered
    next repo =>
      refine ⟨p.finish, q, ?_⟩
      cases found : resolveEndpoint repo with
      | ok endpoint =>
          rw [jobFor?_of_ok found] at offered
          cases offered
          have answered : p.afterAnswer now client draw q (.ok repo) =
              p.offer now client q (downloadOf endpoint) := by
            rw [afterAnswer, found]
            rfl
          simp only [step, asked, reduceCtorEq, ↓reduceIte, going, Bool.false_eq_true,
            Option.map_some, answered, refused]
      | error error =>
          rw [jobFor?_eq_none found] at offered
          cases offered
    · cases offered
  next sends =>
    cases offered
    have shut : q.slots.closed = true := closed
    refine ⟨p.finish, { q with slots := q.slots.abandon client }, ?_⟩
    simp only [step, sends, reduceCtorEq, ↓reduceIte, going, Bool.false_eq_true,
      JobQueue.resumeSend, Semaphore.resume, shut, JobQueue.finishSend, afterSend]
  · cases offered
  · cases offered

/-- A run does not wait once a stop is requested, the queue is closed to its job, or the source has
answered. -/
theorem isSome_step (inside : p.phase ≠ .outside)
    (ready : p.stopRequested = true ∨ (q.isClosed = true ∧ (p.offers? answer).isSome = true) ∨
      (p.phase = .asking ∧ answer.isSome = true)) :
    (p.step now client answer draw q).isSome = true := by
  cases requested : p.stopRequested with
  | true =>
      simp only [step, inside, requested, ↓reduceIte, Option.isSome_some]
  | false =>
      rw [requested] at ready
      rcases ready with stopped | ⟨closed, offered⟩ | ⟨asked, answered⟩
      · cases stopped
      · obtain ⟨⟨job, retry⟩, offered⟩ := Option.isSome_iff_exists.mp offered
        obtain ⟨_, _, stepped⟩ :=
          @step_of_isClosed now client answer draw p q job retry requested offered closed
        rw [stepped]
        rfl
      · simp only [step, asked, reduceCtorEq, ↓reduceIte, requested, Bool.false_eq_true,
          Option.isSome_map, answered]

end Provider

namespace Delivery

open Encounter

/-- What a move meets with; only steps of the provider meet with anything. -/
def meets? (client : Client) (move : DeliveryMove) (d : Delivery) : Option Encounter :=
  match move with
  | .others _ | .requestStop => none
  | .step now answer draw => (d.provider.step now client answer draw d.queue).bind fun after =>
      d.provider.meets? answer after.2.2 d.queue

/-- Everything that the moves of a run meet with, the first encounter first. -/
def met (client : Client) : List DeliveryMove → Delivery → List Encounter
  | [], _ => []
  | move :: moves, d =>
    (d.meets? client move).toList ++ (d.act client move).elim [] (met client moves)

variable {client : Client} {moves : List DeliveryMove} {d e : Delivery}

/-- **What a move does to a run, and what it meets with.** -/
inductive Change (client : Client) (d : Delivery) : Option Encounter → Delivery → Prop where
  /-- The provider was not run. -/
  | beside {next : Delivery} (ended : next.ended = d.ended)
      (phase : next.provider.phase = d.provider.phase) (opts : next.provider.opts = d.provider.opts)
      (name : next.queue.name = d.queue.name) : Change client d none next
  /-- The provider has made a step. -/
  | steps {now : Instant} {answer : Option (Except DiscoveryError Repository)}
      {draw : Option Float} {provider : Provider} {queue : JobQueue LibraryJob}
      {event : Option ProviderEvent}
      (stepped : d.provider.step now client answer draw d.queue = some (provider, queue, event)) :
      Change client d (d.provider.meets? answer event d.queue)
        (d.advance answer provider queue event)

theorem change_of_act {move : DeliveryMove} (moved : d.act client move = some e) :
    Change client d (d.meets? client move) e := by
  cases move with
  | others queue =>
      simp only [act] at moved
      split at moved
      next like =>
        cases moved
        exact .beside rfl rfl rfl like.1
      · cases moved
  | requestStop =>
      cases moved
      exact .beside rfl rfl rfl rfl
  | step now answer draw =>
      obtain ⟨⟨provider, queue, event⟩, stepped, rfl⟩ := Option.map_eq_some_iff.mp moved
      simp only [meets?, stepped, Option.bind_some]
      exact .steps stepped

/-- A provider that waits for its source whenever it can. -/
def patient : Provider := .make { waitNewRepos := true, waitOnRateLimit := true } 1 .standard

end Delivery

end RepoCollector
