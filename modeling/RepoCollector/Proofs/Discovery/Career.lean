import RepoCollector.Proofs.Discovery.Delivery

/-! # Careers of a provider

A provider may be started many times, one run after the other, and anybody may ask it to stop at any
time.  A career is all of this on one clock (`RepoCollector.Career`).  It keeps a record of what the
steps of the provider did, and of the stops that wait to be acknowledged.

From the moment at which a stop is asked for, a provider does nothing but end its run, and it does
so as soon as it is run (`RepoCollector.Career.makes_no_progress_after_stop`).
-/

namespace RepoCollector

namespace Provider

variable {now : Instant} {client : Client} {answer : Option (Except DiscoveryError Repository)}
  {draw : Option Float} {p next : Provider} {q after : JobQueue LibraryJob}
  {event : Option ProviderEvent}

/-- A requested stop ends the run at once, wherever it stands. -/
theorem step_of_stopRequested (inside : p.isInside = true) (requested : p.stopRequested = true) :
    p.step now client answer draw q =
      some (p.finish, p.release client q, some (.ended .stopped)) := by
  have inside : p.phase ≠ .outside := of_decide_eq_true inside
  simp only [step, inside, requested, ↓reduceIte]

theorem isInside_of_step (stepped : p.step now client answer draw q = some (next, after, event)) :
    p.isInside = true := by
  apply decide_eq_true
  intro outside
  simp only [step, outside, ↓reduceIte, reduceCtorEq] at stepped

/-- A provider that lets go of the slot that it waits for takes no slot with it. -/
@[simp]
theorem supply_release (p : Provider) (client : Client) (q : JobQueue LibraryJob) :
    (p.release client q).slots.supply = q.slots.supply := by
  unfold release
  split
  · exact q.slots.supply_abandon client
  · rfl

end Provider

/-- A stop that waits to be acknowledged, and when it was asked for. -/
structure PendingStop where
  since : Instant
  call : StopCall

/-- A provider and its queue, from run to run. -/
structure Career where
  now : Instant := 0
  provider : Provider
  queue : JobQueue LibraryJob
  /-- What the provider's steps did, the first event first. -/
  events : List ProviderEvent := []
  /-- How many runs were begun. -/
  runs : Nat := 0
  stops : List PendingStop := []

/-- What can happen to a provider. -/
inductive CareerMove where
  /-- Time passes, but no stop is kept waiting beyond its deadline. -/
  | wait (moment : Instant)
  /-- Others have used the queue, in any way. -/
  | others (queue : JobQueue LibraryJob)
  | start
  | step (answer : Option (Except DiscoveryError Repository)) (draw : Option Float)
  /-- Those who began the run give it up. -/
  | abandon
  /-- The provider is gone for good. -/
  | drop
  /-- Somebody asks the provider to stop, and waits. -/
  | stop
  /-- A stop has been answered, or is no longer waited for. -/
  | leave (index : Nat)

namespace Career

/-- A provider that was never started. -/
def fresh (opts : ProviderOpts) (backoff : Backoff Float) (q : JobQueue LibraryJob) : Career :=
  { provider := .make opts q.capacity backoff, queue := q }

/-- Makes a move, if it is possible.  A provider is started again only between two runs. -/
def act (client : Client) (move : CareerMove) (c : Career) : Option Career :=
  match move with
  | .wait moment =>
    if c.now ≤ moment ∧ ∀ stop ∈ c.stops, moment ≤ stop.call.deadline then
      some { c with now := moment }
    else none
  | .others queue => some { c with queue }
  | .start =>
    if c.provider.isInside || c.provider.dropped then none
    else some { c with provider := c.provider.start, runs := c.runs + 1 }
  | .step answer draw => (c.provider.step c.now client answer draw c.queue).map fun after =>
      { c with
        provider := after.1, queue := after.2.1, events := c.events ++ after.2.2.toList }
  | .abandon =>
    let (provider, queue) := c.provider.drop client c.queue
    some { c with provider := { provider with dropped := c.provider.dropped }, queue }
  | .drop =>
    let (provider, queue) := c.provider.drop client c.queue
    some { c with provider, queue }
  | .stop =>
    let (provider, call) := StopCall.start c.now c.provider
    some { c with provider, stops := c.stops ++ [{ since := c.now, call }] }
  | .leave index => some { c with stops := c.stops.eraseIdx index }

variable {client : Client} {moves : List CareerMove} {c e : Career}

/-- A request stays, and a step that is made after it does nothing but end the run. -/
theorem act_of_stopRequested {move : CareerMove} (requested : c.provider.stopRequested = true)
    (moved : act client move c = some e) :
    e.provider.stopRequested = true ∧ (e.events = c.events ∨
      e.events = c.events ++ [.ended .stopped]) := by
  cases move with
  | wait moment =>
      simp only [act] at moved
      split at moved
      · cases moved
        exact ⟨requested, .inl rfl⟩
      · cases moved
  | start =>
      simp only [act] at moved
      split at moved
      · cases moved
      · cases moved
        exact ⟨requested, .inl rfl⟩
  | step answer draw =>
      obtain ⟨after, stepped, rfl⟩ := Option.map_eq_some_iff.mp moved
      have inside : c.provider.isInside = true := Provider.isInside_of_step stepped
      rw [Provider.step_of_stopRequested inside requested] at stepped
      cases stepped
      exact ⟨requested, .inr rfl⟩
  | stop =>
      cases moved
      exact ⟨rfl, .inl rfl⟩
  | others | abandon | drop | leave =>
      cases moved
      exact ⟨requested, .inl rfl⟩

/-- What comes after a request. -/
theorem events_of_stopRequested (requested : c.provider.stopRequested = true)
    (played : play (act client) moves c = some e) :
    e.provider.stopRequested = true ∧
      ∃ later, e.events = c.events ++ later ∧ ∀ event ∈ later, event = .ended .stopped := by
  induction moves generalizing c with
  | nil =>
      cases played
      refine ⟨requested, [], (List.append_nil _).symm, ?_⟩
      exact fun _ member => absurd member List.not_mem_nil
  | cons move moves ih =>
      obtain ⟨middle, moved, rest⟩ := play_cons played
      obtain ⟨still, first⟩ := act_of_stopRequested requested moved
      obtain ⟨requested, later, events, stopped⟩ := ih still rest
      refine ⟨requested, ?_⟩
      rcases first with same | ended
      · exact ⟨later, same ▸ events, stopped⟩
      · refine ⟨.ended .stopped :: later, ?_, ?_⟩
        · rw [events, ended, List.append_assoc, List.singleton_append]
        · intro event member
          exact (List.mem_cons.mp member).elim id (stopped event)

/-- **A stopped provider makes no more progress.**  Wherever its run stands when somebody asks it to
stop, and whatever happens from then on:

* no step asks the source or puts a job into the queue; all that steps do is to end a run that was
  stopped;
* a run in progress ends with the next step, at once and whether or not there is an answer of the
  source, a free slot or an end of the delay; its end is acknowledged to all who wait for it;
* that step leaves the jobs in the queue and those in the retry buffer alone, and gives back the
  slot that the provider was waiting for. -/
theorem makes_no_progress_after_stop (client : Client) (c : Career)
    (played : play (act client) (.stop :: moves) c = some e) :
    (∃ later, e.events = c.events ++ later ∧ ∀ event ∈ later, event = .ended .stopped) ∧
    (e.provider.isInside = true → ∀ answer draw, ∃ f,
      act client (.step answer draw) e = some f ∧ f.now = e.now ∧
      f.events = e.events ++ [.ended .stopped] ∧ f.provider.isInside = false ∧
      f.provider.acknowledged = true ∧
      (∀ stop ∈ f.stops, stop.call.step f.now f.provider = some (.ok ())) ∧
      f.provider.retry = e.provider.retry ∧ f.queue.items = e.queue.items ∧
      f.queue.slots.supply = e.queue.slots.supply) := by
  obtain ⟨middle, moved, rest⟩ := play_cons played
  have asked : middle.provider.stopRequested = true ∧ middle.events = c.events := by
    cases moved
    exact ⟨rfl, rfl⟩
  obtain ⟨requested, later, events, stopped⟩ := events_of_stopRequested asked.1 rest
  refine ⟨⟨later, asked.2 ▸ events, stopped⟩, ?_⟩
  intro inside answer draw
  have stepped := congrArg (Option.map fun after => { e with
    provider := after.1, queue := after.2.1, events := e.events ++ after.2.2.toList })
      (@Provider.step_of_stopRequested e.now client answer draw e.provider e.queue inside requested)
  refine ⟨_, stepped, rfl, rfl, rfl, rfl, fun _ _ => rfl, rfl, ?_, ?_⟩
  · exact e.provider.items_release client e.queue
  · exact e.provider.supply_release client e.queue

/-- A queue whose only slot others have just given to the provider. -/
def granting : JobQueue LibraryJob :=
  { JobQueue.make "downloads" 1 with slots := { permits := 0, granted := [.provider 0] } }

/-- A provider puts a job into a queue with one slot, and waits for a slot for the next job until
there is one. -/
def untilGranted : List CareerMove :=
  [.start, .step none none, .step (some (.ok { fullName := "a/one", htmlUrl := some "one" })) none,
    .step none none, .step (some (.ok { fullName := "a/two", htmlUrl := some "two" })) none,
    .others granting]

theorem untilGranted_account :
    (play (act (.provider 0)) (untilGranted ++ [.stop, .wait 3])
      (fresh {} .standard (.make "downloads" 1))).map (fun e => (e.now, e.provider.phase)) =
      some (3, .sending (.download ["two"]) 5000) := by
  decide +kernel

/-- It is asked to stop before it is run again, and then does not take the slot. -/
theorem makes_no_progress_after_stop_granted :
    ∃ c e f, play (act (.provider 0)) untilGranted (fresh {} .standard (.make "downloads" 1)) =
        some c ∧
      play (act (.provider 0)) [.stop, .wait 3] c = some e ∧
      act (.provider 0) (.step none none) e = some f ∧ f.now = 3 ∧
      f.events = e.events ++ [.ended .stopped] ∧ f.queue.items = e.queue.items ∧
      f.queue.slots.supply = e.queue.slots.supply := by
  obtain ⟨e, whole, account⟩ := Option.map_eq_some_iff.mp untilGranted_account
  obtain ⟨c, before, played⟩ := play_append whole
  injection account with now sends
  have inside : e.provider.isInside = true := by
    rw [Provider.isInside, sends]
    rfl
  obtain ⟨_, ends⟩ := makes_no_progress_after_stop (.provider 0) c played
  obtain ⟨f, stepped, still, events, _, _, _, _, items, supply⟩ := ends inside none none
  exact ⟨c, e, f, before, played, stepped, still.trans now, events, items, supply⟩

end Career

end RepoCollector
