import RepoCollector.Discovery.Updates
import RepoCollector.Proofs.Queue.Accounts

/-! # Turns of the updates provider

A step of the updates provider is one of seven turns (`RepoCollector.UpdatesProvider.Turn`,
`RepoCollector.UpdatesProvider.turn_of_step`).  A turn puts one job at the end of the queue or none,
and every turn that ends the run closes the queue.
-/

namespace RepoCollector

namespace UpdatesProvider

/-- The job that is offered to the queue next, with the URLs that are left then. -/
def offers? (p : UpdatesProvider) : Option (LibraryJob × List String) :=
  match p.phase with
  | .choosing (url :: rest) => some (.update [url], rest)
  | .sending job rest => some (job, rest)
  | .listing | .choosing [] | .over _ => none

def ending (p : UpdatesProvider) (result : Except ProviderError Nat) : UpdatesProvider :=
  { p with phase := .over result }

/-- **The turns of the updates provider.** -/
inductive Turn (listed : Option (Except LibraryError (List String))) (p : UpdatesProvider)
    (q : JobQueue LibraryJob) :
    UpdatesProvider → JobQueue LibraryJob → Option LibraryJob → Prop where
  | lists {urls : List String} (listing : p.phase = .listing) (told : listed = some (.ok urls)) :
      Turn listed p q { p with phase := .choosing urls } q none
  | unlisted {error : LibraryError} (listing : p.phase = .listing)
      (told : listed = some (.error error)) :
      Turn listed p q (p.ending (.error (.byLibrary .discovery error))) q.close none
  | completes (chosen : p.phase = .choosing []) :
      Turn listed p q (p.ending (.ok p.enqueued)) q.close none
  /-- A requested stop is noticed. -/
  | stops {job : LibraryJob} {rest : List String} {after : JobQueue LibraryJob}
      (requested : p.cancelled = true) (offered : p.offers? = some (job, rest))
      (keeps : q.Keeps after) (items : after.items = q.items) :
      Turn listed p q (p.ending (.error .stopped)) after.close none
  | delivers {job : LibraryJob} {rest : List String} {after : JobQueue LibraryJob}
      (going : p.cancelled = false) (offered : p.offers? = some (job, rest))
      (opened : q.isClosed = false) (keeps : q.Keeps after)
      (items : after.items = q.items ++ [job]) :
      Turn listed p q { p with phase := .choosing rest, enqueued := p.enqueued + 1 } after
        (some job)
  /-- The queue is closed. -/
  | refused {job : LibraryJob} {rest : List String} {after : JobQueue LibraryJob}
      (going : p.cancelled = false) (offered : p.offers? = some (job, rest))
      (closed : q.isClosed = true) (keeps : q.Keeps after) (items : after.items = q.items) :
      Turn listed p q (p.ending (.error .stopped)) after.close none
  /-- The queue is full, and the job waits for a slot. -/
  | waits {job : LibraryJob} {rest : List String} {after : JobQueue LibraryJob}
      (going : p.cancelled = false) (offered : p.offers? = some (job, rest)) (keeps : q.Keeps after)
      (items : after.items = q.items) :
      Turn listed p q { p with phase := .sending job rest } after none

variable {client : Client} {listed : Option (Except LibraryError (List String))}
  {p next : UpdatesProvider} {q after : JobQueue LibraryJob} {put : Option LibraryJob}

/-- **Every step is a turn.** -/
theorem turn_of_step (stepped : p.step client listed q = some (next, after, put)) :
    Turn listed p q next after put := by
  unfold step at stepped
  split at stepped
  next listing =>
    obtain ⟨told, rfl, answered⟩ := Option.map_eq_some_iff.mp stepped
    cases told with
    | ok urls =>
        cases answered
        exact .lists listing rfl
    | error error =>
        cases answered
        exact .unlisted listing rfl
  next chosen =>
    cases stepped
    exact .completes chosen
  next url rest chosen =>
    have offered : p.offers? = some (.update [url], rest) := by
      simp only [offers?, chosen]
    split at stepped
    next requested =>
      cases stepped
      exact .stops requested offered (.refl q) rfl
    next unrequested =>
      have going : p.cancelled = false := Bool.eq_false_iff.mpr unrequested
      have told := q.startSend_told client (.update [url])
      dsimp only at stepped
      generalize q.startSend client (.update [url]) = answered at stepped told
      obtain ⟨later, verdict⟩ := answered
      cases told with
      | sent opened keeps items =>
          cases stepped
          exact .delivers going offered opened keeps items
      | refused closed keeps items =>
          cases stepped
          exact .refused going offered closed keeps items
      | waits _ keeps items =>
          cases stepped
          exact .waits going offered keeps items
  next job rest sends =>
    have offered : p.offers? = some (job, rest) := by
      simp only [offers?, sends]
    split at stepped
    next requested =>
      cases stepped
      exact .stops requested offered (q.abandonSend_keeps client) rfl
    next unrequested =>
      have going : p.cancelled = false := Bool.eq_false_iff.mpr unrequested
      have told := q.resumeSend_told client job
      generalize q.resumeSend client job = answered at stepped told
      obtain ⟨later, verdict⟩ := answered
      cases told with
      | sent opened keeps items =>
          cases stepped
          exact .delivers going offered opened keeps items
      | refused closed keeps items =>
          cases stepped
          exact .refused going offered closed keeps items
      | waits => cases stepped
  · cases stepped

namespace Turn

theorem items (turn : Turn listed p q next after put) : after.items = q.items ++ put.toList := by
  cases turn with
  | lists | unlisted | completes => exact (List.append_nil _).symm
  | delivers _ _ _ _ items => exact items
  | stops _ _ _ items | waits _ _ _ items => exact items.trans (List.append_nil _).symm
  | refused _ _ _ _ items => exact items.trans (List.append_nil _).symm

theorem balanced (turn : Turn listed p q next after put) (balanced : q.Balanced) :
    after.Balanced := by
  cases turn with
  | lists => exact balanced
  | unlisted | completes => exact balanced.close
  | stops _ _ keeps | refused _ _ _ keeps => exact (keeps.balanced balanced).close
  | delivers _ _ _ keeps | waits _ _ keeps => exact keeps.balanced balanced

/-- A closed queue stays closed, and nothing is put there. -/
theorem of_isClosed (turn : Turn listed p q next after put) (closed : q.isClosed = true) :
    after.isClosed = true ∧ put = none := by
  cases turn with
  | lists => exact ⟨closed, rfl⟩
  | unlisted | completes | stops | refused => exact ⟨rfl, rfl⟩
  | delivers _ _ opened => exact Bool.noConfusion (opened.symm.trans closed)
  | waits _ _ keeps => exact ⟨keeps.closed.trans closed, rfl⟩

end Turn

def Updates (p : UpdatesProvider) : Prop :=
  ∀ job rest, p.offers? = some (job, rest) → job.kind = .update

/-- Only updates are put into the queue. -/
theorem Turn.updates (turn : Turn listed p q next after put) (updates : p.Updates) :
    next.Updates ∧ ∀ job, put = some job → job.kind = .update := by
  have choosing (urls : List String) (enqueued : Nat) :
      ({ p with phase := .choosing urls, enqueued } : UpdatesProvider).Updates := by
    intro job rest offered
    cases urls with
    | nil => cases offered
    | cons url urls =>
        cases offered
        rfl
  have finished (result : Except ProviderError Nat) : (p.ending result).Updates :=
    fun _ _ offered => nomatch offered
  cases turn with
  | lists => exact ⟨choosing _ _, fun _ put => nomatch put⟩
  | unlisted | completes | stops | refused => exact ⟨finished _, fun _ put => nomatch put⟩
  | delivers _ offered =>
      refine ⟨choosing _ _, fun job put => ?_⟩
      cases put
      exact updates _ _ offered
  | waits _ offered =>
      refine ⟨fun job rest again => ?_, fun _ put => nomatch put⟩
      cases again
      exact updates _ _ offered

end UpdatesProvider

end RepoCollector
