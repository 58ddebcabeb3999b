import RepoCollector.Library.Inventory
import RepoCollector.Proofs.Discovery.Updates
import RepoCollector.Proofs.Library.Inventory
import RepoCollector.Proofs.Play

/-! # Roll calls

A roll call is a run of the updates provider: the library is listed, while anything may happen to
its files, and an update for each clone is put into a queue that others use as they like.  At any
moment the provider may be cancelled, and somebody else may close the queue; the run is *cut* from
the first such moment on.

However it ends, the queue is closed, and the updates that were put there are the first ones of the
sorted list, up to the cut (`RepoCollector.Rollcall.updates_sorted_prefix`).
-/

namespace RepoCollector

/-- The update of one clone. -/
def updateOf (url : String) : LibraryJob := { kind := .update, endpoints := [url] }

/-- A run of the updates provider. -/
structure Rollcall where
  inventory : Inventory := {}
  provider : UpdatesProvider := {}
  queue : JobQueue LibraryJob
  /-- The jobs that the provider's steps added to the queue, the first one first. -/
  put : List LibraryJob := []
  /-- The jobs that the provider reported as discovered, the first one first. -/
  reported : List LibraryJob := []
  /-- How many jobs had been put into the queue when the provider was cancelled or the queue was
  closed, whichever came first. -/
  cut : Option Nat := none

/-- What can happen during a roll call. -/
inductive RollcallMove where
  /-- The library is listed further, whatever its files are like by now. -/
  | inspect (surroundings : Surroundings) (files : Files)
  /-- Others have used the queue, in any way; but it does not open again once it is closed. -/
  | others (queue : JobQueue LibraryJob)
  | cancel
  | step

namespace Rollcall

/-- Notes the first moment at which the provider is cancelled or the queue closed. -/
def heed (s : Rollcall) : Rollcall :=
  { s with
    cut := s.cut.or
      (if s.provider.cancelled || s.queue.isClosed then some s.put.length else none) }

def start (queue : JobQueue LibraryJob) : Rollcall := heed { queue }

def advance (s : Rollcall) (provider : UpdatesProvider) (queue : JobQueue LibraryJob)
    (job : Option LibraryJob) : Rollcall :=
  { s with
    provider, queue
    put := s.put ++ queue.items.drop s.queue.items.length
    reported := s.reported ++ job.toList }

def act (config : LibraryConfig) (client : Client) (move : RollcallMove) (s : Rollcall) :
    Option Rollcall :=
  match move with
  | .inspect surroundings files =>
    (s.inventory.step config surroundings files).map fun inventory => { s with inventory }
  | .others queue =>
    if s.queue.isClosed = true → queue.isClosed = true then some (heed { s with queue }) else none
  | .cancel => some (heed { s with provider := { s.provider with cancelled := true } })
  | .step => (s.provider.step client s.inventory.result? s.queue).map fun after =>
      s.advance after.1 after.2.1 after.2.2

end Rollcall

namespace UpdatesProvider

variable {p : UpdatesProvider}

/-- The jobs that are left to be put into the queue, once the library is listed. -/
def left? (p : UpdatesProvider) : Option (List LibraryJob) :=
  match p.phase with
  | .choosing rest => some (rest.map updateOf)
  | .sending job rest => some (job :: rest.map updateOf)
  | .listing | .over _ => none

theorem left?_of_offers {job : LibraryJob} {rest : List String}
    (offered : p.offers? = some (job, rest)) : p.left? = some (job :: rest.map updateOf) := by
  unfold offers? at offered
  unfold left?
  split at offered
  next chosen =>
    cases offered
    rw [chosen]
    rfl
  next sends =>
    cases offered
    rw [sends]
  · cases offered
  · cases offered
  · cases offered

theorem running_of_left {jobs : List LibraryJob} (left : p.left? = some jobs) :
    p.result? = none ∧ p.phase ≠ .listing := by
  unfold left? at left
  split at left
  next chosen =>
    rw [result?, chosen]
    exact ⟨rfl, UpdatesPhase.noConfusion⟩
  next sends =>
    rw [result?, sends]
    exact ⟨rfl, UpdatesPhase.noConfusion⟩
  · cases left
  · cases left

end UpdatesProvider

namespace Inventory

variable {config : LibraryConfig} {surroundings : Surroundings} {files : Files}
  {inventory next : Inventory}

/-- An inventory that is complete stays as it is. -/
theorem result?_of_step (stepped : inventory.step config surroundings files = some next) :
    inventory.result? = none := by
  unfold step at stepped
  split at stepped
  next reads => rw [result?, reads]
  next lists => rw [result?, lists]
  next launches => rw [result?, launches]
  next runs => rw [result?, runs]
  · cases stepped

theorem result?_afterGit (inventory : Inventory) (rest : List Place)
    (answer : Except LibraryError String) : (inventory.afterGit rest answer).result? = none := by
  cases answer with
  | ok printed => rfl
  | error fault => rfl

/-- What is listed is sorted. -/
theorem pairwise_of_step (stepped : inventory.step config surroundings files = some next)
    {urls : List String} (listed : next.result? = some (.ok urls)) : urls.Pairwise (· ≤ ·) := by
  unfold step at stepped
  split at stepped
  · split at stepped
    · cases stepped
      cases listed
    · cases stepped
      cases listed
  · cases stepped
    cases listed
    exact Host.pairwise_mergeSort _
  · split at stepped
    · cases stepped
      rw [result?_afterGit] at listed
      cases listed
    · cases stepped
      cases listed
  · split at stepped
    · cases stepped
      rw [result?_afterGit] at listed
      cases listed
    · cases stepped
      rw [result?_afterGit] at listed
      cases listed
    · cases stepped
  · cases stepped

end Inventory

namespace Rollcall

variable {config : LibraryConfig} {client : Client} {s t : Rollcall}

/-- **How a roll call ends.** -/
inductive Ends (s : Rollcall) : Except ProviderError Nat → Prop where
  /-- The library could not be listed. -/
  | unlisted {error : LibraryError} (listed : s.inventory.result? = some (.error error))
      (nothing : s.put = []) : Ends s (.error (.byLibrary .discovery error))
  /-- The run was cut before everything was put into the queue. -/
  | stopped {urls : List String} (listed : s.inventory.result? = some (.ok urls))
      (first : s.put = (urls.take s.put.length).map updateOf)
      (some_left : s.put.length < urls.length) (cut : s.cut = some s.put.length) :
      Ends s (.error .stopped)
  /-- Everything was put into the queue. -/
  | complete {urls : List String} (listed : s.inventory.result? = some (.ok urls))
      (all : s.put = urls.map updateOf) : Ends s (.ok urls.length)

/-- What holds of a roll call at every moment. -/
structure Sound (s : Rollcall) : Prop where
  reported : s.reported = s.put
  enqueued : s.provider.enqueued = s.put.length
  sorted : ∀ urls, s.inventory.result? = some (.ok urls) → urls.Pairwise (· ≤ ·)
  /-- Nothing is put into the queue after the cut. -/
  cut : ∀ count, s.cut = some count →
    count = s.put.length ∧ (s.provider.cancelled = true ∨ s.queue.isClosed = true)
  heeded : s.provider.result? = none →
    s.provider.cancelled = true ∨ s.queue.isClosed = true → s.cut ≠ none
  listing : s.provider.phase = .listing → s.put = []
  going : ∀ jobs, s.provider.left? = some jobs →
    ∃ urls, s.inventory.result? = some (.ok urls) ∧ s.put ++ jobs = urls.map updateOf
  closed : s.provider.result? ≠ none → s.queue.isClosed = true
  ending : ∀ result, s.provider.result? = some result → s.Ends result

theorem Ends.congr {result : Except ProviderError Nat} (ends : s.Ends result)
    (inventory : t.inventory = s.inventory) (put : t.put = s.put)
    (cut : ∀ count, s.cut = some count → t.cut = some count) : t.Ends result := by
  cases ends with
  | unlisted listed nothing => exact .unlisted (inventory ▸ listed) (put.trans nothing)
  | stopped listed first left noted =>
      exact .stopped (inventory ▸ listed) (put ▸ first) (put ▸ left) (put ▸ cut _ noted)
  | complete listed all => exact .complete (inventory ▸ listed) (put.trans all)

/-- A run that has ended had the library listed, or the failure to list it. -/
theorem Ends.result?_ne_none {result : Except ProviderError Nat} (ends : s.Ends result) :
    s.inventory.result? ≠ none := by
  cases ends with
  | unlisted listed | stopped listed | complete listed =>
      rw [listed]
      exact Option.some_ne_none _

theorem cut_heed_of_some {count : Nat} (noted : s.cut = some count) :
    s.heed.cut = some count := by
  rw [heed, noted]
  rfl

theorem cut_heed_eq_some {count : Nat} (noted : s.heed.cut = some count) :
    s.cut = some count ∨
      count = s.put.length ∧ (s.provider.cancelled = true ∨ s.queue.isClosed = true) := by
  rcases Option.or_eq_some_iff.mp noted with before | ⟨_, now⟩
  · exact Or.inl before
  · obtain ⟨met, same⟩ := Option.ite_none_right_eq_some.mp now
    exact Or.inr ⟨(Option.some.inj same).symm, Bool.or_eq_true_iff.mp met⟩

theorem cut_heed_ne_none (met : s.provider.cancelled = true ∨ s.queue.isClosed = true) :
    s.heed.cut ≠ none := by
  rw [heed, if_pos (Bool.or_eq_true_iff.mpr met)]
  cases s.cut <;> exact Option.some_ne_none _

/-- The provider is cancelled, or others have used the queue. -/
private theorem Sound.heed (sound : s.Sound) (cancelled : Bool) (queue : JobQueue LibraryJob)
    (stays : s.provider.cancelled = true → cancelled = true)
    (shut : s.queue.isClosed = true → queue.isClosed = true) :
    ({ s with provider := { s.provider with cancelled }, queue } : Rollcall).heed.Sound := by
  refine ⟨sound.reported, sound.enqueued, sound.sorted, fun count noted => ?_,
    fun _ met => cut_heed_ne_none met, sound.listing, sound.going,
    fun ended => shut (sound.closed ended),
    fun result ended => (sound.ending result ended).congr rfl rfl fun _ before =>
      cut_heed_of_some before⟩
  rcases cut_heed_eq_some noted with before | now
  · obtain ⟨same, cause⟩ := sound.cut count before
    exact ⟨same, cause.imp stays shut⟩
  · exact now

theorem sound_start (queue : JobQueue LibraryJob) : (start queue).Sound := by
  refine ⟨rfl, rfl, fun _ listed => ?_, fun count noted => ?_, fun _ met => cut_heed_ne_none met,
    fun _ => rfl, fun _ left => ?_, fun ended => ?_, fun _ ended => ?_⟩
  · cases listed
  · rcases cut_heed_eq_some noted with before | now
    · cases before
    · exact now
  · cases left
  · exact absurd rfl ended
  · cases ended

private theorem Sound.inspect (sound : s.Sound) {surroundings : Surroundings} {files : Files}
    {inventory : Inventory}
    (stepped : s.inventory.step config surroundings files = some inventory) :
    ({ s with inventory } : Rollcall).Sound := by
  have unlisted := Inventory.result?_of_step stepped
  refine ⟨sound.reported, sound.enqueued, fun _ => Inventory.pairwise_of_step stepped, sound.cut,
    sound.heeded, sound.listing, fun jobs left => ?_, sound.closed, fun result ended => ?_⟩
  · obtain ⟨urls, listed, _⟩ := sound.going jobs left
    cases unlisted.symm.trans listed
  · exact absurd unlisted (sound.ending result ended).result?_ne_none

/-- A run that is cut while something is left to be put into the queue. -/
private theorem Sound.stopped (sound : s.Sound) {job : LibraryJob} {rest : List String}
    (offered : s.provider.offers? = some (job, rest))
    (met : s.provider.cancelled = true ∨ s.queue.isClosed = true) :
    s.Ends (.error .stopped) := by
  have left := UpdatesProvider.left?_of_offers offered
  obtain ⟨urls, listed, all⟩ := sound.going _ left
  have first : s.put = (urls.take s.put.length).map updateOf := by
    rw [List.map_take, ← all, List.take_left]
  have fewer : s.put.length < urls.length := by
    have lengths := congrArg List.length all
    rw [List.length_append, List.length_map, List.length_cons] at lengths
    omega
  obtain ⟨count, noted⟩ := Option.ne_none_iff_exists'.mp
    (sound.heeded (UpdatesProvider.running_of_left left).1 met)
  obtain ⟨rfl, _⟩ := sound.cut count noted
  exact .stopped listed first fewer noted

/-- A run that ends. -/
private theorem Sound.finish (sound : s.Sound) {result : Except ProviderError Nat}
    (ends : s.Ends result) {queue : JobQueue LibraryJob} (items : queue.items = s.queue.items) :
    (s.advance (s.provider.ending result) queue.close none).Sound := by
  have same : s.put ++ queue.items.drop s.queue.items.length = s.put := by
    rw [items, List.drop_length, List.append_nil]
  have reported : s.reported ++ (none : Option LibraryJob).toList = s.put ++
      queue.items.drop s.queue.items.length := by
    rw [same, Option.toList_none, List.append_nil, sound.reported]
  refine ⟨reported, sound.enqueued.trans (congrArg List.length same.symm), sound.sorted,
    fun count noted => ?_, fun running => ?_, fun listing => ?_, fun jobs left => ?_, fun _ => rfl,
    fun other ended => ?_⟩
  · exact ⟨(sound.cut count noted).1.trans (congrArg List.length same.symm), Or.inr rfl⟩
  · cases running
  · cases listing
  · cases left
  · cases ended
    exact ends.congr rfl same fun _ noted => noted

/-- A run that goes on, and may have put a job into the queue. -/
private theorem Sound.go_on (sound : s.Sound) {provider : UpdatesProvider}
    {queue : JobQueue LibraryJob} {job : Option LibraryJob}
    (running : s.provider.result? = none) (items : queue.items = s.queue.items ++ job.toList)
    (closed : queue.isClosed = s.queue.isClosed)
    (cancelled : provider.cancelled = s.provider.cancelled)
    (enqueued : provider.enqueued = s.provider.enqueued + job.toList.length)
    (uncut : job ≠ none → s.cut = none) {jobs : List LibraryJob} (left : provider.left? = some jobs)
    (going : ∃ urls, s.inventory.result? = some (.ok urls) ∧
      s.put ++ job.toList ++ jobs = urls.map updateOf) :
    (s.advance provider queue job).Sound := by
  have put : s.put ++ queue.items.drop s.queue.items.length = s.put ++ job.toList := by
    rw [items, List.drop_left]
  obtain ⟨unended, listed⟩ := UpdatesProvider.running_of_left left
  refine ⟨?_, ?_, sound.sorted, fun count noted => ?_, fun _ met => ?_,
    fun listing => absurd listing listed, fun others same => ?_,
    fun ended => absurd unended ended, fun result ended => ?_⟩
  · exact (congrArg (· ++ job.toList) sound.reported).trans put.symm
  · change provider.enqueued = (s.put ++ queue.items.drop s.queue.items.length).length
    rw [put, enqueued, sound.enqueued, List.length_append]
  · obtain ⟨same, cause⟩ := sound.cut count noted
    have nothing : job = none := by
      by_contra something
      cases (uncut something).symm.trans noted
    refine ⟨?_, ?_⟩
    · change count = (s.put ++ queue.items.drop s.queue.items.length).length
      rw [put, nothing, Option.toList_none, List.append_nil, same]
    · change provider.cancelled = true ∨ queue.isClosed = true
      rw [cancelled, closed]
      exact cause
  · change provider.cancelled = true ∨ queue.isClosed = true at met
    rw [cancelled, closed] at met
    exact sound.heeded running met
  · cases left.symm.trans same
    obtain ⟨urls, told, all⟩ := going
    exact ⟨urls, told, (congrArg (· ++ jobs) put).trans all⟩
  · cases unended.symm.trans ended

private theorem Sound.step (sound : s.Sound) (moved : s.act config client .step = some t) :
    t.Sound := by
  obtain ⟨⟨provider, queue, job⟩, stepped, rfl⟩ := Option.map_eq_some_iff.mp moved
  cases UpdatesProvider.turn_of_step stepped with
  | lists listing told =>
      refine sound.go_on ?_ (List.append_nil _).symm rfl rfl rfl
        (fun something => absurd rfl something) rfl ⟨_, told, ?_⟩
      · rw [UpdatesProvider.result?, listing]
      · rw [sound.listing listing]
        rfl
  | unlisted listing told => exact sound.finish (.unlisted told (sound.listing listing)) rfl
  | completes chosen =>
      obtain ⟨urls, listed, all⟩ := sound.going [] (by rw [UpdatesProvider.left?, chosen]; rfl)
      rw [List.append_nil] at all
      have length : s.provider.enqueued = urls.length := by
        rw [sound.enqueued, all, List.length_map]
      rw [length]
      exact sound.finish (.complete listed all) rfl
  | stops requested offered keeps items =>
      exact sound.finish (sound.stopped offered (Or.inl requested)) items
  | delivers going offered opened keeps items =>
      have left := UpdatesProvider.left?_of_offers offered
      obtain ⟨urls, listed, all⟩ := sound.going _ left
      have uncut : s.cut = none := by
        by_contra noted
        obtain ⟨count, noted⟩ := Option.ne_none_iff_exists'.mp noted
        rcases (sound.cut count noted).2 with cancelled | closed
        · exact Bool.noConfusion (going.symm.trans cancelled)
        · exact Bool.noConfusion (opened.symm.trans closed)
      refine sound.go_on (UpdatesProvider.running_of_left left).1 items keeps.closed rfl rfl
        (fun _ => uncut) rfl ⟨urls, listed, ?_⟩
      rw [← all, List.append_assoc]
      rfl
  | refused going offered closed keeps items =>
      exact sound.finish (sound.stopped offered (Or.inr closed)) items
  | waits going offered keeps items =>
      have left := UpdatesProvider.left?_of_offers offered
      obtain ⟨urls, listed, all⟩ := sound.going _ left
      refine sound.go_on (UpdatesProvider.running_of_left left).1
        (items.trans (List.append_nil _).symm) keeps.closed rfl rfl
        (fun something => absurd rfl something) rfl ⟨urls, listed, ?_⟩
      rw [← all, Option.toList_none, List.append_nil]

/-- **Every move keeps a roll call sound.** -/
theorem Sound.act {move : RollcallMove} (sound : s.Sound)
    (moved : s.act config client move = some t) : t.Sound := by
  cases move with
  | inspect surroundings files =>
      obtain ⟨inventory, stepped, rfl⟩ := Option.map_eq_some_iff.mp moved
      exact sound.inspect stepped
  | others queue =>
      simp only [Rollcall.act, Option.ite_none_right_eq_some, Option.some.injEq] at moved
      obtain ⟨shut, rfl⟩ := moved
      exact sound.heed s.provider.cancelled queue id shut
  | cancel =>
      cases moved
      exact sound.heed true s.queue (fun _ => rfl) id
  | step => exact sound.step moved

theorem sound_of_play {queue : JobQueue LibraryJob} {moves : List RollcallMove}
    (played : play (act config client) moves (start queue) = some s) : s.Sound :=
  play_keeps (fun _ _ _ _ sound moved => sound.act moved) (fun _ _ => trivial) (sound_start queue)
    played

/-- What was put into the queue so far is the beginning of the list. -/
private theorem Sound.put_eq (sound : s.Sound) {urls : List String}
    (listed : s.inventory.result? = some (.ok urls)) :
    s.put = (urls.take s.put.length).map updateOf := by
  cases left : s.provider.left? with
  | some jobs =>
      obtain ⟨others, told, all⟩ := sound.going jobs left
      cases told.symm.trans listed
      rw [List.map_take, ← all, List.take_left]
  | none =>
      unfold UpdatesProvider.left? at left
      split at left
      · cases left
      · cases left
      next listing =>
        rw [sound.listing listing]
        rfl
      next result ended =>
        cases sound.ending result (by rw [UpdatesProvider.result?, ended]) with
        | unlisted told => cases told.symm.trans listed
        | stopped told first =>
            cases told.symm.trans listed
            exact first
        | complete told all =>
            cases told.symm.trans listed
            have length : s.put.length = urls.length := by rw [all, List.length_map]
            rw [length, List.take_length]
            exact all

/-- A run that is cut does not wait for a slot. -/
private theorem exists_end (met : s.provider.cancelled = true ∨ s.queue.isClosed = true)
    {jobs : List LibraryJob} (left : s.provider.left? = some jobs) :
    ∃ t, s.act config client .step = some t ∧ t.provider.result? ≠ none := by
  suffices ends : ∃ result queue, s.provider.step client s.inventory.result? s.queue =
      some (s.provider.finish queue result) by
    obtain ⟨result, queue, stepped⟩ := ends
    refine ⟨s.advance (s.provider.ending result) queue.close none, ?_, Option.some_ne_none _⟩
    rw [act, stepped]
    rfl
  unfold UpdatesProvider.left? at left
  split at left
  next rest chosen =>
    cases rest with
    | nil =>
        refine ⟨.ok s.provider.enqueued, s.queue, ?_⟩
        simp only [UpdatesProvider.step, chosen]
    | cons url rest =>
        by_cases requested : s.provider.cancelled = true
        · refine ⟨.error .stopped, s.queue, ?_⟩
          simp only [UpdatesProvider.step, chosen, requested, ↓reduceIte]
        · have closed := met.resolve_left requested
          refine ⟨.error .stopped, s.queue, ?_⟩
          simp only [UpdatesProvider.step, chosen, requested, Bool.false_eq_true, ↓reduceIte,
            JobQueue.startSend, closed, UpdatesProvider.afterSend]
  next job rest sends =>
    by_cases requested : s.provider.cancelled = true
    · refine ⟨.error .stopped, s.queue.abandonSend client, ?_⟩
      simp only [UpdatesProvider.step, sends, requested, ↓reduceIte]
    · have closed := met.resolve_left requested
      have told := s.queue.resumeSend_told client job
      generalize tried : s.queue.resumeSend client job = answered at told
      obtain ⟨after, answer⟩ := answered
      cases told with
      | sent opened => exact Bool.noConfusion (opened.symm.trans closed)
      | waits opened => exact Bool.noConfusion (opened.symm.trans closed)
      | refused =>
          refine ⟨.error .stopped, after, ?_⟩
          simp only [UpdatesProvider.step, sends, requested, Bool.false_eq_true, ↓reduceIte, tried,
            UpdatesProvider.afterSend]
  · cases left
  · cases left

/-- A run that is cut comes to its end as soon as the library is listed. -/
private theorem Sound.exists_end (sound : s.Sound) (cut : s.cut ≠ none)
    (listed : s.inventory.result? ≠ none) :
    ∃ steps t, play (Rollcall.act config client) (List.replicate steps .step) s = some t ∧
      t.provider.result? ≠ none := by
  obtain ⟨count, noted⟩ := Option.ne_none_iff_exists'.mp cut
  have met := (sound.cut count noted).2
  cases left : s.provider.left? with
  | some jobs =>
      obtain ⟨t, moved, ended⟩ := Rollcall.exists_end met left
      refine ⟨1, t, ?_, ended⟩
      rw [List.replicate_one, play, moved]
      rfl
  | none =>
      obtain ⟨listing, told⟩ := Option.ne_none_iff_exists'.mp listed
      unfold UpdatesProvider.left? at left
      split at left
      · cases left
      · cases left
      next begins =>
        cases listing with
        | error error =>
            refine ⟨1, s.advance (s.provider.ending (.error (.byLibrary .discovery error)))
              s.queue.close none, ?_, Option.some_ne_none _⟩
            rw [List.replicate_one, play, Rollcall.act, UpdatesProvider.step, begins, told]
            rfl
        | ok urls =>
            have began : s.act config client .step =
                some (s.advance { s.provider with phase := .choosing urls } s.queue none) := by
              rw [Rollcall.act, UpdatesProvider.step, begins, told]
              rfl
            obtain ⟨t, moved, ended⟩ := Rollcall.exists_end
              (s := s.advance { s.provider with phase := .choosing urls } s.queue none) met rfl
            exact ⟨2, t, Option.bind_eq_some_iff.mpr
              ⟨_, began, Option.bind_eq_some_iff.mpr ⟨t, moved, rfl⟩⟩, ended⟩
      next result ended =>
        refine ⟨0, s, rfl, ?_⟩
        rw [UpdatesProvider.result?, ended]
        exact Option.some_ne_none _

/-- **The updates provider puts the beginning of the sorted list into the queue, and always closes
it.**  Whatever happens to the library while it is listed, whatever others do with the queue, and
whenever the provider is cancelled or the queue is closed:

* the jobs that it put into the queue are updates of the first clones of the sorted list, one with
  the URL of each alone and in this order, and each was reported once;
* when the run is over the queue is closed, and the run says that the library could not be listed,
  in which case nothing was put into the queue; or the number of clones listed, if an update for
  each was put there; or that it was stopped, if it was cut before that, and then nothing was put
  there after the cut;
* a run that is cut comes to its end once the library is listed, without waiting for a slot. -/
theorem updates_sorted_prefix (config : LibraryConfig) (client : Client)
    (queue : JobQueue LibraryJob) {moves : List RollcallMove}
    (played : play (act config client) moves (start queue) = some s) :
    (s.reported = s.put ∧ ∀ urls, s.inventory.result? = some (.ok urls) →
      urls.Pairwise (· ≤ ·) ∧ s.put = (urls.take s.put.length).map
        fun url => ({ kind := .update, endpoints := [url] } : LibraryJob)) ∧
    (∀ result, s.provider.result? = some result → s.queue.isClosed = true ∧
      ((∃ error, s.inventory.result? = some (.error error) ∧
          result = .error (.byLibrary .discovery error) ∧ s.put = []) ∨
        ∃ urls, s.inventory.result? = some (.ok urls) ∧
          (result = .ok urls.length ∧ s.put.length = urls.length ∧
              (∀ count, s.cut = some count → count = urls.length) ∨
            result = .error .stopped ∧ s.put.length < urls.length ∧
              s.cut = some s.put.length))) ∧
    (s.cut ≠ none → s.inventory.result? ≠ none → ∃ steps t,
      play (act config client) (List.replicate steps .step) s = some t ∧
        t.provider.result? ≠ none) := by
  have sound := sound_of_play played
  refine ⟨⟨sound.reported, fun urls listed => ⟨sound.sorted urls listed, sound.put_eq listed⟩⟩,
    fun result ended => ⟨sound.closed (ended ▸ Option.some_ne_none _), ?_⟩, sound.exists_end⟩
  cases sound.ending result ended with
  | unlisted listed nothing => exact Or.inl ⟨_, listed, rfl, nothing⟩
  | stopped listed _ fewer cut => exact Or.inr ⟨_, listed, Or.inr ⟨rfl, fewer, cut⟩⟩
  | complete listed all =>
      have length : s.put.length = _ := (congrArg List.length all).trans (List.length_map _)
      refine Or.inr ⟨_, listed, Or.inl ⟨rfl, length, fun count noted => ?_⟩⟩
      exact (sound.cut count noted).1.trans length

/-- A library of two clones. -/
def twoClones : Files :=
  { entries := [([], .directory), (["b.git".toList], .directory), (["a.git".toList], .directory)] }

/-- Git tells the URL of a clone. -/
def tells (url : String) : RollcallMove := .inspect { report := some { stdout := url } } twoClones

/-- Both clones are listed and one update is put into the queue; the other one waits for a slot when
the provider is cancelled. -/
def halfway : List RollcallMove :=
  [.inspect {} twoClones, .inspect {} twoClones, tells "https://h/b", .inspect {} twoClones,
    tells "https://h/a", .inspect {} twoClones, .step, .step, .step, .cancel, .step]

/-- The library is listed as these URLs; the clone of the first one was the last one asked about. -/
def bothListed (urls : List String) : Rollcall :=
  { inventory := { phase := .over (.ok urls), found := ["https://h/a", "https://h/b"] }
    queue := .make "updates" 1 }

theorem play_halfway_inspections :
    play (act {} (.task 0)) (halfway.take 6) (start (.make "updates" 1)) =
      some (bothListed ["https://h/a", "https://h/b"]) := by
  have listed : play (act {} (.task 0)) (halfway.take 6) (start (.make "updates" 1)) =
      some (bothListed (["https://h/a", "https://h/b"].mergeSort (· ≤ ·))) := rfl
  have sorted : ["https://h/a", "https://h/b"].mergeSort (· ≤ ·) = ["https://h/a", "https://h/b"] :=
    List.mergeSort_of_pairwise (by decide)
  rw [listed, sorted]

theorem bothListed_account :
    (play (act {} (.task 0)) (halfway.drop 6) (bothListed ["https://h/a", "https://h/b"])).map
      (fun s => (s.inventory.result?.bind Except.toOption, s.provider.result?.isSome, s.put,
        s.cut)) =
      some (some ["https://h/a", "https://h/b"], true,
        [{ kind := .update, endpoints := ["https://h/a"] }], some 1) := by
  decide +kernel

theorem updates_sorted_prefix_halfway :
    ∃ s, play (act {} (.task 0)) halfway (start (.make "updates" 1)) = some s ∧
      s.inventory.result? = some (.ok ["https://h/a", "https://h/b"]) ∧
      s.put = [{ kind := .update, endpoints := ["https://h/a"] }] ∧ s.reported = s.put ∧
      s.queue.isClosed = true ∧ s.provider.result? = some (.error .stopped) := by
  obtain ⟨s, ended, account⟩ := Option.map_eq_some_iff.mp bothListed_account
  have played : play (act {} (.task 0)) halfway (start (.make "updates" 1)) = some s :=
    play_append_of_play play_halfway_inspections ended
  simp only [Prod.mk.injEq] at account
  obtain ⟨listing, ended, put, cut⟩ := account
  obtain ⟨result, ended⟩ := Option.isSome_iff_exists.mp ended
  obtain ⟨listing, listed, urls⟩ := Option.bind_eq_some_iff.mp listing
  obtain ⟨⟨reported, _⟩, verdicts, _⟩ :=
    updates_sorted_prefix {} (.task 0) (.make "updates" 1) played
  obtain ⟨closed, verdict⟩ := verdicts result ended
  cases listing with
  | error error => cases urls
  | ok found =>
      cases urls
      rcases verdict with ⟨_, told, _⟩ | ⟨_, told, ⟨_, all, _⟩ | ⟨rfl, _⟩⟩
      · cases told.symm.trans listed
      · cases told.symm.trans listed
        rw [put] at all
        cases all
      · exact ⟨s, played, listed, put, reported, closed, ended⟩

end Rollcall

end RepoCollector
