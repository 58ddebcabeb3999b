import RepoCollector.Proofs.Discovery.Career

/-! # The stop handshake

A stop waits until the end of a run is acknowledged, or the provider is gone, or its time is up
(`RepoCollector.Career.answer?`).  The acknowledgement is a flag that the end of a run sets and that
nothing clears, so a stop that succeeds has seen that *some* run has ended.  During the first run
there is none, and so a stop that succeeds finds the provider outside
(`RepoCollector.Career.stop_answers_truthfully`).

A provider that is started again still has the old acknowledgement, and a stop during its second run
is answered at once (`RepoCollector.Career.answers_for_another_run`).
-/

namespace RepoCollector

/-- The end of a run is acknowledged, and nothing else is. -/
theorem Provider.Turn.acknowledged {now : Instant} {client : Client}
    {answer : Option (Except DiscoveryError Repository)} {p next : Provider}
    {q after : JobQueue LibraryJob} {event : Option ProviderEvent}
    (turn : Turn now client answer p q next after event) :
    next.dropped = p.dropped ∧
      next.acknowledged = (p.acknowledged || (event.bind ProviderEvent.error?).isSome) := by
  cases turn with
  | stops | refused | fails => exact ⟨rfl, (Bool.or_true _).symm⟩
  | asks | delivers | waits | skips | rests | wakes => exact ⟨rfl, (Bool.or_false _).symm⟩
  | timesOut =>
      unfold keep
      split
      · exact ⟨rfl, (Bool.or_false _).symm⟩
      · exact ⟨rfl, (Bool.or_false _).symm⟩

namespace Career

/-- What a stop that waits is told, if anything. -/
def answer? (c : Career) (stop : PendingStop) : Option (Except ProviderError Unit) :=
  stop.call.step c.now c.provider

/-- How the runs that came to their end have ended, the first one first. -/
def endings (c : Career) : List ProviderError := c.events.filterMap ProviderEvent.error?

/-- What holds at every moment of a provider's career. -/
structure Sound (opts : ProviderOpts) (c : Career) : Prop where
  settings : c.provider.opts = opts
  /-- The flag is set by the first run that ends, and stays. -/
  told : c.provider.acknowledged = true ↔ c.endings ≠ []
  counted : c.endings.length + c.provider.isInside.toNat ≤ c.runs
  gone : c.provider.dropped = true → c.provider.isInside = false
  /-- A stop waits for the stop timeout, and is not kept waiting for longer. -/
  waiting : ∀ stop ∈ c.stops,
    stop.call = { timeout := opts.stopTimeout, deadline := opts.stopTimeout.after stop.since } ∧
      c.now ≤ stop.call.deadline

variable {opts : ProviderOpts} {client : Client} {moves : List CareerMove} {c e : Career}

theorem sound_fresh (opts : ProviderOpts) (backoff : Backoff Float) (q : JobQueue LibraryJob) :
    (fresh opts backoff q).Sound (opts.normalized q.capacity) where
  settings := rfl
  told := iff_of_false Bool.false_ne_true (fun ended => ended rfl)
  counted := Nat.le_refl 0
  gone := fun gone => nomatch gone
  waiting := fun _ member => absurd member List.not_mem_nil

private theorem filterMap_append_toList (events : List ProviderEvent)
    (event : Option ProviderEvent) :
    (events ++ event.toList).filterMap ProviderEvent.error? =
      events.filterMap ProviderEvent.error? ++ (event.bind ProviderEvent.error?).toList := by
  rw [List.filterMap_append]
  cases event with
  | none => rfl
  | some event =>
      cases told : event.error? <;> simp [told]

/-- A run that is given up, and a provider that is gone, leave no trace. -/
private theorem Sound.leaves (sound : c.Sound opts) (dropped : Bool)
    (queue : JobQueue LibraryJob) :
    Sound opts { c with provider := { c.provider with phase := .outside, dropped }, queue } where
  settings := sound.settings
  told := sound.told
  counted := Nat.le_trans (Nat.le_add_right _ _) sound.counted
  gone := fun _ => rfl
  waiting := sound.waiting

/-- A step that ends a run is put on record. -/
theorem Sound.step (sound : c.Sound opts) {answer : Option (Except DiscoveryError Repository)}
    {draw : Option Float} (moved : act client (.step answer draw) c = some e) : e.Sound opts := by
  obtain ⟨⟨provider, queue, event⟩, stepped, rfl⟩ := Option.map_eq_some_iff.mp moved
  have turn := Provider.turn_of_step stepped
  obtain ⟨dropped, acknowledged⟩ := turn.acknowledged
  have inside : c.provider.isInside = true := Provider.isInside_of_step stepped
  have counted := sound.counted
  rw [inside] at counted
  have kept : provider.dropped = false := by
    rw [dropped]
    by_contra gone
    cases inside.symm.trans (sound.gone (Bool.not_eq_false _ ▸ gone))
  refine ⟨turn.opts.trans sound.settings, ?_, ?_, ?_, sound.waiting⟩
  · rw [endings, filterMap_append_toList, acknowledged]
    cases event.bind ProviderEvent.error? with
    | none =>
        rw [Option.isSome_none, Bool.or_false, Option.toList_none, List.append_nil]
        exact sound.told
    | some error =>
        rw [Option.isSome_some, Bool.or_true]
        exact iff_of_true rfl (List.append_ne_nil_of_right_ne_nil _ (List.cons_ne_nil _ _))
  · rw [endings, filterMap_append_toList, List.length_append]
    cases ending : event.bind ProviderEvent.error? with
    | none =>
        exact Nat.le_trans (Nat.add_le_add_left (Bool.toNat_le _) _) counted
    | some error =>
        have outside : provider.isInside = false := by
          by_contra still
          have still : provider.isInside = true := Bool.not_eq_false _ ▸ still
          cases ending.symm.trans (turn.error?_eq_none_iff.mpr (of_decide_eq_true still))
        rw [outside]
        exact counted
  · intro gone
    cases kept.symm.trans gone

/-- **Every move keeps a career sound.** -/
theorem Sound.act {move : CareerMove} (sound : c.Sound opts) (moved : act client move c = some e) :
    e.Sound opts := by
  cases move with
  | wait moment =>
      simp only [Career.act] at moved
      split at moved
      next punctual =>
        cases moved
        refine ⟨sound.settings, sound.told, sound.counted, sound.gone, ?_⟩
        intro stop member
        exact ⟨(sound.waiting stop member).1, punctual.2 stop member⟩
      · cases moved
  | others queue =>
      cases moved
      exact ⟨sound.settings, sound.told, sound.counted, sound.gone, sound.waiting⟩
  | start =>
      simp only [Career.act] at moved
      split at moved
      · cases moved
      next idle =>
        cases moved
        have kept : c.provider.dropped = false :=
          (Bool.or_eq_false_iff.mp (Bool.eq_false_iff.mpr idle)).2
        refine ⟨sound.settings, sound.told, ?_, ?_, sound.waiting⟩
        · exact Nat.add_le_add (Nat.le_trans (Nat.le_add_right _ _) sound.counted) (Nat.le_refl 1)
        · intro gone
          cases kept.symm.trans gone
  | step answer draw => exact sound.step moved
  | abandon =>
      cases moved
      exact sound.leaves c.provider.dropped _
  | drop =>
      cases moved
      exact sound.leaves true _
  | stop =>
      cases moved
      refine ⟨sound.settings, sound.told, sound.counted, sound.gone, ?_⟩
      intro stop member
      obtain before | same := List.mem_append.mp member
      · exact sound.waiting stop before
      · cases List.mem_singleton.mp same
        rw [← sound.settings]
        exact ⟨rfl, Nat.le_add_right _ _⟩
  | leave index =>
      cases moved
      refine ⟨sound.settings, sound.told, sound.counted, sound.gone, ?_⟩
      intro stop member
      exact sound.waiting stop (List.mem_of_mem_eraseIdx member)

/-- A stop is answered as soon as a run has come to its end or the provider is gone. -/
theorem Sound.answer?_of_settled (sound : c.Sound opts)
    (settled : c.endings ≠ [] ∨ c.provider.dropped = true) (stop : PendingStop) :
    c.answer? stop = some (.ok ()) := by
  have known : (c.provider.acknowledged || c.provider.dropped) = true := by
    rw [Bool.or_eq_true, sound.told]
    exact settled
  simp only [answer?, StopCall.step, known, ↓reduceIte]

/-- Until then it waits for the stop timeout, and is told that the stop has failed. -/
theorem Sound.answer?_of_not_settled (sound : c.Sound opts)
    (settled : ¬ (c.endings ≠ [] ∨ c.provider.dropped = true)) {stop : PendingStop}
    (pending : stop ∈ c.stops) :
    c.answer? stop =
      if opts.stopTimeout.after stop.since ≤ c.now then some (.error (.stopFailed opts.stopTimeout))
      else none := by
  have unknown : (c.provider.acknowledged || c.provider.dropped) = false := by
    rw [Bool.eq_false_iff]
    intro known
    rw [Bool.or_eq_true, sound.told] at known
    exact settled known
  simp only [answer?, StopCall.step, unknown, Bool.false_eq_true, ↓reduceIte,
    (sound.waiting stop pending).1]

/-- A run that is in progress when a stop can be answered is not the first one. -/
theorem Sound.ended_before (sound : c.Sound opts)
    (settled : c.endings ≠ [] ∨ c.provider.dropped = true) (inside : c.provider.isInside = true) :
    c.endings ≠ [] ∧ 2 ≤ c.runs := by
  have ended : c.endings ≠ [] := by
    apply settled.resolve_right
    intro gone
    cases inside.symm.trans (sound.gone gone)
  have counted := sound.counted
  rw [inside] at counted
  exact ⟨ended, Nat.le_trans (Nat.succ_le_succ (List.length_pos_of_ne_nil ended)) counted⟩

theorem Sound.answer?_eq_ok (sound : c.Sound opts) {stop : PendingStop} (pending : stop ∈ c.stops) :
    c.answer? stop = some (.ok ()) ↔ c.endings ≠ [] ∨ c.provider.dropped = true := by
  constructor
  · intro done
    by_contra unsettled
    rw [sound.answer?_of_not_settled unsettled pending] at done
    split at done
    · cases done
    · cases done
  · intro settled
    exact sound.answer?_of_settled settled stop

theorem Sound.answer?_eq_error (sound : c.Sound opts) {stop : PendingStop}
    (pending : stop ∈ c.stops) {error : ProviderError} :
    c.answer? stop = some (.error error) ↔ error = .stopFailed opts.stopTimeout ∧
      c.now = opts.stopTimeout.after stop.since ∧ c.endings = [] ∧ c.provider.dropped = false := by
  obtain ⟨call, punctual⟩ := sound.waiting stop pending
  rw [call] at punctual
  constructor
  · intro failed
    have unsettled : ¬ (c.endings ≠ [] ∨ c.provider.dropped = true) := by
      intro settled
      cases failed.symm.trans (sound.answer?_of_settled settled stop)
    rw [sound.answer?_of_not_settled unsettled pending] at failed
    split at failed
    next late =>
      cases failed
      obtain ⟨unended, kept⟩ := not_or.mp unsettled
      exact ⟨rfl, Nat.le_antisymm punctual late, not_not.mp unended, Bool.eq_false_iff.mpr kept⟩
    · cases failed
  · rintro ⟨rfl, late, unended, kept⟩
    have unsettled : ¬ (c.endings ≠ [] ∨ c.provider.dropped = true) :=
      not_or.mpr ⟨not_not.mpr unended, Bool.eq_false_iff.mp kept⟩
    rw [sound.answer?_of_not_settled unsettled pending]
    exact if_pos (Nat.le_of_eq late.symm)

/-- **What a stop is told, and when.**  However often the provider is started, whatever happens to
its runs, and whoever asks it to stop, a stop that waits

* is told that the provider has stopped only if a run has come to its end or the provider is gone,
  and while the provider is outside, it is told so whenever this is the case;
* is told so during a run only if an earlier run has come to its end, and so never during the first;
* is told that the stop has failed exactly when the stop timeout is up, and no run has come to its
  end, and the provider is not gone.

The stop timeout is the one in effect, as `ProviderOpts.normalized` says. -/
theorem stop_answers_truthfully (backoff : Backoff Float) (q : JobQueue LibraryJob)
    (played : play (act client) moves (fresh opts backoff q) = some c) {stop : PendingStop}
    (pending : stop ∈ c.stops) :
    let timeout := (opts.normalized q.capacity).stopTimeout
    (c.answer? stop = some (.ok ()) → c.endings ≠ [] ∨ c.provider.dropped = true) ∧
    (c.provider.isInside = false → (c.endings ≠ [] ∨ c.provider.dropped = true) →
      c.answer? stop = some (.ok ())) ∧
    (c.answer? stop = some (.ok ()) → c.provider.isInside = true →
      c.endings ≠ [] ∧ 2 ≤ c.runs) ∧
    (∀ error, c.answer? stop = some (.error error) ↔ error = .stopFailed timeout ∧
      c.now = timeout.after stop.since ∧ c.endings = [] ∧ c.provider.dropped = false) := by
  have sound : c.Sound (opts.normalized q.capacity) :=
    play_keeps (fun _ _ _ (_ : True) held moved => held.act moved) (fun _ _ => trivial)
      (sound_fresh opts backoff q) played
  refine ⟨?_, ?_, ?_, ?_⟩
  · exact (sound.answer?_eq_ok pending).mp
  · intro _ settled
    exact (sound.answer?_eq_ok pending).mpr settled
  · intro done inside
    exact sound.ended_before ((sound.answer?_eq_ok pending).mp done) inside
  · intro error
    exact sound.answer?_eq_error pending

/-- A run ends because the source runs dry, and a stop is asked for and acknowledged. -/
def acknowledgedRun : List CareerMove :=
  [.start, .step none none, .wait 7, .stop, .step (some (.error (.endOfSource none))) none]

theorem acknowledgedRun_account :
    (play (act (.provider 0)) acknowledgedRun (fresh {} .standard (.make "downloads" 1))).map
      (fun c => (c.runs, c.stops.map c.answer?)) = some (1, [some (.ok ())]) := by
  decide +kernel

theorem stop_answers_truthfully_once :
    ∃ c, play (act (.provider 0)) acknowledgedRun (fresh {} .standard (.make "downloads" 1)) =
        some c ∧
      ∃ stop ∈ c.stops, c.answer? stop = some (.ok ()) ∧ c.provider.isInside = false := by
  obtain ⟨c, played, account⟩ := Option.map_eq_some_iff.mp acknowledgedRun_account
  injection account with once answers
  obtain ⟨stop, pending, told⟩ := List.mem_map.mp (answers ▸ List.mem_cons_self)
  refine ⟨c, played, stop, pending, told, ?_⟩
  obtain ⟨_, _, inside, _⟩ := stop_answers_truthfully .standard (.make "downloads" 1) played pending
  by_contra still
  have again : 2 ≤ c.runs := (inside told (Bool.not_eq_false _ ▸ still)).2
  rw [once] at again
  exact absurd again (by decide)

/-- A provider is asked to stop when it has been started for the second time. -/
def restarted : List CareerMove :=
  [.start, .step none none, .step (some (.error (.endOfSource none))) none, .start,
    .step none none, .stop]

theorem restarted_account :
    (play (act (.provider 0)) restarted (fresh {} .standard (.make "downloads" 1))).map (fun c =>
      (c.provider.phase, c.provider.dropped, c.stops.map c.answer?)) =
      some (.asking, false, [some (.ok ())]) := by
  decide +kernel

/-- **The answer of a stop may be about another run.**  A provider whose source ran dry is started
again, and is said to have stopped while its second run waits for the source. -/
theorem answers_for_another_run :
    ∃ c, play (act (.provider 0)) restarted (fresh {} .standard (.make "downloads" 1)) = some c ∧
      c.provider.phase = .asking ∧ c.provider.isInside = true ∧ c.provider.dropped = false ∧
      ∃ stop ∈ c.stops, c.answer? stop = some (.ok ()) := by
  obtain ⟨c, played, account⟩ := Option.map_eq_some_iff.mp restarted_account
  injection account with asks account
  injection account with kept answers
  have inside : c.provider.isInside = true := by
    rw [Provider.isInside, asks]
    rfl
  exact ⟨c, played, asks, inside, kept, List.mem_map.mp (answers ▸ List.mem_cons_self)⟩

end Career

end RepoCollector
