import RepoCollector.Proofs.Schedule.Leaving

/-! # Waiting alone

One client looks for a job and waits at the lanes, while others send jobs to them and close them.
It stands in line at every lane that may still give a job, and is called as soon as one of them
holds a job or every one is closed and drained (`RepoCollector.Lanes.Posted.calls`).  It is called
in vain only by a lane that drops out thereby (`RepoCollector.Lanes.Posted.remaining_lt`).

While it waits, what others do comes to the same as if it had left before
(`RepoCollector.Lanes.modify_without`).
-/

namespace RepoCollector

/-! ## What others do with a queue -/

/-- Something that a sender or the owner of a queue does with it. -/
inductive Deed where
  /-- A sender tries for the first time. -/
  | offer (sender : Client) (job : LibraryJob)
  /-- A sender that waits tries again. -/
  | retry (sender : Client) (job : LibraryJob)
  | withdraw (sender : Client)
  | close

def Deed.apply (q : JobQueue LibraryJob) : Deed → JobQueue LibraryJob
  | .offer sender job => (q.startSend sender job).1
  | .retry sender job => (q.resumeSend sender job).1
  | .withdraw sender => q.abandonSend sender
  | .close => q.close

namespace Semaphore

theorem due_subset_line (s : Semaphore) : s.due ⊆ s.line := by
  unfold due
  split
  · exact List.Subset.refl _
  · exact List.subset_append_left _ _

/-- A client stands in line alone, and has been granted a permit if there is one. -/
structure Posted (client : Client) (s : Semaphore) : Prop where
  alone : s.line = [client]
  served : s.closed = false → s.granted = [] → s.permits = 0

theorem Posted.release {client : Client} {s : Semaphore} (posted : s.Posted client) :
    s.release.Posted client := by
  refine ⟨s.line_release.trans posted.alone, fun opened none => ?_⟩
  have alone := posted.alone
  rw [closed_release] at opened
  unfold Semaphore.release at none
  rw [if_neg (Bool.eq_false_iff.mp opened)] at none
  split at none
  next nobody =>
    dsimp only at none
    rw [line, none, nobody] at alone
    cases alone
  · exact absurd none (List.append_ne_nil_of_right_ne_nil _ (List.cons_ne_nil _ _))

/-- A client that stands alone is called when the semaphore is closed or a permit was given. -/
theorem Posted.mem_due {client : Client} {s : Semaphore} (posted : s.Posted client)
    (called : s.closed = true ∨ s.supply ≠ 0) : client ∈ s.due := by
  have alone := posted.alone
  unfold due
  split
  · rw [line] at alone
    rw [alone]
    exact List.mem_singleton_self client
  next opened =>
    have opened := Bool.eq_false_iff.mpr opened
    cases given : s.granted with
    | nil =>
        have none := posted.served opened given
        rcases called with closed | some
        · exact absurd (opened.symm.trans closed) Bool.false_ne_true
        · exact absurd (by rw [supply, none, given]; rfl) some
    | cons first rest =>
        rw [line, given] at alone
        obtain ⟨rfl, _⟩ := List.cons.inj alone
        exact List.mem_cons_self

end Semaphore

namespace JobQueue

variable {client : Client} {q : JobQueue LibraryJob}

theorem Balanced.apply (balanced : q.Balanced) (deed : Deed) : (deed.apply q).Balanced := by
  cases deed with
  | offer sender job => exact (q.startSend_keeps sender job).balanced balanced
  | retry sender job => exact (q.resumeSend_keeps sender job).balanced balanced
  | withdraw sender => exact (q.abandonSend_keeps sender).balanced balanced
  | close => exact balanced.close

theorem watchers_apply (q : JobQueue LibraryJob) (deed : Deed) :
    (deed.apply q).watchers = q.watchers := by
  cases deed with
  | offer sender job => exact q.watchers_startSend sender job
  | retry sender job => exact q.watchers_resumeSend sender job
  | withdraw | close => rfl

/-- A job that is buffered stays where it is. -/
theorem items_apply (q : JobQueue LibraryJob) (deed : Deed) :
    ∃ more, (deed.apply q).items = q.items ++ more := by
  cases deed with
  | offer sender job => exact ⟨_, q.items_startSend sender job⟩
  | retry sender job => exact ⟨_, q.items_resumeSend sender job⟩
  | withdraw | close => exact ⟨[], (List.append_nil _).symm⟩

theorem isExhausted_apply (exhausted : q.isExhausted = true) (deed : Deed) :
    (deed.apply q).isExhausted = true := by
  rw [isExhausted, Bool.and_eq_true, List.isEmpty_iff] at exhausted ⊢
  obtain ⟨closed, empty⟩ := exhausted
  cases deed with
  | offer sender job =>
      have told := q.startSend_told sender job
      refine ⟨(q.startSend_keeps sender job).closed.trans closed, ?_⟩
      exact (q.items_startSend sender job).trans (by
        rw [empty, told.buffered_of_isClosed closed]
        rfl)
  | retry sender job =>
      have told := q.resumeSend_told sender job
      refine ⟨(q.resumeSend_keeps sender job).closed.trans closed, ?_⟩
      exact (q.items_resumeSend sender job).trans (by
        rw [empty, told.buffered_of_isClosed closed]
        rfl)
  | withdraw sender => exact ⟨(q.abandonSend_keeps sender).closed.trans closed, empty⟩
  | close => exact ⟨rfl, empty⟩

/-- A client that is alone in line may as well leave before the others go on. -/
theorem apply_abandonReady (alone : q.watchers.erase client = []) (deed : Deed) :
    deed.apply (q.abandonReady client) = (deed.apply q).abandonReady client := by
  cases deed with
  | offer sender job => exact congrArg Prod.fst (q.startSend_abandonReady client sender job)
  | retry sender job => exact congrArg Prod.fst (q.resumeSend_abandonReady client sender job)
  | withdraw sender => rfl
  | close => exact close_abandonReady alone

/-- A client waits at the queue, alone. -/
def Posted (client : Client) (q : JobQueue LibraryJob) : Prop :=
  q.available.Posted client

theorem Posted.watchers_eq (posted : q.Posted client) : q.watchers = [client] :=
  posted.alone

private theorem posted_finishSend (posted : q.Posted client) (slots : Semaphore) (job : LibraryJob)
    (permit : Permit) : (finishSend { q with slots } job permit).1.Posted client := by
  cases permit with
  | taken => exact Semaphore.Posted.release posted
  | notNow | refused => exact posted

theorem Posted.apply (posted : q.Posted client) (deed : Deed) : (deed.apply q).Posted client := by
  cases deed with
  | offer sender job =>
      unfold Deed.apply startSend
      dsimp only
      split
      · exact posted
      · exact posted_finishSend posted _ job _
  | retry sender job => exact posted_finishSend posted _ job _
  | withdraw sender => exact posted
  | close => exact ⟨posted.alone, Bool.noConfusion⟩

/-- A client that waits is called when the queue holds a job, and when it is closed. -/
theorem Posted.mem_due (posted : q.Posted client) (balanced : q.Balanced)
    (called : q.isClosed = true ∨ q.items ≠ []) : client ∈ q.available.due := by
  apply Semaphore.Posted.mem_due posted
  by_cases closed : q.isClosed = true
  · exact Or.inl (balanced.together.trans closed)
  · refine Or.inr fun none => closed (called.resolve_right fun some => some ?_)
    rw [balanced.jobs (Bool.eq_false_iff.mpr closed)] at none
    exact List.length_eq_zero_iff.mp none

/-- Nobody is called in vain, except to a queue that is closed. -/
theorem Balanced.of_due (balanced : q.Balanced) (called : client ∈ q.available.due) :
    q.isClosed = true ∨ q.items ≠ [] := by
  by_cases closed : q.isClosed = true
  · exact Or.inl closed
  · refine Or.inr fun empty => ?_
    have opened := Bool.eq_false_iff.mpr closed
    have none := balanced.jobs opened
    rw [size, empty, List.length_nil, Semaphore.supply, Nat.add_eq_zero_iff] at none
    rw [Semaphore.due, balanced.together.trans opened, if_neg Bool.false_ne_true,
      List.length_eq_zero_iff.mp none.2] at called
    exact List.not_mem_nil called

/-- A client that finds an open queue empty lines up, and is not called yet. -/
theorem startReady_of_empty (balanced : q.Balanced) (alone : q.watchers = [])
    (opened : q.isClosed = false) (empty : q.items = []) (client : Client) :
    (q.startReady client).2 = false ∧ (q.startReady client).1.Posted client ∧
      client ∉ (q.startReady client).1.available.due := by
  have supply := balanced.jobs opened
  rw [size, empty, List.length_nil] at supply
  have none := Nat.eq_zero_of_add_eq_zero_right supply
  have idle : q.available.granted = [] := (List.append_eq_nil_iff.mp alone).1
  have opened : q.available.closed = false := balanced.together.trans opened
  rcases startReady_cases alone client with ⟨_, closed | some⟩ | ⟨after, lined, _, rfl, _⟩
  · exact absurd (opened.symm.trans closed) Bool.false_ne_true
  · exact absurd none (Nat.ne_of_gt some)
  · rw [lined]
    refine ⟨rfl, ⟨?_, fun _ _ => none⟩, ?_⟩
    · simp only [Semaphore.line, idle, List.nil_append]
    · simp only [Semaphore.due, opened, idle, Bool.false_eq_true, ↓reduceIte]
      exact List.not_mem_nil

end JobQueue

/-! ## An attempt that waits -/

namespace Lanes

variable {client : Client} {lanes : Lanes}

/-- Some lane that is read holds a job. -/
def Holds (lanes : Lanes) : Prop :=
  ∃ lane ∈ lanes.reads.kinds, (lanes.queue lane).items ≠ []

/-- A look now gives a definite answer. -/
def Definite (lanes : Lanes) : Prop :=
  lanes.Holds ∨ lanes.IsExhausted

instance (lanes : Lanes) : Decidable lanes.Definite :=
  inferInstanceAs (Decidable
    ((∃ lane ∈ lanes.reads.kinds, (lanes.queue lane).items ≠ []) ∨
      ∀ lane ∈ lanes.reads.kinds, (lanes.queue lane).isExhausted = true))

/-- How many lanes may still give a job. -/
def remaining (lanes : Lanes) : Nat :=
  lanes.reads.kinds.countP fun lane => !(lanes.queue lane).isExhausted

/-- At how many lanes somebody waits. -/
def attended (lanes : Lanes) : Nat :=
  lanes.reads.kinds.countP fun lane => !(lanes.queue lane).watchers.isEmpty

/-- A client waits wherever it may still be given a job, and nobody else waits anywhere. -/
structure Posted (client : Client) (lanes : Lanes) : Prop where
  read : ∀ lane ∈ lanes.reads.kinds, (lanes.queue lane).Posted client ∨
    (lanes.queue lane).isExhausted = true ∧ (lanes.queue lane).watchers = []
  unread : ∀ lane, lane ∉ lanes.reads.kinds → (lanes.queue lane).watchers = []
  somewhere : ∃ lane ∈ lanes.reads.kinds, (lanes.queue lane).Posted client

theorem not_isExhausted_of_holds (holds : lanes.Holds) : ¬ lanes.IsExhausted := by
  obtain ⟨lane, read, some⟩ := holds
  intro exhausted
  have drained := exhausted lane read
  rw [JobQueue.isExhausted, Bool.and_eq_true, List.isEmpty_iff] at drained
  exact some drained.2

theorem Took.holds {lane : JobKind} {job : LibraryJob} {before after : Lanes}
    (took : Took lane job before after) : before.Holds :=
  ⟨lane, took.read, took.items ▸ List.cons_ne_nil _ _⟩

theorem SameJobs.holds {before after : Lanes} (same : before.SameJobs after)
    (holds : before.Holds) : after.Holds := by
  obtain ⟨lane, read, some⟩ := holds
  exact ⟨lane, same.reads.symm ▸ read, (same.queue lane).items.symm ▸ some⟩

/-- Where nobody waits, a look that finds nothing says that there is nothing yet. -/
theorem of_dispatch_empty (balanced : lanes.Balanced) (unattended : lanes.Unattended)
    (found : lanes.dispatch.2 = .empty) : ¬ lanes.Holds ∧ ¬ lanes.IsExhausted := by
  rw [dispatch_eq_offers balanced unattended, offers] at found
  split at found
  · cases found
  next none =>
    rw [List.findSome?_eq_none_iff] at none
    split at found
    · cases found
    next some =>
      refine ⟨fun holds => ?_, fun exhausted => some ?_⟩
      · obtain ⟨lane, read, job⟩ := holds
        have empty := none lane (mem_order.mpr read)
        rw [Option.map_eq_none_iff, List.head?_eq_none_iff] at empty
        exact job empty
      · exact List.all_eq_true.mpr exhausted

/-- **A client that waits is called** as soon as there is a definite answer. -/
theorem Posted.calls (posted : lanes.Posted client) (balanced : lanes.Balanced)
    (definite : lanes.Definite) : lanes.calls client = true := by
  refine List.any_eq_true.mpr ?_
  rcases definite with ⟨lane, read, some⟩ | exhausted
  · refine ⟨lane, read, decide_eq_true ?_⟩
    rcases posted.read lane read with here | ⟨drained, _⟩
    · exact here.mem_due (balanced lane) (Or.inr some)
    · rw [JobQueue.isExhausted, Bool.and_eq_true, List.isEmpty_iff] at drained
      exact absurd drained.2 some
  · obtain ⟨lane, read, here⟩ := posted.somewhere
    have drained := exhausted lane read
    rw [JobQueue.isExhausted, Bool.and_eq_true] at drained
    exact ⟨lane, read, decide_eq_true (here.mem_due (balanced lane) (Or.inl drained.1))⟩

theorem Posted.attended_pos (posted : lanes.Posted client) : 0 < lanes.attended := by
  obtain ⟨lane, read, here⟩ := posted.somewhere
  refine List.countP_pos_iff.mpr ⟨lane, read, ?_⟩
  rw [here.watchers_eq]
  rfl

/-- Until it is called, a client waits only at lanes that may still give a job. -/
theorem Posted.attended_le (posted : lanes.Posted client) (balanced : lanes.Balanced)
    (uncalled : lanes.calls client = false) : lanes.attended ≤ lanes.remaining := by
  refine List.countP_mono_left fun lane read attended => ?_
  rcases posted.read lane read with here | ⟨_, nobody⟩
  · refine Bool.not_eq_true' _ ▸ Bool.eq_false_iff.mpr fun exhausted => ?_
    rw [JobQueue.isExhausted, Bool.and_eq_true] at exhausted
    exact List.any_eq_false.mp uncalled lane read
      (decide_eq_true (here.mem_due (balanced lane) (Or.inl exhausted.1)))
  · rw [nobody] at attended
    cases attended

private theorem countP_lt_countP {p q : JobKind → Bool} {kinds : List JobKind} {kind : JobKind}
    (member : kind ∈ kinds) (weaker : ∀ other ∈ kinds, p other = true → q other = true)
    (fails : p kind = false) (passes : q kind = true) : kinds.countP p < kinds.countP q := by
  obtain ⟨front, back, rfl⟩ := List.append_of_mem member
  have before := List.countP_mono_left fun other here =>
    weaker other (List.mem_append_left _ here)
  have after := List.countP_mono_left fun other here =>
    weaker other (List.mem_append_right front (List.mem_cons_of_mem kind here))
  simp only [List.countP_append, List.countP_cons, fails, passes, Bool.false_eq_true, ↓reduceIte]
  omega

/-- **A call in vain** comes from a lane that is closed and drained, which drops out. -/
theorem Posted.remaining_lt (posted : lanes.Posted client) (balanced : lanes.Balanced)
    (called : lanes.calls client = true) (nothing : ¬ lanes.Holds) :
    lanes.remaining < lanes.attended := by
  have waits (lane : JobKind) (here : (lanes.queue lane).Posted client) :
      (!(lanes.queue lane).watchers.isEmpty) = true := by
    rw [here.watchers_eq]
    rfl
  -- No lane holds a job, so the lane that calls is closed, and it is drained as well.
  obtain ⟨lane, read, calls⟩ := List.any_eq_true.mp called
  have calls := of_decide_eq_true calls
  have empty : (lanes.queue lane).items = [] := by
    by_contra some
    exact nothing ⟨lane, read, some⟩
  have closed := ((balanced lane).of_due calls).resolve_right fun some => some empty
  refine countP_lt_countP read (fun other member remains => ?_) ?_ ?_
  · rcases posted.read other member with here | ⟨exhausted, _⟩
    · exact waits other here
    · rw [exhausted] at remains
      cases remains
  · rw [JobQueue.isExhausted, closed, empty]
    rfl
  · rcases posted.read lane read with here | ⟨_, nobody⟩
    · exact waits lane here
    · have waiting : client ∈ (lanes.queue lane).watchers := Semaphore.due_subset_line _ calls
      rw [nobody] at waiting
      exact absurd waiting List.not_mem_nil

theorem SameJobs.remaining {before after : Lanes} (same : before.SameJobs after) :
    after.remaining = before.remaining := by
  unfold Lanes.remaining
  simp only [same.reads, (same.queue _).isExhausted]

theorem Posted.unpark (posted : lanes.Posted client) :
    lanes.unpark client = lanes.without client ∧ (lanes.without client).Unattended := by
  refine ⟨unpark_eq_without fun lane unread => ?_, fun lane => ?_⟩
  · rw [posted.unread lane unread]
    exact List.not_mem_nil
  · rw [queue_without, JobQueue.watchers_abandonReady]
    by_cases read : lane ∈ lanes.reads.kinds
    · rcases posted.read lane read with here | ⟨_, nobody⟩
      · rw [here.watchers_eq, List.erase_cons_head]
      · rw [nobody]
        rfl
    · rw [posted.unread lane read]
      rfl

private theorem parkAt_spec (client : Client) {kinds : List JobKind} (once : kinds.Nodup)
    (balanced : lanes.Balanced) (unattended : ∀ lane ∈ kinds, (lanes.queue lane).watchers = [])
    (empty : ∀ lane ∈ kinds, (lanes.queue lane).items = []) :
    (lanes.parkAt client kinds).2 = false ∧ ∀ lane ∈ kinds,
      (lanes.queue lane).isExhausted = true ∧
          (lanes.parkAt client kinds).1.queue lane = lanes.queue lane ∨
        (lanes.queue lane).isExhausted = false ∧
          ((lanes.parkAt client kinds).1.queue lane).Posted client ∧
          client ∉ ((lanes.parkAt client kinds).1.queue lane).available.due := by
  induction kinds generalizing lanes with
  | nil => exact ⟨rfl, fun _ member => absurd member List.not_mem_nil⟩
  | cons kind kinds ih =>
      obtain ⟨fresh, once⟩ := List.nodup_cons.mp once
      have later (other : JobKind) (member : other ∈ kinds) := List.mem_cons_of_mem kind member
      unfold parkAt
      split
      next exhausted =>
        obtain ⟨none, lined⟩ := ih once balanced
          (fun other member => unattended other (later other member))
          fun other member => empty other (later other member)
        refine ⟨none, fun lane member => ?_⟩
        rcases List.mem_cons.mp member with rfl | member
        · exact Or.inl ⟨exhausted, queue_parkAt client fresh lanes⟩
        · exact lined lane member
      next remains =>
        have nothing := empty kind List.mem_cons_self
        have opened : (lanes.queue kind).isClosed = false := by
          simpa [JobQueue.isExhausted, nothing] using remains
        obtain ⟨waits, posted, uncalled⟩ := JobQueue.startReady_of_empty (balanced kind)
          (unattended kind List.mem_cons_self) opened nothing client
        -- To line up at this lane changes nothing at the lanes that follow.
        have elsewhere (other : JobKind) (member : other ∈ kinds) :
            (lanes.setQueue kind ((lanes.queue kind).startReady client).1).queue other =
              lanes.queue other :=
          queue_setQueue_of_ne lanes (ne_of_mem_of_not_mem member fresh) _
        have kept := ((lanes.queue kind).startReady_sameJobs client).keeps.balanced (balanced kind)
        obtain ⟨none, lined⟩ := ih once (balanced.setQueue kept)
          (fun other member => elsewhere other member ▸ unattended other (later other member))
          fun other member => elsewhere other member ▸ empty other (later other member)
        refine ⟨Bool.or_eq_false_iff.mpr ⟨waits, none⟩, fun lane member => ?_⟩
        rcases List.mem_cons.mp member with rfl | member
        · dsimp only
          rw [queue_parkAt client fresh, queue_setQueue_self]
          exact Or.inr ⟨Bool.eq_false_iff.mpr remains, posted, uncalled⟩
        · have same := lined lane member
          rw [elsewhere lane member] at same
          exact same

/-- **A client that finds nothing lines up** and is not called yet. -/
theorem parkAt_posted (client : Client) (balanced : lanes.Balanced) (unattended : lanes.Unattended)
    (nothing : ¬ lanes.Holds) (remains : ¬ lanes.IsExhausted) :
    (lanes.parkAt client lanes.reads.kinds).2 = false ∧
      (lanes.parkAt client lanes.reads.kinds).1.Posted client ∧
      (lanes.parkAt client lanes.reads.kinds).1.calls client = false := by
  have reads := (lanes.parkAt_sameRule client lanes.reads.kinds).reads
  have empty : ∀ lane ∈ lanes.reads.kinds, (lanes.queue lane).items = [] := by
    intro lane read
    by_contra some
    exact nothing ⟨lane, read, some⟩
  obtain ⟨none, lined⟩ := parkAt_spec client (kinds_nodup lanes.reads) balanced
    (fun lane _ => unattended lane) empty
  refine ⟨none, ⟨fun lane read => ?_, fun lane unread => ?_, ?_⟩, ?_⟩
  · rcases lined lane (reads ▸ read) with ⟨exhausted, same⟩ | ⟨_, posted, _⟩
    · rw [same]
      exact Or.inr ⟨exhausted, unattended lane⟩
    · exact Or.inl posted
  · rw [queue_parkAt client (reads ▸ unread)]
    exact unattended lane
  · by_contra nowhere
    refine remains fun lane read => ?_
    rcases lined lane read with ⟨exhausted, _⟩ | ⟨_, posted, _⟩
    · exact exhausted
    · exact absurd ⟨lane, reads.symm ▸ read, posted⟩ nowhere
  · refine List.any_eq_false.mpr fun lane read => ?_
    rw [reads] at read
    rw [decide_eq_true_eq]
    rcases lined lane read with ⟨_, same⟩ | ⟨_, _, uncalled⟩
    · rw [same]
      intro called
      have waits : client ∈ (lanes.queue lane).watchers := Semaphore.due_subset_line _ called
      rw [unattended lane] at waits
      exact List.not_mem_nil waits
    · exact uncalled

theorem reads_modify (lanes : Lanes) (lane : JobKind)
    (change : JobQueue LibraryJob → JobQueue LibraryJob) :
    (lanes.modify lane change).reads = lanes.reads :=
  lanes.reads_setQueue lane _

theorem queue_modify (lanes : Lanes) (lane : JobKind)
    (change : JobQueue LibraryJob → JobQueue LibraryJob) (other : JobKind) :
    (lanes.modify lane change).queue other =
      if other = lane then change (lanes.queue other) else lanes.queue other := by
  split
  next same =>
    subst same
    exact lanes.queue_setQueue_self other _
  next different => exact queue_setQueue_of_ne lanes different _

theorem watchers_modify (lanes : Lanes) (lane : JobKind)
    {change : JobQueue LibraryJob → JobQueue LibraryJob}
    (kept : ∀ q, (change q).watchers = q.watchers) (other : JobKind) :
    ((lanes.modify lane change).queue other).watchers = (lanes.queue other).watchers := by
  rw [queue_modify]
  split
  · exact kept _
  · rfl

/-- A lane keeps its jobs, and remains drained if it is, whatever others do. -/
theorem Holds.modify (holds : lanes.Holds) (lane : JobKind) (deed : Deed) :
    (lanes.modify lane deed.apply).Holds := by
  obtain ⟨other, read, some⟩ := holds
  refine ⟨other, (lanes.reads_modify lane _).symm ▸ read, ?_⟩
  rw [queue_modify]
  split
  · obtain ⟨more, items⟩ := (lanes.queue other).items_apply deed
    rw [items]
    exact List.append_ne_nil_of_left_ne_nil some more
  · exact some

theorem isExhausted_modify {other : JobKind} (exhausted : (lanes.queue other).isExhausted = true)
    (lane : JobKind) (deed : Deed) :
    ((lanes.modify lane deed.apply).queue other).isExhausted = true := by
  rw [queue_modify]
  split
  · exact JobQueue.isExhausted_apply exhausted deed
  · exact exhausted

theorem IsExhausted.modify (exhausted : lanes.IsExhausted) (lane : JobKind) (deed : Deed) :
    (lanes.modify lane deed.apply).IsExhausted := by
  intro other read
  rw [reads_modify] at read
  exact isExhausted_modify (exhausted other read) lane deed

theorem Definite.modify (definite : lanes.Definite) (lane : JobKind) (deed : Deed) :
    (lanes.modify lane deed.apply).Definite :=
  definite.imp (·.modify lane deed) (·.modify lane deed)

theorem attended_modify (lanes : Lanes) (lane : JobKind) (deed : Deed) :
    (lanes.modify lane deed.apply).attended = lanes.attended := by
  unfold attended
  simp only [reads_modify, watchers_modify lanes lane fun q => q.watchers_apply deed]

theorem remaining_modify_le (lanes : Lanes) (lane : JobKind) (deed : Deed) :
    (lanes.modify lane deed.apply).remaining ≤ lanes.remaining := by
  unfold remaining
  rw [reads_modify]
  refine List.countP_mono_left fun other _ remains => ?_
  rw [Bool.not_eq_true'] at remains ⊢
  exact Bool.eq_false_iff.mpr fun exhausted =>
    Bool.eq_false_iff.mp remains (isExhausted_modify exhausted lane deed)

/-- Others leave a client in its lines. -/
theorem Posted.modify (posted : lanes.Posted client) (lane : JobKind) (deed : Deed) :
    (lanes.modify lane deed.apply).Posted client := by
  have watchers := lanes.watchers_modify lane fun q => q.watchers_apply deed
  have kept (other : JobKind) (here : (lanes.queue other).Posted client) :
      ((lanes.modify lane deed.apply).queue other).Posted client := by
    rw [queue_modify]
    split
    · exact here.apply deed
    · exact here
  have reads := lanes.reads_modify lane deed.apply
  refine ⟨fun other read => ?_, fun other unread => ?_, ?_⟩
  · rcases posted.read other (reads ▸ read) with here | ⟨exhausted, nobody⟩
    · exact Or.inl (kept other here)
    · exact Or.inr ⟨isExhausted_modify exhausted lane deed, (watchers other).trans nobody⟩
  · exact (watchers other).trans (posted.unread other (reads ▸ unread))
  · obtain ⟨other, read, here⟩ := posted.somewhere
    exact ⟨other, reads.symm ▸ read, kept other here⟩

/-- To take a job calls nobody into a line. -/
theorem Unattended.take (unattended : lanes.Unattended) (lane : JobKind) :
    ((lanes.modify lane (·.tryRecv.1)).counted lane).Unattended := by
  intro other
  rw [queue_counted, watchers_modify lanes lane JobQueue.watchers_tryRecv]
  exact unattended other

/-- A client that is alone in line may as well leave before the others go on. -/
theorem modify_without (alone : (lanes.without client).Unattended) (lane : JobKind) (deed : Deed) :
    (lanes.modify lane deed.apply).without client =
      (lanes.without client).modify lane deed.apply := by
  have here := alone lane
  rw [queue_without, JobQueue.watchers_abandonReady] at here
  simp only [Lanes.modify, setQueue_without, queue_without, JobQueue.apply_abandonReady here]

private theorem eq_of_dispatchFrom {drained : Bool} {kinds : List JobKind} {lanes after : Lanes}
    {lane : JobKind} {job : LibraryJob} (balanced : lanes.Balanced)
    (found : dispatchFrom drained kinds lanes = (after, .job (job.withWork lane))) :
    after = (lanes.modify lane (·.tryRecv.1)).counted lane := by
  induction kinds generalizing drained with
  | nil => cases drained <;> cases found
  | cons kind kinds ih =>
      rcases (balanced kind).tryRecv_cases with ⟨taken, q, tried, _⟩ | ⟨tried, _⟩ | ⟨tried, _⟩
      · simp only [dispatchFrom, tried, Prod.mk.injEq, Dispatch.job.injEq] at found
        obtain ⟨rfl, same⟩ := found
        obtain rfl : kind = lane := Option.some.inj (congrArg LibraryJob.work same)
        rw [modify, tried]
      · simp only [dispatchFrom, tried, setQueue_queue] at found
        exact ih found
      · simp only [dispatchFrom, tried, setQueue_queue] at found
        exact ih found

/-- The job that a look finds is taken as a receiver takes it, and counted. -/
theorem dispatch_taken {lanes : Lanes} (balanced : lanes.Balanced) :
    (∃ lane job, lanes.dispatch =
        ((lanes.modify lane (·.tryRecv.1)).counted lane, .job (job.withWork lane)) ∧
      Took lane job lanes ((lanes.modify lane (·.tryRecv.1)).counted lane)) ∨
    lanes.dispatch = (lanes, .empty) ∨
    (lanes.dispatch = (lanes, .exhausted) ∧ lanes.IsExhausted) := by
  rcases dispatch_cases balanced with ⟨lane, job, q, found, took⟩ | other
  · have same := eq_of_dispatchFrom balanced found
    rw [same] at found took
    exact Or.inl ⟨lane, job, found, took⟩
  · exact Or.inr other

end Lanes

namespace Attempt

variable {attempt : Attempt} {lanes : Lanes}

/-- **A look of an attempt**, where nobody waits.  It takes the job at the head of a lane, or finds
that there is nothing more to come, or lines up. -/
theorem step_awake (awake : attempt.parked = false) (balanced : lanes.Balanced)
    (unattended : lanes.Unattended) (now : Instant) (client : Client) :
    (∃ lane job, Lanes.Took lane job lanes ((lanes.modify lane (·.tryRecv.1)).counted lane) ∧
      attempt.step now client lanes =
        some ((lanes.modify lane (·.tryRecv.1)).counted lane, .inr (.job (job.withWork lane)))) ∨
    (lanes.IsExhausted ∧ attempt.step now client lanes = some (lanes, .inr .exhausted)) ∨
    ¬ lanes.Holds ∧ ¬ lanes.IsExhausted ∧ ∃ after,
      attempt.step now client lanes = some (after, .inl { attempt with parked := true }) ∧
      after.Posted client ∧ after.calls client = false ∧ after.without client = lanes ∧
      lanes.SameJobs after := by
  simp only [step, awake, Bool.false_eq_true, ↓reduceIte]
  rcases Lanes.dispatch_taken balanced with ⟨lane, job, found, took⟩ | found | ⟨found, exhausted⟩
  · refine Or.inl ⟨lane, job, took, ?_⟩
    rw [found]
  · obtain ⟨nothing, remains⟩ :=
      Lanes.of_dispatch_empty balanced unattended (congrArg Prod.snd found)
    obtain ⟨waits, posted, uncalled⟩ :=
      Lanes.parkAt_posted client balanced unattended nothing remains
    have left : (lanes.parkAt client lanes.reads.kinds).1.without client = lanes.without client :=
      Lanes.parkAt_without (Lanes.kinds_nodup _) fun lane _ => unattended lane
    have same := lanes.parkAt_sameJobs client lanes.reads.kinds
    rw [unattended.without_eq] at left
    refine Or.inr (Or.inr ⟨nothing, remains, _, ?_, posted, uncalled, left, same⟩)
    simp only [found]
    generalize lanes.parkAt client lanes.reads.kinds = told at waits
    obtain ⟨parked, found⟩ := told
    cases waits
    rfl
  · refine Or.inr (Or.inl ⟨exhausted, ?_⟩)
    rw [found]

/-- A step of an attempt that waits. -/
theorem step_parked {client : Client} (parked : attempt.parked = true)
    (posted : lanes.Posted client) (now : Instant) :
    attempt.step now client lanes =
      if lanes.calls client then some (lanes.without client, .inl { attempt with parked := false })
      else if attempt.deadline ≤ now then some (lanes.without client, .inr .notReady)
      else none := by
  rw [step, if_pos parked, posted.unpark.1]

end Attempt

end RepoCollector
