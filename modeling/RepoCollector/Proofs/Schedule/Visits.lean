import RepoCollector.Proofs.Queue.Session
import RepoCollector.Proofs.Schedule.Leaving

/-! # Visits to the lanes

A visit is anything that a client may have to wait for at the lanes: a call on one of the queues, a
single attempt to find a job, or a request for the next job, which makes attempts until one
succeeds.

A step moves nobody in line but the visitor, which joins or leaves
(`RepoCollector.Visit.step_relined`).  A visitor that asks for jobs is in line at most where its
visit says so; when the visit is given up, the visitor leaves every line, and that is all
(`RepoCollector.Visit.abandon_eq_without`).  If nobody else asks for jobs, then the lanes without
the visitor stay as they are while it steps (`RepoCollector.Visit.step_without`).
-/

namespace RepoCollector

/-- What a client comes for. -/
inductive Intent where
  | call (lane : JobKind) (call : Call LibraryJob)
  | attempt
  | request

/-- A visit in progress. -/
inductive Visit where
  | call (lane : JobKind) (pending : OpenCall LibraryJob)
  | attempt (attempt : Attempt)
  | request (request : JobRequest Attempt)

namespace OpenCall

variable {α : Type}

def isSend (pending : OpenCall α) : Bool :=
  match pending.call with
  | .send _ _ => true
  | _ => false

/-- Whether the client has lined up for a job. -/
def awaitsJob : OpenCall α → Bool
  | ⟨.send _ _, _⟩ => false
  | ⟨_, parked⟩ => parked

end OpenCall

/-- Whether the client may be in line for a job of a lane. -/
def Attempt.awaits (reads : LaneChoice) (lane : JobKind) (attempt : Attempt) : Bool :=
  attempt.parked && lane ∈ reads.kinds

def JobRequest.awaits (reads : LaneChoice) (lane : JobKind) (request : JobRequest Attempt) : Bool :=
  match request.phase with
  | .attempting attempt => attempt.awaits reads lane
  | _ => false

namespace Intent

def isSend : Intent → Bool
  | .call _ (.send _ _) => true
  | _ => false

end Intent

namespace Visit

def start (now : Instant) (opts : SchedulerOpts) (lanes : Lanes) : Intent → Visit
  | .call lane asked => .call lane { call := asked }
  | .attempt => .attempt (.start now lanes)
  | .request => .request (.start opts)

/-- Whether the client asks for jobs. -/
def isConsumer : Visit → Bool
  | .call _ pending => !pending.isSend
  | _ => true

/-- Whether the client may be in line for a job of a lane. -/
def awaits (reads : LaneChoice) (lane : JobKind) : Visit → Bool
  | .call other pending => lane = other && pending.awaitsJob
  | .attempt trial => trial.awaits reads lane
  | .request asked => asked.awaits reads lane

/-- One step of a visit; it has ended if nothing is left of it. -/
def step (opts : SchedulerOpts) (stopped : Bool) (now : Instant) (client : Client) (draw : Float)
    (lanes : Lanes) : Visit → Option (Lanes × Option Visit)
  | .call lane pending =>
    (pending.step now client (lanes.queue lane)).map fun after =>
      (lanes.setQueue lane after.1, after.2.getLeft?.map (.call lane))
  | .attempt trial =>
    (trial.step now client lanes).map fun after => (after.1, after.2.getLeft?.map .attempt)
  | .request asked =>
    (asked.step Lanes.policy opts stopped now client draw lanes).map fun after =>
      (after.1, after.2.getLeft?.map .request)

/-- The visit is given up. -/
def abandon (client : Client) (lanes : Lanes) : Visit → Lanes
  | .call lane pending => lanes.modify lane (pending.abandon client)
  | .attempt trial => trial.abandon client lanes
  | .request asked => asked.abandon Lanes.policy client lanes

end Visit

/-! ## Who moves in line -/

namespace JobQueue

variable {α : Type} {client : Client} {before after : JobQueue α} {awaits : Bool}

/-- Nobody has moved in line but one client, which is in line only if it awaits a job. -/
def Relined (client : Client) (awaits : Bool) (before after : JobQueue α) : Prop :=
  ∃ stands : Bool, (stands = true → awaits = true) ∧
    after.watchers = before.watchers.erase client ++ if stands then [client] else []

theorem relined_of_left (awaits : Bool) (left : after.watchers = before.watchers.erase client) :
    before.Relined client awaits after :=
  ⟨false, Bool.noConfusion, left.trans (List.append_nil _).symm⟩

theorem relined_of_absent (awaits : Bool) (absent : client ∉ before.watchers)
    (same : after.watchers = before.watchers) : before.Relined client awaits after :=
  relined_of_left awaits (same.trans (List.erase_of_not_mem absent).symm)

theorem relined_of_joined {stands : Bool} (absent : client ∉ before.watchers)
    (awaiting : stands = true → awaits = true)
    (joined : after.watchers = before.watchers ++ if stands then [client] else []) :
    before.Relined client awaits after :=
  ⟨stands, awaiting, by rw [List.erase_of_not_mem absent, joined]⟩

theorem Relined.nodup (relined : before.Relined client awaits after)
    (once : before.watchers.Nodup) : after.watchers.Nodup := by
  obtain ⟨stands, _, line⟩ := relined
  rw [line]
  cases stands with
  | false => exact (List.append_nil _).symm ▸ once.erase client
  | true =>
      refine (once.erase client).append (List.nodup_singleton client) ?_
      apply List.disjoint_singleton.mpr
      exact fun member => ((once.mem_erase_iff).mp member).1 rfl

theorem Relined.mem {other : Client} (relined : before.Relined client awaits after)
    (once : before.watchers.Nodup) (member : other ∈ after.watchers) :
    other = client ∧ awaits = true ∨ other ≠ client ∧ other ∈ before.watchers := by
  obtain ⟨stands, awaiting, line⟩ := relined
  rw [line, List.mem_append] at member
  rcases member with stays | joins
  · exact Or.inr ((once.mem_erase_iff).mp stays)
  · cases stands with
    | false => exact (List.not_mem_nil joins).elim
    | true => exact Or.inl ⟨List.mem_singleton.mp joins, awaiting rfl⟩

end JobQueue

namespace OpenCall

variable {α : Type} {now : Instant} {client : Client} {pending : OpenCall α} {q after : JobQueue α}
  {outcome : OpenCall α ⊕ Reply α}

private theorem relined_of_startReady (absent : client ∉ q.watchers)
    (same : after.watchers = q.watchers) :
    q.Relined client (!(after.startReady client).2) (after.startReady client).1 := by
  refine JobQueue.relined_of_joined absent id ?_
  rw [after.watchers_startReady client, same]
  cases (after.startReady client).2 <;> rfl

private theorem relined_of_resumeReady (awaits : Bool) (found : (q.resumeReady client).2 = true) :
    q.Relined client awaits (q.resumeReady client).1 := by
  rw [JobQueue.resumeReady_of_found found]
  exact JobQueue.relined_of_left awaits (q.watchers_abandonReady client)

private theorem relined_of_first_step {call : Call α} (away : client ∉ q.watchers)
    (stepped : step now client ⟨call, false⟩ q = some (after, outcome)) :
    q.Relined client (outcome.getLeft?.any awaitsJob) after := by
  cases call with
  | send job deadline =>
      have same := q.watchers_startSend client job
      simp only [step] at stepped
      generalize q.startSend client job = told at stepped same
      obtain ⟨next, _ | _⟩ := told
      · cases stepped
        exact JobQueue.relined_of_absent _ away same
      · cases stepped
        exact JobQueue.relined_of_absent _ away same
  | recv =>
      have same := q.watchers_tryRecv
      simp only [step] at stepped
      generalize q.tryRecv = told at stepped same
      obtain ⟨next, _ | _ | _⟩ := told
      · cases stepped
        exact JobQueue.relined_of_absent _ away same
      · cases stepped
        exact relined_of_startReady away same
      · cases stepped
        exact JobQueue.relined_of_absent _ away same
  | ready =>
      have relined := relined_of_startReady away (rfl : q.watchers = _)
      simp only [step] at stepped
      generalize q.startReady client = told at stepped relined
      obtain ⟨next, _ | _⟩ := told
      · cases stepped
        exact relined
      · cases stepped
        exact relined

private theorem relined_of_later_step {call : Call α}
    (absent : awaitsJob ⟨call, true⟩ = false → client ∉ q.watchers)
    (stepped : step now client ⟨call, true⟩ q = some (after, outcome)) :
    q.Relined client (outcome.getLeft?.any awaitsJob) after := by
  cases call with
  | send job deadline =>
      have away := absent rfl
      have same := q.watchers_resumeSend client job
      simp only [step] at stepped
      generalize q.resumeSend client job = told at stepped same
      obtain ⟨next, _ | _⟩ := told
      · dsimp only at stepped
        split at stepped
        · cases stepped
          exact JobQueue.relined_of_absent _ away rfl
        · cases stepped
      · cases stepped
        exact JobQueue.relined_of_absent _ away same
  | recv =>
      have relined := @relined_of_resumeReady _ client q false
      simp only [step] at stepped
      generalize q.resumeReady client = told at stepped relined
      obtain ⟨next, _ | _⟩ := told
      · cases stepped
      · cases stepped
        exact relined rfl
  | ready =>
      have relined := @relined_of_resumeReady _ client q false
      simp only [step] at stepped
      generalize q.resumeReady client = told at stepped relined
      obtain ⟨next, _ | _⟩ := told
      · cases stepped
      · cases stepped
        exact relined rfl

/-- **A step of a call moves nobody but its client.** -/
theorem step_relined (absent : pending.awaitsJob = false → client ∉ q.watchers)
    (stepped : pending.step now client q = some (after, outcome)) :
    q.Relined client (outcome.getLeft?.any awaitsJob) after := by
  obtain ⟨call, _ | _⟩ := pending
  · refine relined_of_first_step ?_ stepped
    cases call <;> exact absent rfl
  · exact relined_of_later_step absent stepped

end OpenCall

namespace Lanes

variable {client : Client} {lanes : Lanes}

/-- A client lines up at some of the lanes that it is sent to, behind the others. -/
theorem watchers_parkAt_append (client : Client) {kinds : List JobKind} (once : kinds.Nodup)
    (lanes : Lanes) (lane : JobKind) :
    ∃ stands : Bool, (stands = true → lane ∈ kinds) ∧
      ((lanes.parkAt client kinds).1.queue lane).watchers =
        (lanes.queue lane).watchers ++ if stands then [client] else [] := by
  induction kinds generalizing lanes with
  | nil => exact ⟨false, Bool.noConfusion, (List.append_nil _).symm⟩
  | cons kind kinds ih =>
      obtain ⟨fresh, once⟩ := List.nodup_cons.mp once
      unfold parkAt
      split
      · obtain ⟨stands, within, line⟩ := ih once lanes
        exact ⟨stands, fun here => List.mem_cons_of_mem _ (within here), line⟩
      · by_cases same : lane = kind
        · subst same
          refine ⟨!((lanes.queue lane).startReady client).2, fun _ => List.mem_cons_self, ?_⟩
          dsimp only
          rw [queue_parkAt client fresh, queue_setQueue_self, JobQueue.watchers_startReady]
          cases ((lanes.queue lane).startReady client).2 <;> rfl
        · obtain ⟨stands, within, line⟩ :=
            ih once (lanes.setQueue kind ((lanes.queue kind).startReady client).1)
          refine ⟨stands, fun here => List.mem_cons_of_mem _ (within here), ?_⟩
          rw [queue_setQueue_of_ne lanes same] at line
          exact line

end Lanes

namespace Attempt

variable {now : Instant} {client : Client} {attempt : Attempt} {lanes after : Lanes}
  {outcome : Attempt ⊕ Scheduled LibraryJob}

/-- An attempt that is given up leaves every line. -/
theorem abandon_eq_without (absent : ∀ lane, attempt.awaits lanes.reads lane = false →
    client ∉ (lanes.queue lane).watchers) :
    attempt.abandon client lanes = lanes.without client := by
  unfold abandon
  split
  · exact Lanes.unpark_eq_without fun lane unread => absent lane (by simp [awaits, unread])
  next awake =>
    exact (Lanes.without_of_not_mem fun lane => absent lane (by simp [awaits, awake])).symm

/-- **A step of an attempt moves nobody but its client.** -/
theorem step_relined (balanced : lanes.Balanced)
    (absent : ∀ lane, attempt.awaits lanes.reads lane = false →
      client ∉ (lanes.queue lane).watchers)
    (stepped : attempt.step now client lanes = some (after, outcome)) (lane : JobKind) :
    (lanes.queue lane).Relined client (outcome.getLeft?.any (·.awaits lanes.reads lane))
      (after.queue lane) := by
  unfold step at stepped
  split at stepped
  · have left : lanes.unpark client = lanes.without client :=
      Lanes.unpark_eq_without fun lane unread => absent lane (by simp [awaits, unread])
    have gone : (lanes.queue lane).Relined client false ((lanes.unpark client).queue lane) := by
      rw [left, Lanes.queue_without]
      exact JobQueue.relined_of_left _ ((lanes.queue lane).watchers_abandonReady client)
    split at stepped
    · cases stepped
      exact gone
    · split at stepped
      · cases stepped
        exact gone
      · cases stepped
  next awake =>
    have away (lane : JobKind) : client ∉ (lanes.queue lane).watchers :=
      absent lane (by simp [awaits, awake])
    have still := lanes.watchers_dispatchFrom true lanes.order lane
    rw [← Lanes.dispatch] at still
    rcases Lanes.dispatch_cases balanced with ⟨kind, job, q, found, took⟩ | found | ⟨found, _⟩
    · simp only [found] at stepped still
      cases stepped
      exact JobQueue.relined_of_absent _ (away lane) still
    · simp only [found] at stepped
      have line := lanes.watchers_parkAt_append client (Lanes.kinds_nodup lanes.reads)
      have left : (lanes.parkAt client lanes.reads.kinds).1.unpark client = _ :=
        Lanes.unpark_parkAt fun lane _ => away lane
      generalize lanes.parkAt client lanes.reads.kinds = told at stepped line left
      obtain ⟨parked, _ | _⟩ := told
      · cases stepped
        obtain ⟨stands, within, joined⟩ := line lane
        refine JobQueue.relined_of_joined (away lane) (fun here => ?_) joined
        simp [awaits, within here]
      · cases stepped
        obtain ⟨stands, _, joined⟩ := line lane
        refine JobQueue.relined_of_absent _ (away lane) ?_
        rw [left, Lanes.queue_without, JobQueue.watchers_abandonReady, joined,
          List.erase_append_right _ (away lane)]
        cases stands
        · exact List.append_nil _
        · rw [if_pos rfl, List.erase_cons_head, List.append_nil]
    · simp only [found] at stepped
      cases stepped
      exact JobQueue.relined_of_absent _ (away lane) rfl

end Attempt

namespace JobRequest

variable {opts : SchedulerOpts} {stopped : Bool} {now : Instant} {client : Client} {draw : Float}
  {request : JobRequest Attempt} {lanes after : Lanes}
  {outcome : JobRequest Attempt ⊕ Option LibraryJob}

theorem abandon_eq_without (absent : ∀ lane, request.awaits lanes.reads lane = false →
    client ∉ (lanes.queue lane).watchers) :
    request.abandon Lanes.policy client lanes = lanes.without client := by
  obtain ⟨idle, phase⟩ := request
  cases phase with
  | attempting attempt => exact Attempt.abandon_eq_without absent
  | asking | idling => exact (Lanes.without_of_not_mem fun lane => absent lane rfl).symm

/-- **A step of a request moves nobody but its client.** -/
theorem step_relined (balanced : lanes.Balanced)
    (absent : ∀ lane, request.awaits lanes.reads lane = false →
      client ∉ (lanes.queue lane).watchers)
    (stepped : request.step Lanes.policy opts stopped now client draw lanes =
      some (after, outcome)) (lane : JobKind) :
    (lanes.queue lane).Relined client (outcome.getLeft?.any (·.awaits lanes.reads lane))
      (after.queue lane) := by
  obtain ⟨idle, phase⟩ := request
  cases phase with
  | asking =>
      simp only [step] at stepped
      split at stepped
      · cases stepped
        exact JobQueue.relined_of_absent _ (absent lane rfl) rfl
      · cases stepped
        exact JobQueue.relined_of_absent _ (absent lane rfl) rfl
  | idling wakeAt =>
      simp only [step] at stepped
      split at stepped
      · cases stepped
        exact JobQueue.relined_of_absent _ (absent lane rfl) rfl
      · split at stepped
        · cases stepped
          exact JobQueue.relined_of_absent _ (absent lane rfl) rfl
        · cases stepped
  | attempting attempt =>
      simp only [step] at stepped
      split at stepped
      · cases stepped
        change JobQueue.Relined _ _ _ ((attempt.abandon client lanes).queue lane)
        rw [Attempt.abandon_eq_without absent, Lanes.queue_without]
        exact JobQueue.relined_of_left _ ((lanes.queue lane).watchers_abandonReady client)
      · cases tried : Lanes.policy.step now client attempt lanes with
        | none =>
            rw [tried] at stepped
            cases stepped
        | some found =>
            obtain ⟨next, answer⟩ := found
            have relined := Attempt.step_relined balanced absent tried lane
            rw [tried] at stepped
            rcases answer with later | _ | _ | _
            · cases stepped
              exact relined
            · cases stepped
              exact relined
            · dsimp only at stepped
              split at stepped
              · cases stepped
                exact relined
              · cases stepped
                exact relined
            · cases stepped
              exact relined

end JobRequest

namespace Visit

variable {opts : SchedulerOpts} {stopped : Bool} {now : Instant} {client : Client} {draw : Float}
  {visit : Visit} {lanes after : Lanes} {next : Option Visit}

/-- **A step of a visit moves nobody but the visitor.** -/
theorem step_relined (balanced : lanes.Balanced)
    (absent : ∀ lane, visit.awaits lanes.reads lane = false → client ∉ (lanes.queue lane).watchers)
    (stepped : visit.step opts stopped now client draw lanes = some (after, next))
    (lane : JobKind) : (lanes.queue lane).Relined client (next.any (·.awaits lanes.reads lane))
      (after.queue lane) := by
  cases visit with
  | call other pending =>
      obtain ⟨⟨q, outcome⟩, went, same⟩ := Option.map_eq_some_iff.mp stepped
      cases same
      rw [Option.any_map]
      by_cases here : lane = other
      · subst here
        have relined :=
          OpenCall.step_relined (fun quiet => absent lane (by simp [awaits, quiet])) went
        rw [Lanes.queue_setQueue_self]
        simpa [Function.comp_def, awaits] using relined
      · rw [Lanes.queue_setQueue_of_ne lanes here]
        exact JobQueue.relined_of_absent _ (absent lane (by simp [awaits, here])) rfl
  | attempt trial =>
      obtain ⟨⟨rest, outcome⟩, went, same⟩ := Option.map_eq_some_iff.mp stepped
      cases same
      rw [Option.any_map]
      exact Attempt.step_relined balanced absent went lane
  | request asked =>
      obtain ⟨⟨rest, outcome⟩, went, same⟩ := Option.map_eq_some_iff.mp stepped
      cases same
      rw [Option.any_map]
      exact JobRequest.step_relined balanced absent went lane

/-- A step keeps the books of the lanes, and the lanes that are read. -/
theorem step_keeps (balanced : lanes.Balanced)
    (stepped : visit.step opts stopped now client draw lanes = some (after, next)) :
    after.Balanced ∧ after.reads = lanes.reads := by
  cases visit with
  | call other pending =>
      obtain ⟨⟨q, outcome⟩, went, same⟩ := Option.map_eq_some_iff.mp stepped
      cases same
      have keeps := (OpenCall.step_effect (balanced other) went).keeps
      exact ⟨balanced.setQueue (keeps.balanced (balanced other)), lanes.reads_setQueue other q⟩
  | attempt trial =>
      obtain ⟨⟨rest, outcome⟩, went, same⟩ := Option.map_eq_some_iff.mp stepped
      cases same
      rcases Attempt.step_cases balanced went with ⟨_, _, _, took⟩ | ⟨same, _⟩
      · exact ⟨took.balanced balanced, took.reads⟩
      · exact ⟨same.balanced balanced, same.reads⟩
  | request asked =>
      obtain ⟨⟨rest, outcome⟩, went, same⟩ := Option.map_eq_some_iff.mp stepped
      cases same
      rcases JobRequest.step_cases balanced went with ⟨_, _, _, took⟩ | ⟨same, _⟩
      · exact ⟨took.balanced balanced, took.reads⟩
      · exact ⟨same.balanced balanced, same.reads⟩

/-- **A visitor that asks for jobs and gives up leaves every line**, and that is all. -/
theorem abandon_eq_without (consumer : visit.isConsumer = true)
    (absent : ∀ lane, visit.awaits lanes.reads lane = false →
      client ∉ (lanes.queue lane).watchers) :
    visit.abandon client lanes = lanes.without client := by
  cases visit with
  | call lane pending =>
      have elsewhere : ∀ other, other ≠ lane → client ∉ (lanes.queue other).watchers :=
        fun other different => absent other (by simp [awaits, different])
      have left : (lanes.queue lane).abandonReady client =
          pending.abandon client (lanes.queue lane) := by
        obtain ⟨call, _ | _⟩ := pending
        · have away := absent lane (by cases call <;> simp [awaits, OpenCall.awaitsJob])
          exact JobQueue.abandonReady_of_not_mem away
        · cases call with
          | send job deadline => cases consumer
          | recv | ready => rfl
      rw [abandon, Lanes.modify, ← left]
      exact Lanes.setQueue_abandonReady elsewhere
  | attempt trial => exact Attempt.abandon_eq_without absent
  | request asked => exact JobRequest.abandon_eq_without absent

/-- Giving up moves nobody in line but the visitor. -/
theorem abandon_relined
    (absent : ∀ lane, visit.awaits lanes.reads lane = false → client ∉ (lanes.queue lane).watchers)
    (lane : JobKind) :
    (lanes.queue lane).Relined client false ((visit.abandon client lanes).queue lane) := by
  cases consumer : visit.isConsumer with
  | true =>
      rw [abandon_eq_without consumer absent, Lanes.queue_without]
      exact JobQueue.relined_of_left _ ((lanes.queue lane).watchers_abandonReady client)
  | false =>
      cases visit with
      | call other pending =>
          obtain ⟨call, parked⟩ := pending
          cases call with
          | send job deadline =>
              have same : ((OpenCall.mk (.send job deadline) parked).abandon client
                  (lanes.queue other)).watchers = (lanes.queue other).watchers := by
                cases parked <;> rfl
              have away : client ∉ (lanes.queue lane).watchers :=
                absent lane (by simp [awaits, OpenCall.awaitsJob])
              refine JobQueue.relined_of_absent _ away ?_
              by_cases here : lane = other
              · subst here
                rw [abandon, Lanes.modify, Lanes.queue_setQueue_self, same]
              · rw [abandon, Lanes.modify, Lanes.queue_setQueue_of_ne lanes here]
          | recv | ready => cases consumer
      | attempt | request => cases consumer

theorem abandon_keeps (balanced : lanes.Balanced) (client : Client) (visit : Visit) :
    (visit.abandon client lanes).Balanced ∧ (visit.abandon client lanes).reads = lanes.reads := by
  cases visit with
  | call lane pending =>
      have keeps := (pending.abandon_effect client (lanes.queue lane)).1
      exact ⟨balanced.setQueue (keeps.balanced (balanced lane)), lanes.reads_setQueue lane _⟩
  | attempt trial =>
      have same := trial.abandon_sameJobs client lanes
      exact ⟨same.balanced balanced, same.reads⟩
  | request asked =>
      have same := asked.abandon_sameJobs client lanes
      exact ⟨same.balanced balanced, same.reads⟩

end Visit

/-! ## The lanes without the visitor -/

namespace JobQueue

variable {α : Type} {q : JobQueue α} {client : Client}

/-- If nobody else waits, a client that does not wait either is nowhere in line. -/
theorem watchers_eq_nil (alone : (q.abandonReady client).watchers = [])
    (absent : client ∉ q.watchers) : q.watchers = [] := by
  rw [watchers_abandonReady, List.erase_of_not_mem absent] at alone
  exact alone

theorem abandonReady_abandonReady (once : q.watchers.Nodup) :
    (q.abandonReady client).abandonReady client = q.abandonReady client := by
  refine abandonReady_of_not_mem fun member => ?_
  rw [watchers_abandonReady, once.mem_erase_iff] at member
  exact member.1 rfl

private theorem startReady_abandonReady (alone : q.watchers = []) (client : Client) :
    (q.startReady client).1.abandonReady client = q.abandonReady client := by
  rcases startReady_cases alone client with ⟨found, _⟩ | ⟨after, lined, left, _⟩
  · rw [found]
  · rw [lined]
    exact left.trans (abandonReady_of_not_mem (alone ▸ List.not_mem_nil)).symm

end JobQueue

namespace OpenCall

variable {α : Type} {now : Instant} {client : Client} {pending later : OpenCall α}
  {q after : JobQueue α}

/-- A receiver that goes on has only moved in line. -/
theorem step_abandonReady (receiver : pending.isSend = false) (balanced : q.Balanced)
    (once : q.watchers.Nodup) (alone : (q.abandonReady client).watchers = [])
    (absent : pending.awaitsJob = false → client ∉ q.watchers)
    (stepped : pending.step now client q = some (after, .inl later)) :
    after.abandonReady client = q.abandonReady client := by
  obtain ⟨call, _ | _⟩ := pending
  · have lone : q.watchers = [] :=
      JobQueue.watchers_eq_nil alone (absent (by cases call <;> rfl))
    have lined := JobQueue.startReady_abandonReady lone client
    cases call with
    | send job deadline => cases receiver
    | recv =>
        rcases balanced.tryRecv_cases with ⟨job, next, tried, _⟩ | ⟨tried, _⟩ | ⟨tried, _⟩ <;>
          simp only [step, tried] at stepped <;> cases stepped
        exact lined
    | ready =>
        simp only [step] at stepped
        generalize q.startReady client = told at stepped lined
        obtain ⟨next, _ | _⟩ := told
        · cases stepped
          exact lined
        · cases stepped
  · have left := @JobQueue.resumeReady_of_found _ q client
    cases call with
    | send job deadline => cases receiver
    | recv =>
        simp only [step] at stepped
        generalize q.resumeReady client = told at stepped left
        obtain ⟨next, _ | _⟩ := told
        · cases stepped
        · cases stepped
          rw [show after = q.abandonReady client from left rfl]
          exact JobQueue.abandonReady_abandonReady once
    | ready =>
        simp only [step] at stepped
        generalize q.resumeReady client = told at stepped
        obtain ⟨next, _ | _⟩ := told <;> cases stepped

/-- A sender does the same whether or not another client is in line for a job. -/
theorem step_of_abandonReady {sender : Client} (sends : pending.isSend = true) :
    pending.step now sender (q.abandonReady client) =
      (pending.step now sender q).map fun after => (after.1.abandonReady client, after.2) := by
  obtain ⟨call, _ | _⟩ := pending
  · cases call with
    | send job deadline =>
        simp only [step, JobQueue.startSend_abandonReady]
        obtain ⟨next, _ | _⟩ := q.startSend sender job <;> rfl
    | recv | ready => cases sends
  · cases call with
    | send job deadline =>
        simp only [step, JobQueue.resumeSend_abandonReady]
        obtain ⟨next, _ | _⟩ := q.resumeSend sender job
        · dsimp only
          split <;> rfl
        · rfl
    | recv | ready => cases sends

end OpenCall

namespace Attempt

variable {now : Instant} {client : Client} {attempt : Attempt} {lanes after : Lanes}
  {outcome : Attempt ⊕ Scheduled LibraryJob}

/-- An attempt that finds no job has only moved in line. -/
theorem step_without (balanced : lanes.Balanced)
    (once : ∀ lane, (lanes.queue lane).watchers.Nodup) (alone : (lanes.without client).Unattended)
    (absent : ∀ lane, attempt.awaits lanes.reads lane = false →
      client ∉ (lanes.queue lane).watchers)
    (stepped : attempt.step now client lanes = some (after, outcome))
    (nothing : ∀ job, outcome ≠ .inr (.job job)) :
    after.without client = lanes.without client := by
  unfold step at stepped
  split at stepped
  · have left : lanes.unpark client = lanes.without client :=
      Lanes.unpark_eq_without fun lane unread => absent lane (by simp [awaits, unread])
    rw [left] at stepped
    split at stepped
    · cases stepped
      exact Lanes.without_without once
    · split at stepped
      · cases stepped
        exact Lanes.without_without once
      · cases stepped
  next awake =>
    have lone : lanes.Unattended := fun lane => by
      have here := alone lane
      rw [Lanes.queue_without] at here
      exact JobQueue.watchers_eq_nil here (absent lane (by simp [awaits, awake]))
    rcases Lanes.dispatch_cases balanced with ⟨kind, job, q, found, took⟩ | found | ⟨found, _⟩
    · simp only [found] at stepped
      cases stepped
      exact absurd rfl (nothing _)
    · simp only [found] at stepped
      have lined : (lanes.parkAt client lanes.reads.kinds).1.without client =
          lanes.without client :=
        Lanes.parkAt_without (Lanes.kinds_nodup _) fun lane _ => lone lane
      have left : (lanes.parkAt client lanes.reads.kinds).1.unpark client = _ :=
        Lanes.unpark_parkAt fun lane _ => lone lane ▸ List.not_mem_nil
      generalize lanes.parkAt client lanes.reads.kinds = told at stepped lined left
      obtain ⟨parked, _ | _⟩ := told
      · cases stepped
        exact lined
      · cases stepped
        rw [left, lined]
        exact Lanes.without_without once
    · simp only [found] at stepped
      cases stepped
      rfl

end Attempt

namespace JobRequest

variable {opts : SchedulerOpts} {stopped : Bool} {now : Instant} {client : Client} {draw : Float}
  {request later : JobRequest Attempt} {lanes after : Lanes}

/-- A request that goes on has only moved in line. -/
theorem step_without (balanced : lanes.Balanced)
    (once : ∀ lane, (lanes.queue lane).watchers.Nodup) (alone : (lanes.without client).Unattended)
    (absent : ∀ lane, request.awaits lanes.reads lane = false →
      client ∉ (lanes.queue lane).watchers)
    (stepped : request.step Lanes.policy opts stopped now client draw lanes =
      some (after, .inl later)) :
    after.without client = lanes.without client := by
  obtain ⟨idle, phase⟩ := request
  cases phase with
  | asking =>
      simp only [step] at stepped
      split at stepped <;> cases stepped
      rfl
  | idling wakeAt =>
      simp only [step] at stepped
      split at stepped
      · cases stepped
      · split at stepped <;> cases stepped
        rfl
  | attempting attempt =>
      simp only [step] at stepped
      split at stepped
      · cases stepped
      · cases tried : Lanes.policy.step now client attempt lanes with
        | none =>
            rw [tried] at stepped
            cases stepped
        | some found =>
            obtain ⟨next, answer⟩ := found
            have kept := Attempt.step_without balanced once alone absent tried
            rw [tried] at stepped
            rcases answer with going | _ | _ | _
            · cases stepped
              exact kept fun _ => Sum.inl_ne_inr
            · cases stepped
            · dsimp only at stepped
              split at stepped <;> cases stepped
              exact kept fun _ same => by cases same
            · cases stepped

end JobRequest

namespace Visit

variable {opts : SchedulerOpts} {stopped : Bool} {now : Instant} {client : Client} {draw : Float}
  {visit : Visit} {lanes after : Lanes}

/-- **The lanes without the visitor stay as they are** while it goes on, if nobody else waits. -/
theorem step_without {later : Visit} (consumer : visit.isConsumer = true)
    (balanced : lanes.Balanced) (once : ∀ lane, (lanes.queue lane).watchers.Nodup)
    (alone : (lanes.without client).Unattended)
    (absent : ∀ lane, visit.awaits lanes.reads lane = false → client ∉ (lanes.queue lane).watchers)
    (stepped : visit.step opts stopped now client draw lanes = some (after, some later)) :
    after.without client = lanes.without client := by
  cases visit with
  | call lane pending =>
      obtain ⟨⟨q, going | _⟩, went, same⟩ := Option.map_eq_some_iff.mp stepped
      · cases same
        have here := alone lane
        rw [Lanes.queue_without] at here
        have kept := OpenCall.step_abandonReady (Bool.not_eq_true' _ ▸ consumer) (balanced lane)
          (once lane) here (fun quiet => absent lane (by simp [awaits, quiet])) went
        rw [Lanes.setQueue_without, kept, ← Lanes.queue_without, Lanes.setQueue_queue]
      · cases same
  | attempt trial =>
      obtain ⟨⟨rest, going | _⟩, went, same⟩ := Option.map_eq_some_iff.mp stepped
      · cases same
        exact Attempt.step_without balanced once alone absent went fun _ => Sum.inl_ne_inr
      · cases same
  | request asked =>
      obtain ⟨⟨rest, going | _⟩, went, same⟩ := Option.map_eq_some_iff.mp stepped
      · cases same
        exact JobRequest.step_without balanced once alone absent went
      · cases same

theorem isConsumer_of_step {next : Visit} (balanced : lanes.Balanced)
    (stepped : visit.step opts stopped now client draw lanes = some (after, some next)) :
    next.isConsumer = visit.isConsumer := by
  cases visit with
  | call lane pending =>
      obtain ⟨⟨q, going | _⟩, went, same⟩ := Option.map_eq_some_iff.mp stepped
      · cases same
        have call := (OpenCall.step_effect (balanced lane) went).call going rfl
        simp only [isConsumer, OpenCall.isSend, call]
      · cases same
  | attempt trial =>
      obtain ⟨⟨rest, going | _⟩, went, same⟩ := Option.map_eq_some_iff.mp stepped <;> cases same
      rfl
  | request asked =>
      obtain ⟨⟨rest, going | _⟩, went, same⟩ := Option.map_eq_some_iff.mp stepped <;> cases same
      rfl

/-- A sender does the same whether or not another client is in line for jobs. -/
theorem step_of_without {sender : Client} (sends : visit.isConsumer = false) :
    visit.step opts stopped now sender draw (lanes.without client) =
      (visit.step opts stopped now sender draw lanes).map fun after =>
        (after.1.without client, after.2) := by
  cases visit with
  | call lane pending =>
      have sends : pending.isSend = true := (Bool.not_eq_false' _).mp sends
      simp only [step, Lanes.queue_without, OpenCall.step_of_abandonReady sends, Option.map_map]
      refine congrArg (Option.map · _) (funext fun after => ?_)
      simp only [Function.comp_apply, Lanes.setQueue_without]
  | attempt | request => cases sends

theorem abandon_of_without {sender : Client} (sends : visit.isConsumer = false) :
    visit.abandon sender (lanes.without client) = (visit.abandon sender lanes).without client := by
  cases visit with
  | call lane pending =>
      have sends : pending.isSend = true := (Bool.not_eq_false' _).mp sends
      have same : pending.abandon sender ((lanes.queue lane).abandonReady client) =
          (pending.abandon sender (lanes.queue lane)).abandonReady client := by
        obtain ⟨call, _ | _⟩ := pending
        · rfl
        · cases call with
          | send job deadline => rfl
          | recv | ready => cases sends
      simp only [abandon, Lanes.modify, Lanes.setQueue_without, Lanes.queue_without, same]
  | attempt | request => cases sends

end Visit

end RepoCollector
