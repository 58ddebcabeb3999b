import Mathlib.Data.List.Nodup
import Mathlib.Logic.Function.Basic
import RepoCollector.Proofs.Play
import RepoCollector.Proofs.Queue.Accounts

/-! # Sessions of a queue

A session is everything that any number of clients do with one queue, in any order: they begin
calls, take them a step further, give them up, receive without waiting, and close the queue.  A
session keeps how every call ended.

A queue is a bounded buffer that loses nothing, keeps the order and makes nothing up
(`RepoCollector.Session.conserves_jobs`): the jobs received so far, followed by those buffered, are
the jobs whose senders were told so, in the order in which they were put there.  The slots are
accounted for as well: while the queue is open they are free, on their way to a sender that waits,
or taken.
-/

namespace RepoCollector

/-- How something that was asked of a queue ended. -/
inductive Ended (α : Type) where
  | call (client : Client) (call : Call α) (reply : Reply α)
  /-- An answer to a receiver that does not wait. -/
  | tried (answer : TryRecv α)

namespace Ended

variable {α : Type}

/-- The job whose sender was told that it was sent. -/
def accepted : Ended α → List α
  | call _ (.send job _) .sent => [job]
  | _ => []

/-- The job that was handed out. -/
def received : Ended α → List α
  | call _ _ (.received job) => [job]
  | call _ _ _ => []
  | tried answer => answer.jobs

end Ended

/-- A queue, the calls in progress and how the other calls ended. -/
structure Session (α : Type) where
  queue : JobQueue α
  calls : Client → Option (OpenCall α) := fun _ => none
  /-- The first that ended comes first. -/
  ended : List (Ended α) := []

/-- What can happen to a queue. -/
inductive SessionMove (α : Type) where
  /-- A client that has no call in progress begins one. -/
  | begin (client : Client) (call : Call α)
  | step (now : Instant) (client : Client)
  | abandon (client : Client)
  | tryRecv
  | close

namespace OpenCall

variable {α : Type}

/-- Whether the client has lined up for a slot. -/
def awaitsSlot : OpenCall α → Bool
  | ⟨.send _ _, parked⟩ => parked
  | _ => false

def record (client : Client) (call : Call α) : OpenCall α ⊕ Reply α → List (Ended α)
  | .inl _ => []
  | .inr reply => [.call client call reply]

end OpenCall

namespace Session

variable {α : Type}

def make (name : String) (capacity : Nat) : Session α :=
  { queue := .make name capacity }

/-- The jobs that were put into the queue, as their senders were told. -/
def accepted (s : Session α) : List α := s.ended.flatMap Ended.accepted

/-- The jobs that were handed out. -/
def received (s : Session α) : List α := s.ended.flatMap Ended.received

def advance (s : Session α) (client : Client) (pending : OpenCall α) (queue : JobQueue α)
    (outcome : OpenCall α ⊕ Reply α) : Session α :=
  { queue
    calls := Function.update s.calls client outcome.getLeft?
    ended := s.ended ++ OpenCall.record client pending.call outcome }

/-- Makes a move, if it is possible. -/
def act (move : SessionMove α) (s : Session α) : Option (Session α) :=
  match move with
  | .begin client call =>
    match s.calls client with
    | none => some { s with calls := Function.update s.calls client (some { call }) }
    | some _ => none
  | .step now client =>
    match s.calls client with
    | none => none
    | some pending => (pending.step now client s.queue).map fun after =>
        s.advance client pending after.1 after.2
  | .abandon client =>
    match s.calls client with
    | none => none
    | some pending => some { s with
        queue := pending.abandon client s.queue, calls := Function.update s.calls client none }
  | .tryRecv =>
    some { s with queue := s.queue.tryRecv.1, ended := s.ended ++ [.tried s.queue.tryRecv.2] }
  | .close => some { s with queue := s.queue.close }

end Session

/-! ## Steps of calls -/

namespace JobQueue

variable {α : Type}

@[simp]
theorem slots_finishSend (q : JobQueue α) (job : α) (permit : Permit) :
    (q.finishSend job permit).1.slots = q.slots := by
  cases permit <;> rfl

theorem isNone_finishSend (q : JobQueue α) (job : α) (permit : Permit) :
    (q.finishSend job permit).2 = none ↔ permit = .notNow := by
  cases permit <;> simp only [finishSend, reduceCtorEq]

/-- A sender lines up for a slot only when it has to wait, and then at the end. -/
theorem line_startSend (q : JobQueue α) (client : Client) (job : α) :
    (q.startSend client job).1.slots.line =
      q.slots.line ++ if (q.startSend client job).2 = none then [client] else [] := by
  unfold startSend
  split
  · simp only [reduceCtorEq, ↓reduceIte, List.append_nil]
  · simp only [slots_finishSend, isNone_finishSend]
    exact q.slots.line_acquire client

theorem line_resumeSend (q : JobQueue α) (client : Client) (job : α) :
    (q.resumeSend client job).1.slots.line =
      if (q.resumeSend client job).2 = none then q.slots.line else q.slots.line.erase client := by
  unfold resumeSend
  simp only [slots_finishSend, isNone_finishSend]
  exact q.slots.line_resume client

theorem line_tryRecv (q : JobQueue α) : q.tryRecv.1.slots.line = q.slots.line := by
  rcases q.available.tryAcquire_cases with ⟨_, tried⟩ | ⟨_, _, tried⟩ | ⟨_, _, _, tried⟩ <;>
    cases some : q.items <;> simp only [tryRecv, tried, pop, some, Semaphore.line_release]

end JobQueue

namespace OpenCall

variable {α : Type}

structure Effect (client : Client) (pending : OpenCall α) (before after : JobQueue α)
    (outcome : OpenCall α ⊕ Reply α) : Prop where
  keeps : before.Keeps after
  jobs : (record client pending.call outcome).flatMap Ended.received ++ after.items =
    before.items ++ (record client pending.call outcome).flatMap Ended.accepted
  /-- The call stays the same until it ends. -/
  call : ∀ next, outcome = .inl next → next.call = pending.call
  line : after.slots.line =
    (if pending.awaitsSlot then before.slots.line.erase client else before.slots.line) ++
      if outcome.elim awaitsSlot (fun _ => false) then [client] else []
  /-- A sender is told that its job was sent, or gets it back. -/
  back : ∀ job deadline reply, pending.call = .send job deadline → outcome = .inr reply →
    reply = .sent ∨ ∃ fault, reply = .notSent fault job

private theorem effect_send {client : Client} {job : α} {deadline : Option Instant} {parked : Bool}
    {before after : JobQueue α} {answer : Option (Except SendFault Unit)}
    {outcome : OpenCall α ⊕ Reply α}
    (told : outcome = match answer with
      | some answer => .inr (sendReply job answer)
      | none => .inl ⟨.send job deadline, true⟩)
    (keeps : before.Keeps after)
    (items : after.items = before.items ++ SendFault.buffered job answer)
    (line : after.slots.line =
      (if parked then before.slots.line.erase client else before.slots.line) ++
        if answer = none then [client] else []) :
    Effect client ⟨.send job deadline, parked⟩ before after outcome := by
  subst told
  rcases answer with _ | fault | _
  · refine ⟨keeps, items, fun next same => ?_, line, fun _ _ _ _ ended => nomatch ended⟩
    cases same
    rfl
  · refine ⟨keeps, items, fun _ same => (nomatch same), line, fun _ _ _ same ended => ?_⟩
    cases same
    cases ended
    exact Or.inr ⟨fault, rfl⟩
  · refine ⟨keeps, items, fun _ same => (nomatch same), line, fun _ _ _ same ended => ?_⟩
    cases same
    cases ended
    exact Or.inl rfl

private theorem effect_look {client : Client} {call : Call α} {parked : Bool}
    {before after : JobQueue α} {outcome : OpenCall α ⊕ Reply α}
    (receiver : call = .recv ∨ call = .ready)
    (told : (∃ parked, outcome = .inl ⟨call, parked⟩) ∨
      ∃ reply, (reply = .ready ∨ reply = .drained) ∧ outcome = .inr reply)
    (same : before.SameJobs after) :
    Effect client ⟨call, parked⟩ before after outcome := by
  have line : after.slots.line = before.slots.line := congrArg Semaphore.line same.slots
  have quiet (parked) : (⟨call, parked⟩ : OpenCall α).awaitsSlot = false := by
    rcases receiver with rfl | rfl <;> rfl
  have other (job deadline) : call ≠ .send job deadline := by
    rcases receiver with rfl | rfl <;> exact fun same => nomatch same
  rcases told with ⟨later, rfl⟩ | ⟨reply, empty, rfl⟩
  · refine ⟨same.keeps, ?_, fun next same => ?_, ?_, fun _ _ _ _ ended => nomatch ended⟩
    · simp only [record, List.flatMap_nil, List.nil_append, List.append_nil, same.items]
    · cases same
      rfl
    · simp only [quiet, Sum.elim_inl, line, Bool.false_eq_true, ↓reduceIte, List.append_nil]
  · refine ⟨same.keeps, ?_, fun _ same => (nomatch same), ?_,
      fun _ _ _ same => (other _ _ same).elim⟩
    · rcases empty with rfl | rfl <;>
        simp only [record, List.flatMap_cons, Ended.received, Ended.accepted, List.flatMap_nil,
          List.append_nil, List.nil_append, same.items]
    · simp only [quiet, Sum.elim_inr, line, Bool.false_eq_true, ↓reduceIte, List.append_nil]

/-- The effect of a step of a sender, which gives up when it wakes after its deadline. -/
private theorem effect_of_sender {now : Instant} {client : Client} {job : α}
    {deadline : Option Instant} {parked : Bool} {q after : JobQueue α}
    {outcome : OpenCall α ⊕ Reply α}
    (stepped : step now client ⟨.send job deadline, parked⟩ q = some (after, outcome)) :
    Effect client ⟨.send job deadline, parked⟩ q after outcome := by
  cases parked with
  | false =>
      have keeps := q.startSend_keeps client job
      have items := q.items_startSend client job
      have line := q.line_startSend client job
      simp only [step] at stepped
      generalize q.startSend client job = tried at stepped keeps items line
      obtain ⟨next, _ | answer⟩ := tried
      · cases stepped
        exact effect_send rfl keeps items line
      · cases stepped
        exact effect_send rfl keeps items line
  | true =>
      have keeps := q.resumeSend_keeps client job
      have items := q.items_resumeSend client job
      have line := q.line_resumeSend client job
      simp only [step] at stepped
      generalize q.resumeSend client job = tried at stepped keeps items line
      obtain ⟨next, _ | answer⟩ := tried
      · simp only at stepped
        split at stepped
        · cases stepped
          refine ⟨q.abandonSend_keeps client, ?_, fun _ same => (nomatch same), ?_, ?_⟩
          · exact (List.append_nil _).symm
          · exact (q.slots.line_abandon client).trans (List.append_nil _).symm
          · intro _ _ _ same ended
            cases same
            cases ended
            exact Or.inr ⟨.timeout, rfl⟩
        · cases stepped
      · cases stepped
        refine effect_send rfl keeps items ?_
        simpa only [reduceCtorEq, ↓reduceIte, List.append_nil] using line

/-- **The effect of a step of a call.** -/
theorem step_effect {now : Instant} {client : Client} {pending : OpenCall α} {q after : JobQueue α}
    {outcome : OpenCall α ⊕ Reply α} (balanced : q.Balanced)
    (stepped : pending.step now client q = some (after, outcome)) :
    Effect client pending q after outcome := by
  obtain ⟨call, parked⟩ := pending
  cases call with
  | send job deadline => exact effect_of_sender stepped
  | recv =>
      cases parked with
      | false =>
          have line := q.line_tryRecv
          simp only [step] at stepped
          rcases balanced.tryRecv_cases with ⟨job, next, tried, items, keeps⟩ | ⟨tried, _⟩ |
            ⟨tried, _⟩
          · simp only [tried] at stepped line
            cases stepped
            refine ⟨keeps, ?_, fun _ same => (nomatch same), ?_, fun _ _ _ same => nomatch same⟩
            · simp only [record, List.flatMap_cons, Ended.received, Ended.accepted,
                List.flatMap_nil, List.append_nil, List.singleton_append, items]
            · simpa only [awaitsSlot, Bool.false_eq_true, ↓reduceIte, Sum.elim_inr,
                List.append_nil] using line
          · simp only [tried] at stepped
            cases stepped
            exact effect_look (Or.inl rfl) (Or.inl ⟨_, rfl⟩) (q.startReady_sameJobs client)
          · simp only [tried] at stepped
            cases stepped
            exact effect_look (Or.inl rfl) (Or.inr ⟨_, Or.inr rfl, rfl⟩) (.refl q)
      | true =>
          have same := q.resumeReady_sameJobs client
          simp only [step] at stepped
          generalize q.resumeReady client = looked at stepped same
          obtain ⟨next, _ | _⟩ := looked
          · cases stepped
          · cases stepped
            exact effect_look (Or.inl rfl) (Or.inl ⟨_, rfl⟩) same
  | ready =>
      cases parked with
      | false =>
          have same := q.startReady_sameJobs client
          simp only [step] at stepped
          generalize q.startReady client = looked at stepped same
          obtain ⟨next, _ | _⟩ := looked
          · cases stepped
            exact effect_look (Or.inr rfl) (Or.inl ⟨_, rfl⟩) same
          · cases stepped
            exact effect_look (Or.inr rfl) (Or.inr ⟨_, Or.inl rfl, rfl⟩) same
      | true =>
          have same := q.resumeReady_sameJobs client
          simp only [step] at stepped
          generalize q.resumeReady client = looked at stepped same
          obtain ⟨next, _ | _⟩ := looked
          · cases stepped
          · cases stepped
            exact effect_look (Or.inr rfl) (Or.inr ⟨_, Or.inl rfl, rfl⟩) same

/-- A call that is given up leaves the buffer and the rest of the line as they are. -/
theorem abandon_effect (client : Client) (pending : OpenCall α) (q : JobQueue α) :
    q.Keeps (pending.abandon client q) ∧ (pending.abandon client q).items = q.items ∧
      (pending.abandon client q).slots.line =
        if pending.awaitsSlot then q.slots.line.erase client else q.slots.line := by
  obtain ⟨call, _ | _⟩ := pending
  · cases call <;> exact ⟨.refl q, rfl, rfl⟩
  · have same := (q.abandonReady_sameJobs client).keeps
    cases call with
    | send job deadline => exact ⟨q.abandonSend_keeps client, rfl, q.slots.line_abandon client⟩
    | recv => exact ⟨same, rfl, rfl⟩
    | ready => exact ⟨same, rfl, rfl⟩

end OpenCall

/-! ## Sessions -/

namespace Session

variable {α : Type}

/-- What holds of a session at every moment. -/
structure Sound (capacity : Nat) (s : Session α) : Prop where
  balanced : s.queue.Balanced
  capacity : s.queue.capacity = capacity
  conserved : s.received ++ s.queue.items = s.accepted
  /-- The clients in line for a slot are the senders that wait, each of them once. -/
  line : ∀ client, client ∈ s.queue.slots.line ↔
    (s.calls client).any OpenCall.awaitsSlot = true
  once : s.queue.slots.line.Nodup
  back : ∀ client job deadline fault returned,
    .call client (.send job deadline) (.notSent fault returned) ∈ s.ended → returned = job

theorem sound_make (name : String) (capacity : Nat) :
    (make name capacity : Session α).Sound (max capacity 1) :=
  ⟨JobQueue.balanced_make name capacity, rfl, rfl, fun _ => by simp only [make, JobQueue.make,
    Semaphore.line, List.append_nil, List.not_mem_nil, Option.any_none, Bool.false_eq_true],
    List.nodup_nil, fun _ _ _ _ _ member => (List.not_mem_nil member).elim⟩

/-- The line stays that of the senders that wait when one client goes on. -/
private theorem line_update {line after : List Client} {calls : Client → Option (OpenCall α)}
    (client : Client) (next : Option (OpenCall α))
    (lined : ∀ other, other ∈ line ↔ (calls other).any OpenCall.awaitsSlot = true)
    (once : line.Nodup)
    (changed : after =
      (if (calls client).any OpenCall.awaitsSlot then line.erase client else line) ++
        if next.any OpenCall.awaitsSlot then [client] else []) :
    after.Nodup ∧ ∀ other, other ∈ after ↔
      (Function.update calls client next other).any OpenCall.awaitsSlot = true := by
  have rest : after =
      line.erase client ++ if next.any OpenCall.awaitsSlot then [client] else [] := by
    rw [changed]
    split
    · rfl
    next quiet => rw [List.erase_of_not_mem (fun member => quiet ((lined client).mp member))]
  have gone : client ∉ line.erase client := fun member =>
    ((once.mem_erase_iff).mp member).1 rfl
  subst rest
  constructor
  · split
    · refine (once.erase client).append (List.nodup_singleton client) ?_
      rw [List.disjoint_singleton]
      exact gone
    · rw [List.append_nil]
      exact once.erase client
  · intro other
    rw [List.mem_append, once.mem_erase_iff]
    by_cases same : other = client
    · subst same
      rw [Function.update_self]
      split
      next waits => simp only [List.mem_singleton, or_true, waits]
      next quiet =>
        simp only [ne_eq, not_true_eq_false, false_and, List.not_mem_nil, or_self, quiet,
          Bool.false_eq_true]
    · rw [Function.update_of_ne same, ← lined other]
      split
      · simp only [ne_eq, same, not_false_eq_true, true_and, List.mem_singleton, or_false]
      · simp only [ne_eq, same, not_false_eq_true, true_and, List.not_mem_nil, or_false]

variable {capacity : Nat} {s : Session α}

/-- A call that has just begun has not lined up yet. -/
private theorem Sound.begins (sound : s.Sound capacity) {client : Client} (call : Call α)
    (idle : s.calls client = none) :
    ({ s with calls := Function.update s.calls client (some { call }) } : Session α).Sound
      capacity := by
  have same : s.queue.slots.line =
      (if (s.calls client).any OpenCall.awaitsSlot then s.queue.slots.line.erase client
        else s.queue.slots.line) ++
      if (some { call } : Option (OpenCall α)).any OpenCall.awaitsSlot then [client] else [] := by
    cases call <;> simp only [idle, Option.any_none, Option.any_some, OpenCall.awaitsSlot,
      Bool.false_eq_true, ↓reduceIte, List.append_nil]
  obtain ⟨once, line⟩ := line_update client (some { call }) sound.line sound.once same
  exact ⟨sound.balanced, sound.capacity, sound.conserved, line, once, sound.back⟩

private theorem Sound.advance (sound : s.Sound capacity) {client : Client} {pending : OpenCall α}
    {after : JobQueue α} {outcome : OpenCall α ⊕ Reply α}
    (held : s.calls client = some pending)
    (effect : pending.Effect client s.queue after outcome) :
    (s.advance client pending after outcome).Sound capacity := by
  have waits : outcome.elim OpenCall.awaitsSlot (fun _ => false) =
      outcome.getLeft?.any OpenCall.awaitsSlot := by
    cases outcome <;> rfl
  have parked : (s.calls client).any OpenCall.awaitsSlot = pending.awaitsSlot :=
    congrArg (Option.any OpenCall.awaitsSlot) held
  have changed := effect.line
  rw [waits, ← parked] at changed
  obtain ⟨once, line⟩ := line_update client outcome.getLeft? sound.line sound.once changed
  refine ⟨effect.keeps.balanced sound.balanced, effect.keeps.capacity.trans sound.capacity, ?_,
    line, once, ?_⟩
  · have jobs := effect.jobs
    have conserved := sound.conserved
    simp only [received, accepted, Session.advance, List.flatMap_append, List.append_assoc] at *
    rw [jobs, ← List.append_assoc, conserved]
  · intro other job deadline fault returned member
    rcases List.mem_append.mp member with earlier | now
    · exact sound.back other job deadline fault returned earlier
    · cases outcome with
      | inl _ => exact (List.not_mem_nil now).elim
      | inr reply =>
          obtain ⟨rfl, asked, rfl⟩ := Ended.call.inj (List.mem_singleton.mp now)
          rcases effect.back job deadline _ asked.symm rfl with ended | ⟨_, ended⟩
          · cases ended
          · cases ended
            rfl

/-- A call that is given up leaves the line if it had lined up. -/
private theorem Sound.abandons (sound : s.Sound capacity) {client : Client}
    {pending : OpenCall α} (held : s.calls client = some pending) :
    ({ s with
      queue := pending.abandon client s.queue
      calls := Function.update s.calls client none } : Session α).Sound capacity := by
  obtain ⟨keeps, items, same⟩ := pending.abandon_effect client s.queue
  have shorter : (pending.abandon client s.queue).slots.line =
      (if (s.calls client).any OpenCall.awaitsSlot then s.queue.slots.line.erase client
        else s.queue.slots.line) ++
      if (none : Option (OpenCall α)).any OpenCall.awaitsSlot then [client] else [] := by
    rw [same, held, Option.any_some, Option.any_none]
    exact (List.append_nil _).symm
  obtain ⟨once, line⟩ := line_update client none sound.line sound.once shorter
  refine ⟨keeps.balanced sound.balanced, keeps.capacity.trans sound.capacity, ?_, line, once,
    sound.back⟩
  exact (congrArg (s.received ++ ·) items).trans sound.conserved

/-- What is received without waiting was the first in the buffer. -/
private theorem Sound.tries (sound : s.Sound capacity) :
    ({ s with
      queue := s.queue.tryRecv.1
      ended := s.ended ++ [.tried s.queue.tryRecv.2] } : Session α).Sound capacity := by
  have items := s.queue.items_tryRecv
  have line := s.queue.line_tryRecv
  have keeps : s.queue.Keeps s.queue.tryRecv.1 := by
    rcases sound.balanced.tryRecv_cases with ⟨job, next, tried, _, keeps⟩ | ⟨tried, _⟩ |
      ⟨tried, _⟩
    · rw [tried]
      exact keeps
    · rw [tried]
      exact .refl _
    · rw [tried]
      exact .refl _
  refine ⟨keeps.balanced sound.balanced, keeps.capacity.trans sound.capacity, ?_, ?_, ?_, ?_⟩
  · have conserved := sound.conserved
    simp only [received, accepted, List.flatMap_append, List.flatMap_cons, Ended.received,
      Ended.accepted, List.flatMap_nil, List.append_nil, List.append_assoc] at conserved ⊢
    rw [← items, conserved]
  · intro client
    change client ∈ s.queue.tryRecv.1.slots.line ↔ _
    rw [line]
    exact sound.line client
  · change s.queue.tryRecv.1.slots.line.Nodup
    rw [line]
    exact sound.once
  · intro client job deadline fault returned member
    rcases List.mem_append.mp member with earlier | now
    · exact sound.back client job deadline fault returned earlier
    · cases List.mem_singleton.mp now

/-- **Every move keeps a session sound.** -/
theorem Sound.act {t : Session α} {move : SessionMove α} (sound : s.Sound capacity)
    (moved : s.act move = some t) : t.Sound capacity := by
  cases move with
  | begin client call =>
      simp only [Session.act] at moved
      split at moved
      next idle =>
        cases moved
        exact sound.begins call idle
      · cases moved
  | step now client =>
      simp only [Session.act] at moved
      split at moved
      · cases moved
      next pending held =>
        obtain ⟨⟨after, outcome⟩, stepped, rfl⟩ := Option.map_eq_some_iff.mp moved
        exact sound.advance held (OpenCall.step_effect sound.balanced stepped)
  | abandon client =>
      simp only [Session.act] at moved
      split at moved
      · cases moved
      next pending held =>
        cases moved
        exact sound.abandons held
  | tryRecv =>
      cases moved
      exact sound.tries
  | close =>
      cases moved
      exact ⟨sound.balanced.close, sound.capacity, sound.conserved, sound.line, sound.once,
        sound.back⟩

/-- A step of a sender puts its job at the end and ends the call with the word that it was sent, or
leaves the buffer as it is and accepts nothing. -/
theorem Sound.step_send {t : Session α} (sound : s.Sound capacity)
    {now : Instant} {client : Client} {job : α} {deadline : Option Instant} {parked : Bool}
    (held : s.calls client = some ⟨.send job deadline, parked⟩)
    (moved : s.act (.step now client) = some t) :
    t.queue.items = s.queue.items ++ [job] ∧
        t.ended = s.ended ++ [.call client (.send job deadline) .sent] ∨
      t.queue.items = s.queue.items ∧ t.accepted = s.accepted := by
  simp only [Session.act, held] at moved
  obtain ⟨⟨after, outcome⟩, stepped, rfl⟩ := Option.map_eq_some_iff.mp moved
  have effect := OpenCall.step_effect sound.balanced stepped
  have jobs := effect.jobs
  cases outcome with
  | inl next =>
      exact Or.inr ⟨jobs.trans (List.append_nil _),
        congrArg (List.flatMap Ended.accepted) (List.append_nil s.ended)⟩
  | inr reply =>
      rcases effect.back job deadline reply rfl rfl with rfl | ⟨fault, rfl⟩
      · exact Or.inl ⟨jobs, rfl⟩
      · refine Or.inr ⟨jobs.trans (List.append_nil _), ?_⟩
        simp only [accepted, Session.advance, List.flatMap_append]
        exact List.append_nil _

/-- **A queue is a bounded buffer that conserves jobs.**  Whatever clients do with a queue, in any
order, and whichever calls they give up:

* the queue holds at most as many jobs as it may;
* the jobs received, followed by the buffered ones, are those whose senders were told that they were
  sent, in the order in which they were put there;
* a sender that fails is given its own job, and a step of a sender that does not end with the word
  that the job was sent has put nothing into the queue;
* while the queue is open, every slot is free, granted to a sender that still waits, or taken. -/
theorem conserves_jobs (name : String) (capacity : Nat) {moves : List (SessionMove α)}
    {s : Session α} (played : play act moves (make name capacity) = some s) :
    s.queue.size ≤ max capacity 1 ∧
    s.received ++ s.queue.items = s.accepted ∧
    (∀ client job deadline fault returned,
      .call client (.send job deadline) (.notSent fault returned) ∈ s.ended → returned = job) ∧
    (∀ client job deadline parked now t, s.calls client = some ⟨.send job deadline, parked⟩ →
      s.act (.step now client) = some t →
      t.queue.items = s.queue.items ++ [job] ∧
          t.ended = s.ended ++ [.call client (.send job deadline) .sent] ∨
        t.queue.items = s.queue.items ∧ t.accepted = s.accepted) ∧
    (s.queue.isClosed = false →
      s.queue.slots.permits + s.queue.slots.granted.length + s.queue.size = max capacity 1) ∧
    (s.queue.slots.granted.Nodup ∧ ∀ client ∈ s.queue.slots.granted,
      ∃ job deadline, s.calls client = some ⟨.send job deadline, true⟩) := by
  have sound : s.Sound (max capacity 1) :=
    play_keeps (fun _ _ _ _ sound moved => sound.act moved) (fun _ _ => trivial)
      (sound_make name capacity) played
  refine ⟨?_, sound.conserved, sound.back, ?_, ?_, ?_, ?_⟩
  · rw [← sound.capacity]
    exact sound.balanced.bound
  · intro client job deadline parked now t held moved
    exact sound.step_send held moved
  · intro opened
    rw [← sound.capacity]
    exact sound.balanced.slots opened
  · exact (List.nodup_append.mp sound.once).1
  · intro client member
    have waits := (sound.line client).mp (List.mem_append_left _ member)
    obtain ⟨⟨call, parked⟩, held, awaits⟩ := (Option.any_eq_true _ _).mp waits
    cases call with
    | send job deadline =>
        cases awaits
        exact ⟨job, deadline, held⟩
    | recv => cases awaits
    | ready => cases awaits

/-- Three senders compete for one slot: one that waits gives up after the slot was granted to it,
the next takes it after its deadline, and another one fails; then the queue is closed and drained.
-/
def crowded : List (SessionMove Nat) :=
  [.begin (.task 1) (.send 10 none), .step 0 (.task 1),
    .begin (.task 2) (.send 20 none), .step 0 (.task 2),
    .begin (.task 3) (.send 30 (some 5)), .step 0 (.task 3),
    .tryRecv, .abandon (.task 2), .step 7 (.task 3),
    .begin (.task 4) (.send 40 (some 8)), .step 7 (.task 4), .step 8 (.task 4),
    .close, .begin (.task 5) .recv, .step 9 (.task 5)]

theorem conserves_jobs_crowded :
    ∃ s, play act crowded (make "crowded" 0) = some s ∧ s.accepted = [10, 30] ∧
      s.received = [10, 30] ∧ s.queue.size ≤ 1 ∧ s.received ++ s.queue.items = s.accepted := by
  refine ⟨_, rfl, rfl, rfl, ?_⟩
  have conserved := conserves_jobs "crowded" 0 (rfl : play act crowded (make "crowded" 0) = some _)
  exact ⟨conserved.1, conserved.2.1⟩

end Session

end RepoCollector
