import Mathlib.Data.List.Sort
import RepoCollector.Proofs.Queue.Calm

/-! # The turnstile

A turnstile is a queue whose clients are prompt: every call that was woken is run, in any order,
before the queue is used again.  A wait may end at any time all the same, because its deadline has
passed or because it is given up, even right after a slot was granted to it.

Each call draws a number when it begins.  Jobs are put into the queue in the order of these numbers,
and whoever is in line has a higher number than all those who were served
(`RepoCollector.Turnstile.Sound.act`).
-/

namespace RepoCollector

/-- A send that has begun. -/
structure Ticket (α : Type) where
  number : Nat
  client : Client
  job : α

/-- One send began before another. -/
def Ticket.Before {α : Type} (first second : Ticket α) : Prop := first.number < second.number

instance {α : Type} : Std.Irrefl (Ticket.Before (α := α)) :=
  ⟨fun ticket => Nat.lt_irrefl ticket.number⟩

instance {α : Type} : Std.Antisymm (Ticket.Before (α := α)) :=
  ⟨fun _ _ before after => absurd before (Nat.lt_asymm after)⟩

/-- A session, and who was served and who waits. -/
structure Turnstile (α : Type) where
  session : Session α
  /-- The clients that were woken to look into the queue again and have not done so. -/
  awake : List Client := []
  /-- The number of calls that have begun. -/
  drawn : Nat := 0
  /-- The sends whose jobs were put into the queue, the first one first. -/
  served : List (Ticket α) := []
  /-- The sends in line for a slot, the longest waiting first. -/
  waiting : List (Ticket α) := []

inductive TurnstileMove (α : Type) where
  /-- A client makes a call, which is run until it ends or has to wait. -/
  | ask (now : Instant) (client : Client) (call : Call α)
  /-- A call in progress is run. -/
  | turn (now : Instant) (client : Client)
  | abandon (client : Client)
  | tryRecv
  | close

namespace Turnstile

variable {α : Type}

def make (name : String) (capacity : Nat) : Turnstile α :=
  { session := .make name capacity }

/-- Whoever was woken has been run. -/
def Settled (s : Turnstile α) : Prop := s.session.queue.due = [] ∧ s.awake = []

instance (s : Turnstile α) : Decidable s.Settled := inferInstanceAs (Decidable (_ ∧ _))

def ticket? (s : Turnstile α) (client : Client) : Option (Ticket α) :=
  s.waiting.find? (·.client = client)

/-- Notes that a client went on, which has a ticket if it sends. -/
def note (s : Turnstile α) (client : Client) (ticket : Option (Ticket α)) (next : Session α) :
    Turnstile α :=
  { session := next
    awake := (client :: s.awake).filter next.unparked
    drawn := s.drawn
    served := s.served ++
      if s.session.accepted.length < next.accepted.length then ticket.toList else []
    waiting := s.waiting.filter (·.client != client) ++
      if (next.calls client).any OpenCall.awaitsSlot then ticket.toList else [] }

/-- Makes a move.  A call begins, a receiver tries, and the queue is closed, only when whoever was
woken has been run. -/
def act (move : TurnstileMove α) (s : Turnstile α) : Option (Turnstile α) :=
  match move with
  | .ask now client call =>
    if s.Settled then
      (play Session.act [.begin client call, .step now client] s.session).map fun next =>
        { s.note client (call.job?.map fun job => ⟨s.drawn, client, job⟩) next with
          drawn := s.drawn + 1 }
    else none
  | .turn now client =>
    (s.session.act (.step now client)).map (s.note client (s.ticket? client))
  | .abandon client => (s.session.act (.abandon client)).map (s.note client none)
  | .tryRecv =>
    if s.Settled then (s.session.act .tryRecv).map fun next => { s with session := next } else none
  | .close =>
    if s.Settled then (s.session.act .close).map fun next => { s with session := next } else none

/-! ## The tickets -/

variable {capacity : Nat} {s t : Turnstile α}

/-- What holds of a turnstile at every moment. -/
structure Sound (capacity : Nat) (s : Turnstile α) : Prop where
  session : s.session.Sound capacity
  calm : s.session.Calm s.awake
  /-- The line for a slot is that of the tickets. -/
  line : s.session.queue.slots.line = s.waiting.map Ticket.client
  tickets : ∀ ticket ∈ s.waiting, ∃ deadline,
    s.session.calls ticket.client = some ⟨.send ticket.job deadline, true⟩
  order : (s.served ++ s.waiting).Pairwise Ticket.Before
  drawn : ∀ ticket ∈ s.served ++ s.waiting, ticket.number < s.drawn
  accepted : s.session.accepted = s.served.map Ticket.job

theorem sound_make (name : String) (capacity : Nat) :
    (make name capacity : Turnstile α).Sound (max capacity 1) :=
  ⟨Session.sound_make name capacity, Session.calm_make name capacity, rfl,
    fun _ member => absurd member List.not_mem_nil, List.Pairwise.nil,
    fun _ member => absurd member List.not_mem_nil, rfl⟩

/-- A client of which no ticket is in line. -/
private theorem Sound.absent (sound : s.Sound capacity) {client : Client}
    (idle : (s.session.calls client).any OpenCall.awaitsSlot = false) :
    client ∉ s.waiting.map Ticket.client := by
  rw [← sound.line, sound.session.line client, idle]
  exact Bool.false_ne_true

theorem Sound.nodup (sound : s.Sound capacity) :
    (s.waiting.map Ticket.client).Nodup := sound.line ▸ sound.session.once

theorem Sound.line_ne_nil (sound : s.Sound capacity) (someone : s.waiting ≠ []) :
    s.session.queue.slots.line ≠ [] := by
  rw [sound.line]
  exact fun none => someone (List.map_eq_nil_iff.mp none)

/-- The line without one client, and without its ticket. -/
theorem map_filter_client {tickets : List (Ticket α)}
    (once : (tickets.map Ticket.client).Nodup) (client : Client) :
    (tickets.filter (·.client != client)).map Ticket.client =
      (tickets.map Ticket.client).erase client := by
  rw [once.erase_eq_filter, List.filter_map]
  rfl

private theorem filter_client_of_absent {tickets : List (Ticket α)} {client : Client}
    (absent : client ∉ tickets.map Ticket.client) :
    tickets.filter (·.client != client) = tickets := by
  refine List.filter_eq_self.mpr fun ticket member => bne_iff_ne.mpr ?_
  rintro rfl
  exact absent (List.mem_map_of_mem member)

/-- One client goes on: the tickets of those that are served and of those that line up are noted,
and none is noted that was neither in line nor drawn just now. -/
private theorem Sound.moved (sound : s.Sound capacity) (client : Client)
    (entered joined new : List (Ticket α)) (session : t.session.Sound capacity)
    (calm : t.session.Calm t.awake)
    (others : ∀ other, other ≠ client → t.session.calls other = s.session.calls other)
    (line : t.session.queue.slots.line =
      s.session.queue.slots.line.erase client ++ joined.map Ticket.client)
    (tickets : ∀ ticket ∈ joined, ∃ deadline,
      t.session.calls ticket.client = some ⟨.send ticket.job deadline, true⟩)
    (accepted : t.session.accepted = s.session.accepted ++ entered.map Ticket.job)
    (served : t.served = s.served ++ entered)
    (waiting : t.waiting = s.waiting.filter (·.client != client) ++ joined)
    (noted : (entered ++ t.waiting).Sublist (s.waiting ++ new))
    (numbers : ∀ ticket ∈ new, ticket.number = s.drawn) (single : new.length ≤ 1)
    (drawn : s.drawn + new.length ≤ t.drawn) : t.Sound capacity := by
  have whole : (t.served ++ t.waiting).Sublist (s.served ++ s.waiting ++ new) := by
    rw [served, List.append_assoc, List.append_assoc]
    exact List.Sublist.append (List.Sublist.refl _) noted
  refine ⟨session, calm, ?_, ?_, List.Pairwise.sublist whole ?_, ?_, ?_⟩
  · rw [line, waiting, List.map_append, map_filter_client sound.nodup, sound.line]
  · intro ticket member
    rw [waiting] at member
    rcases List.mem_append.mp member with stays | joins
    · obtain ⟨stays, different⟩ := List.mem_filter.mp stays
      rw [others _ (bne_iff_ne.mp different)]
      exact sound.tickets ticket stays
    · exact tickets ticket joins
  · refine List.pairwise_append.mpr ⟨sound.order, ?_, fun earlier before latest after => ?_⟩
    · match new, single with
      | [], _ => exact List.Pairwise.nil
      | [ticket], _ => exact List.pairwise_singleton ..
    · change earlier.number < latest.number
      rw [numbers latest after]
      exact sound.drawn earlier before
  · intro ticket member
    rcases List.mem_append.mp (whole.subset member) with old | late
    · exact Nat.lt_of_lt_of_le (sound.drawn ticket old) (Nat.le_of_add_right_le drawn)
    · rw [numbers ticket late]
      have some := List.length_pos_of_mem late
      omega
  · rw [accepted, sound.accepted, served, List.map_append]

/-- A client that goes on without being served and without lining up. -/
private theorem Sound.idle (sound : s.Sound capacity) (client : Client)
    (session : t.session.Sound capacity) (calm : t.session.Calm t.awake)
    (others : ∀ other, other ≠ client → t.session.calls other = s.session.calls other)
    (line : t.session.queue.slots.line = s.session.queue.slots.line.erase client)
    (accepted : t.session.accepted = s.session.accepted) (served : t.served = s.served)
    (waiting : t.waiting = s.waiting.filter (·.client != client)) (drawn : s.drawn ≤ t.drawn) :
    t.Sound capacity := by
  refine sound.moved client [] [] [] session calm others ?_ ?_ ?_ ?_ ?_ ?_ ?_ ?_ ?_
  · rw [line, List.map_nil, List.append_nil]
  · exact fun _ member => absurd member List.not_mem_nil
  · rw [accepted, List.map_nil, List.append_nil]
  · rw [served, List.append_nil]
  · rw [waiting, List.append_nil]
  · rw [waiting, List.nil_append, List.append_nil]
    exact List.filter_sublist
  · exact fun _ member => absurd member List.not_mem_nil
  · exact Nat.zero_le 1
  · exact drawn

section Note

variable {next : Session α} (client : Client) (ticket : Option (Ticket α))

theorem served_note_of_same (same : next.accepted = s.session.accepted) :
    (s.note client ticket next).served = s.served := by
  simp only [note, same, Nat.lt_irrefl, ↓reduceIte, List.append_nil]

theorem served_note_of_more {job : α} (more : next.accepted = s.session.accepted ++ [job]) :
    (s.note client ticket next).served = s.served ++ ticket.toList := by
  simp only [note, more, List.length_append, List.length_singleton, Nat.lt_add_one, ↓reduceIte]

variable {client}

theorem waiting_note_of_idle (idle : (next.calls client).any OpenCall.awaitsSlot = false) :
    (s.note client ticket next).waiting = s.waiting.filter (·.client != client) := by
  simp only [note, idle, Bool.false_eq_true, ↓reduceIte, List.append_nil]

theorem waiting_note_of_waits (waits : (next.calls client).any OpenCall.awaitsSlot = true) :
    (s.note client ticket next).waiting =
      s.waiting.filter (·.client != client) ++ ticket.toList := by
  simp only [note, waits, ↓reduceIte]

end Note

/-- The client that was granted a slot is the first in line. -/
private theorem Sound.first (sound : s.Sound capacity) (opened : s.session.queue.isClosed = false)
    {client : Client} (granted : client ∈ s.session.queue.slots.granted) :
    ∃ ticket rest, s.waiting = ticket :: rest ∧ ticket.client = client := by
  have line := sound.line
  have someone : s.session.queue.slots.line ≠ [] :=
    List.ne_nil_of_mem (List.mem_append_left _ granted)
  have single := ((sound.calm.orderly opened).paced someone).2
  have only : s.session.queue.slots.granted = [client] := by
    match s.session.queue.slots.granted, granted, single with
    | [other], member, _ => rw [List.mem_singleton.mp member]
  rw [Semaphore.line, only, List.singleton_append] at line
  cases waiting : s.waiting with
  | nil =>
      rw [waiting] at line
      cases line
  | cons ticket rest =>
      rw [waiting, List.map_cons] at line
      injection line with same
      exact ⟨ticket, rest, rfl, same.symm⟩

/-- Whoever is run leaves the session calm. -/
private theorem Sound.calm_turn (sound : s.Sound capacity) (positive : 0 < capacity) {now : Instant}
    {client : Client} {next : Session α} (moved : s.session.act (.step now client) = some next) :
    next.Calm ((client :: s.awake).filter next.unparked) := by
  cases held : s.session.calls client with
  | none => simp only [Session.act, held, reduceCtorEq] at moved
  | some pending =>
      refine Session.Calm.step sound.session positive held
        (fun other call _ going => sound.calm.newcomers other call going) sound.calm.orderly
        sound.calm.alone (fun opened unparked => ?_) (fun _ job deadline first => ?_) moved
      · obtain ⟨call, parked⟩ := pending
        cases unparked
        have member := (sound.calm.newcomers client call held).2
        by_contra some
        have line : s.session.queue.slots.line ≠ [] :=
          List.append_ne_nil_of_left_ne_nil some _
        rw [sound.calm.alone opened line] at member
        exact List.not_mem_nil member
      · subst first
        cases (sound.calm.newcomers client _ held).1

/-- **A sender that was granted a slot takes it** when it is run, whatever time it is. -/
theorem Sound.serve (sound : s.Sound capacity) (positive : 0 < capacity)
    (opened : s.session.queue.isClosed = false) {ticket : Ticket α} (member : ticket ∈ s.waiting)
    (granted : ticket.client ∈ s.session.queue.slots.granted) (now : Instant) :
    ∃ t rest, s.act (.turn now ticket.client) = some t ∧ s.waiting = ticket :: rest ∧
      t.Sound capacity ∧ t.served = s.served ++ [ticket] ∧ t.waiting = rest ∧
      t.drawn = s.drawn ∧ t.session.queue.items = s.session.queue.items ++ [ticket.job] := by
  obtain ⟨deadline, held⟩ := sound.tickets ticket member
  obtain ⟨first, rest, waiting, same⟩ := sound.first opened granted
  have own : first = ticket := List.inj_on_of_nodup_map sound.nodup
    (waiting ▸ List.mem_cons_self) member same
  subst own
  have once := sound.nodup
  rw [waiting, List.map_cons, List.nodup_cons] at once
  have rested : s.waiting.filter (·.client != first.client) = rest := by
    rw [waiting, List.filter_cons_of_neg, filter_client_of_absent once.1]
    rw [bne_self_eq_false]
    exact Bool.false_ne_true
  obtain ⟨after, stepped⟩ : ∃ after, OpenCall.step now first.client
      ⟨.send first.job deadline, true⟩ s.session.queue = some (after, .inr .sent) :=
    ⟨_, OpenCall.step_of_granted opened granted now first.job deadline⟩
  obtain ⟨next, moved⟩ : ∃ next, s.session.act (.step now first.client) = some next := by
    simp only [Session.act, held, stepped, Option.map_some, Option.some.injEq, exists_eq']
  obtain ⟨outcome, same, calls, more⟩ := Session.step_of_act held moved
  obtain ⟨rfl, rfl⟩ := Prod.mk.inj (Option.some.inj (stepped.symm.trans same))
  have effect := OpenCall.step_effect sound.session.balanced stepped
  have found : s.ticket? first.client = some first := by
    simp only [ticket?, waiting, decide_true, List.find?_cons_of_pos]
  have quiet : (next.calls first.client).any OpenCall.awaitsSlot = false := by
    rw [calls, Function.update_self]
    rfl
  have served : (s.note first.client (some first) next).served = s.served ++ [first] :=
    served_note_of_more _ _ more
  have waits : (s.note first.client (some first) next).waiting = rest :=
    (waiting_note_of_idle _ quiet).trans rested
  refine ⟨s.note first.client (some first) next, rest, ?_, waiting, ?_, served, waits, rfl,
    effect.jobs⟩
  · simp only [Turnstile.act, moved, found, Option.map_some]
  · refine sound.moved first.client [first] [] [] (sound.session.act moved)
      (sound.calm_turn positive moved) (fun other different => ?_) effect.line ?_ more served ?_ ?_
      ?_ ?_ ?_
    · change next.calls other = _
      rw [calls, Function.update_of_ne different]
    · exact fun _ member => absurd member List.not_mem_nil
    · rw [waits, rested, List.append_nil]
    · rw [waits, waiting, List.append_nil]
      exact List.Sublist.refl _
    · exact fun _ member => absurd member List.not_mem_nil
    · exact Nat.zero_le 1
    · exact Nat.le_refl s.drawn

/-- Whoever waits and is run without a slot leaves the line. -/
theorem Sound.leave (sound : s.Sound capacity) (positive : 0 < capacity)
    {ticket : Ticket α} (member : ticket ∈ s.waiting)
    (none : ¬ (s.session.queue.isClosed = false ∧
      ticket.client ∈ s.session.queue.slots.granted)) {now : Instant}
    (moved : s.act (.turn now ticket.client) = some t) :
    t.Sound capacity ∧ t.served = s.served ∧
      t.waiting = s.waiting.filter (·.client != ticket.client) ∧
      t.session.queue = s.session.queue.abandonSend ticket.client := by
  obtain ⟨deadline, held⟩ := sound.tickets ticket member
  simp only [Turnstile.act, Option.map_eq_some_iff] at moved
  obtain ⟨next, moved, rfl⟩ := moved
  obtain ⟨outcome, stepped, calls, told⟩ := Session.step_of_act held moved
  obtain ⟨queue, fault, rfl⟩ := OpenCall.step_of_not_granted none stepped
  have same : next.accepted = s.session.accepted := told.trans (List.append_nil _)
  have quiet : (next.calls ticket.client).any OpenCall.awaitsSlot = false := by
    rw [calls, Function.update_self]
    rfl
  refine ⟨?_, served_note_of_same _ _ same, waiting_note_of_idle _ quiet, queue⟩
  refine sound.idle ticket.client (sound.session.act moved) (sound.calm_turn positive moved)
    (fun other different => ?_) ?_ same (served_note_of_same _ _ same)
    (waiting_note_of_idle _ quiet) (Nat.le_refl s.drawn)
  · change next.calls other = _
    rw [calls, Function.update_of_ne different]
  · change next.queue.slots.line = _
    rw [queue]
    exact s.session.queue.slots.line_abandon ticket.client

/-- A receiver that is run changes nothing about the line of the senders. -/
private theorem Sound.look (sound : s.Sound capacity) (positive : 0 < capacity) {now : Instant}
    {client : Client} {pending : OpenCall α} (held : s.session.calls client = some pending)
    (receiver : pending.call.job? = none) {next : Session α}
    (moved : s.session.act (.step now client) = some next) :
    (s.note client (s.ticket? client) next).Sound capacity := by
  obtain ⟨outcome, stepped, calls, told⟩ := Session.step_of_act held moved
  obtain ⟨line, idle, none⟩ :=
    (OpenCall.step_effect sound.session.balanced stepped).of_receiver receiver
  have away : client ∉ s.session.queue.slots.line := by
    rw [sound.session.line client, held]
    obtain ⟨call, parked⟩ := pending
    cases call with
    | send job deadline => cases receiver
    | recv => exact Bool.false_ne_true
    | ready => exact Bool.false_ne_true
  have same : next.accepted = s.session.accepted := by
    rw [told, none, List.append_nil]
  have quiet : (next.calls client).any OpenCall.awaitsSlot = false := by
    rw [calls, Function.update_self]
    exact idle
  refine sound.idle client (sound.session.act moved) (sound.calm_turn positive moved)
    (fun other different => ?_) (line.trans (List.erase_of_not_mem away).symm) same
    (served_note_of_same _ _ same) (waiting_note_of_idle _ quiet) (Nat.le_refl s.drawn)
  change next.calls other = _
  rw [calls, Function.update_of_ne different]

/-- A call that is given up. -/
theorem Sound.abandon (sound : s.Sound capacity) {client : Client} {pending : OpenCall α}
    (held : s.session.calls client = some pending) {next : Session α}
    (moved : s.session.act (.abandon client) = some next) :
    (s.note client none next).Sound capacity ∧ (s.note client none next).served = s.served ∧
      (s.note client none next).waiting = s.waiting.filter (·.client != client) ∧
      next.queue = pending.abandon client s.session.queue := by
  obtain ⟨queue, calls, same⟩ := Session.abandon_of_act held moved
  have quiet : (next.calls client).any OpenCall.awaitsSlot = false := by
    rw [calls, Function.update_self]
    rfl
  have line : next.queue.slots.line = s.session.queue.slots.line.erase client := by
    rw [queue]
    refine (pending.abandon_effect client s.session.queue).2.2.trans ?_
    cases waits : pending.awaitsSlot with
    | true => rfl
    | false =>
        have away : client ∉ s.session.queue.slots.line := by
          rw [sound.session.line client, held, Option.any_some, waits]
          exact Bool.false_ne_true
        rw [List.erase_of_not_mem away, if_neg Bool.false_ne_true]
  refine ⟨?_, served_note_of_same _ _ same, waiting_note_of_idle _ quiet, queue⟩
  refine sound.idle client (sound.session.act moved) (sound.calm.abandon sound.session moved)
    (fun other different => ?_) line same (served_note_of_same _ _ same)
    (waiting_note_of_idle _ quiet) (Nat.le_refl s.drawn)
  change next.calls other = _
  rw [calls, Function.update_of_ne different]

theorem granted_of_settled (settled : s.Settled) :
    s.session.queue.slots.granted = [] ∧ s.session.queue.available.granted = [] := by
  have due (semaphore : Semaphore) (none : semaphore.due = []) : semaphore.granted = [] := by
    unfold Semaphore.due at none
    split at none
    · exact (List.append_eq_nil_iff.mp none).1
    · exact none
  obtain ⟨slots, available⟩ := List.append_eq_nil_iff.mp settled.1
  exact ⟨due _ slots, due _ available⟩

/-- What a call makes of a session that begins it and runs it at once. -/
private theorem Sound.begins (sound : s.Sound capacity) (positive : 0 < capacity)
    (settled : s.Settled) {now : Instant} {client : Client} {call : Call α} {next : Session α}
    (played : play Session.act [.begin client call, .step now client] s.session = some next) :
    next.Sound capacity ∧ next.Calm ((client :: s.awake).filter next.unparked) ∧
      client ∉ s.session.queue.slots.line ∧
      (∀ other, other ≠ client → next.calls other = s.session.calls other) ∧
      ∃ outcome, OpenCall.step now client ⟨call, false⟩ s.session.queue =
          some (next.queue, outcome) ∧
        next.calls client = outcome.getLeft? ∧
        next.accepted = s.session.accepted ++
          (OpenCall.record client call outcome).flatMap Ended.accepted := by
  obtain ⟨begun, began, played⟩ := play_cons played
  obtain ⟨_, moved, ended⟩ := play_cons played
  cases ended
  have fair := sound.session.act began
  obtain ⟨held, queue, started, past⟩ := Session.begin_of_act began
  have holds : begun.calls client = some ⟨call, false⟩ := by
    rw [started, Function.update_self]
  obtain ⟨outcome, stepped, calls, told⟩ := Session.step_of_act holds moved
  refine ⟨fair.act moved, ?_, ?_, fun other different => ?_, outcome, queue ▸ stepped, ?_,
    past ▸ told⟩
  · obtain ⟨none, quiet⟩ := granted_of_settled settled
    refine Session.Calm.step fair positive holds (fun other call different going => ?_) ?_ ?_
      (fun _ _ => ?_) (fun _ _ _ _ => ?_) moved
    · rw [started, Function.update_of_ne different] at going
      exact sound.calm.newcomers other call going
    · rw [queue]
      exact sound.calm.orderly
    · rw [queue]
      exact sound.calm.alone
    · rw [queue]
      exact none
    · rw [queue]
      exact ⟨quiet, settled.2⟩
  · rw [sound.session.line client, held]
    exact Bool.false_ne_true
  · rw [calls, Function.update_of_ne different, started, Function.update_of_ne different]
  · rw [calls, Function.update_self]

/-- A call that begins draws a number. -/
private theorem Sound.ask (sound : s.Sound capacity) (positive : 0 < capacity)
    (settled : s.Settled) {now : Instant} {client : Client} {call : Call α} {next : Session α}
    (played : play Session.act [.begin client call, .step now client] s.session = some next) :
    ({ s.note client (call.job?.map fun job => ⟨s.drawn, client, job⟩) next with
      drawn := s.drawn + 1 } : Turnstile α).Sound capacity := by
  obtain ⟨session, calm, away, others, outcome, stepped, own, told⟩ :=
    sound.begins positive settled played
  have effect := OpenCall.step_effect sound.session.balanced stepped
  have whole : s.waiting.filter (·.client != client) = s.waiting :=
    filter_client_of_absent (sound.line ▸ away)
  -- a call that does not line up and sends nothing
  have aside (idle : outcome.getLeft?.any OpenCall.awaitsSlot = false)
      (line : next.queue.slots.line = s.session.queue.slots.line)
      (none : (OpenCall.record client call outcome).flatMap Ended.accepted = []) :
      ({ s.note client (call.job?.map fun job => ⟨s.drawn, client, job⟩) next with
        drawn := s.drawn + 1 } : Turnstile α).Sound capacity := by
    have same : next.accepted = s.session.accepted := by
      rw [told, none, List.append_nil]
    exact sound.idle client session calm others (line.trans (List.erase_of_not_mem away).symm) same
      (served_note_of_same client _ same) (waiting_note_of_idle _ (own ▸ idle))
      (Nat.le_succ s.drawn)
  cases call with
  | recv =>
      obtain ⟨line, idle, none⟩ := effect.of_receiver rfl
      exact aside idle line none
  | ready =>
      obtain ⟨line, idle, none⟩ := effect.of_receiver rfl
      exact aside idle line none
  | send job deadline =>
      rcases OpenCall.step_of_new_sender stepped with rfl | ⟨rfl, opened, free⟩ | ⟨fault, rfl⟩
      · have same : next.accepted = s.session.accepted := told.trans (List.append_nil _)
        have waits := waiting_note_of_waits (s := s) (some ⟨s.drawn, client, job⟩)
          (own ▸ rfl : (next.calls client).any OpenCall.awaitsSlot = true)
        refine sound.moved client [] [⟨s.drawn, client, job⟩] [⟨s.drawn, client, job⟩]
          session calm others ?_ (fun ticket joins => ?_)
          (same.trans (List.append_nil _).symm)
          ((served_note_of_same client _ same).trans (List.append_nil _).symm) waits ?_
          (fun ticket drawn => ?_) (Nat.le_refl 1) (Nat.le_refl _)
        · rw [List.erase_of_not_mem away]
          exact effect.line
        · obtain rfl := List.mem_singleton.mp joins
          exact ⟨deadline, own⟩
        · rw [whole] at waits
          exact waits ▸ List.Sublist.refl _
        · rw [List.mem_singleton.mp drawn]
      · have idle : (next.calls client).any OpenCall.awaitsSlot = false := own ▸ rfl
        have nobody : s.waiting = [] := by
          by_contra someone
          exact free ((sound.calm.orderly opened).paced (sound.line_ne_nil someone)).1
        have waits := waiting_note_of_idle (s := s) (some ⟨s.drawn, client, job⟩) idle
        refine sound.moved client [⟨s.drawn, client, job⟩] [] [⟨s.drawn, client, job⟩]
          session calm others ?_ (fun _ joins => absurd joins List.not_mem_nil) told
          (served_note_of_more client _ told) (waits.trans (List.append_nil _).symm) ?_
          (fun ticket drawn => ?_) (Nat.le_refl 1) (Nat.le_refl _)
        · rw [List.erase_of_not_mem away]
          exact effect.line
        · rw [nobody, List.nil_append]
          exact List.cons_sublist_cons.mpr
            (List.sublist_nil.mpr (waits.trans (whole.trans nobody)))
        · rw [List.mem_singleton.mp drawn]
      · exact aside rfl (effect.line.trans (List.append_nil _)) rfl

/-- **Every move keeps the tickets in order.** -/
theorem Sound.act {move : TurnstileMove α} (sound : s.Sound capacity) (positive : 0 < capacity)
    (moved : s.act move = some t) : t.Sound capacity := by
  cases move with
  | ask now client call =>
      simp only [Turnstile.act, Option.ite_none_right_eq_some, Option.map_eq_some_iff] at moved
      obtain ⟨settled, next, played, rfl⟩ := moved
      exact sound.ask positive settled played
  | turn now client =>
      have whole := moved
      simp only [Turnstile.act, Option.map_eq_some_iff] at moved
      obtain ⟨next, moved, rfl⟩ := moved
      cases held : s.session.calls client with
      | none => simp only [Session.act, held, reduceCtorEq] at moved
      | some pending =>
          obtain ⟨call, parked⟩ := pending
          cases call with
          | recv => exact sound.look positive held rfl moved
          | ready => exact sound.look positive held rfl moved
          | send job deadline =>
              cases parked with
              | false => cases (sound.calm.newcomers client _ held).1
              | true =>
                  have waits : client ∈ s.waiting.map Ticket.client := by
                    rw [← sound.line, sound.session.line client, held]
                    rfl
                  obtain ⟨ticket, member, rfl⟩ := List.mem_map.mp waits
                  by_cases ready : s.session.queue.isClosed = false ∧
                      ticket.client ∈ s.session.queue.slots.granted
                  · obtain ⟨t, _, served, _, kept, _⟩ :=
                      sound.serve positive ready.1 member ready.2 now
                    cases served.symm.trans whole
                    exact kept
                  · exact (sound.leave positive member ready whole).1
  | abandon client =>
      simp only [Turnstile.act, Option.map_eq_some_iff] at moved
      obtain ⟨next, moved, rfl⟩ := moved
      cases held : s.session.calls client with
      | none => simp only [Session.act, held, reduceCtorEq] at moved
      | some pending => exact (sound.abandon held moved).1
  | tryRecv =>
      simp only [Turnstile.act, Option.ite_none_right_eq_some, Option.map_eq_some_iff] at moved
      obtain ⟨settled, next, moved, rfl⟩ := moved
      have session := sound.session.act moved
      have earlier (opened : next.queue.isClosed = false) : s.session.queue.isClosed = false :=
        Bool.eq_false_iff.mpr fun closed =>
          Bool.noConfusion (opened.symm.trans (sound.session.isClosed_act moved closed))
      cases moved
      refine ⟨session, ⟨sound.calm.newcomers, fun opened => ?_, fun _ _ => settled.2⟩, ?_,
        sound.tickets, sound.order, sound.drawn, ?_⟩
      · exact (sound.calm.orderly (earlier opened)).tryRecv sound.session.balanced (earlier opened)
          (granted_of_settled settled).1
      · exact s.session.queue.line_tryRecv.trans sound.line
      · exact (List.flatMap_append.trans (List.append_nil _)).trans sound.accepted
  | close =>
      simp only [Turnstile.act, Option.ite_none_right_eq_some, Option.map_eq_some_iff] at moved
      obtain ⟨settled, next, moved, rfl⟩ := moved
      have session := sound.session.act moved
      cases moved
      refine ⟨session, ⟨sound.calm.newcomers, fun opened => ?_, fun opened => ?_⟩, sound.line,
        sound.tickets, sound.order, sound.drawn, sound.accepted⟩
      · cases opened
      · cases opened

theorem sound_of_play {name : String} {moves : List (TurnstileMove α)}
    (played : play act moves (make name capacity) = some s) : s.Sound (max capacity 1) :=
  have positive : 0 < max capacity 1 := Nat.lt_of_lt_of_le Nat.zero_lt_one (Nat.le_max_right ..)
  play_keeps (fun _ _ _ _ sound moved => sound.act positive moved) (fun _ _ => trivial)
    (sound_make name capacity) played

end Turnstile

end RepoCollector
