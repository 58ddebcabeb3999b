import RepoCollector.Proofs.Queue.Turnstile

/-! # First come, first served

Whoever waits at a turnstile and stays is served before everybody who came later, and the senders
that have waited longest are served first, as many as jobs were received
(`RepoCollector.Turnstile.serves_in_turn`).
-/

namespace RepoCollector

namespace Turnstile

variable {α : Type} {capacity : Nat} {s t : Turnstile α}

/-- Those that waited at an earlier time, without those that have left the line since and were not
served. -/
def stayers (s t : Turnstile α) : List (Ticket α) :=
  s.waiting.filter fun ticket => ticket.number ∈ (t.served ++ t.waiting).map Ticket.number

/-! ## Later on -/

/-- What holds between a turnstile and what becomes of it. -/
structure Later (s t : Turnstile α) : Prop where
  served : s.served <+: t.served
  drawn : s.drawn ≤ t.drawn
  known : ∀ ticket ∈ t.served ++ t.waiting,
    ticket ∈ s.served ++ s.waiting ∨ s.drawn ≤ ticket.number
  closed : s.session.queue.isClosed = true → t.session.queue.isClosed = true

theorem Later.refl (s : Turnstile α) : s.Later s :=
  ⟨List.prefix_rfl, Nat.le_refl _, fun _ member => Or.inl member, id⟩

theorem Later.trans {u : Turnstile α} (one : s.Later t) (two : t.Later u) : s.Later u := by
  refine ⟨one.served.trans two.served, Nat.le_trans one.drawn two.drawn, fun ticket member => ?_,
    two.closed ∘ one.closed⟩
  rcases two.known ticket member with before | late
  · exact one.known ticket before
  · exact Or.inr (Nat.le_trans one.drawn late)

private theorem later_note {client : Client} {ticket : Option (Ticket α)} {next : Session α}
    (known : ∀ noted ∈ ticket, noted ∈ s.waiting ∨ s.drawn ≤ noted.number)
    (closed : s.session.queue.isClosed = true → next.queue.isClosed = true) :
    s.Later (s.note client ticket next) := by
  have given (drawn : Prop) [Decidable drawn] (noted : Ticket α)
      (member : noted ∈ if drawn then ticket.toList else []) :
      noted ∈ s.served ++ s.waiting ∨ s.drawn ≤ noted.number := by
    split at member
    · exact (known noted (Option.mem_toList.mp member)).imp_left (List.mem_append_right _)
    · exact absurd member List.not_mem_nil
  refine ⟨List.prefix_append .., Nat.le_refl _, fun noted member => ?_, closed⟩
  rcases List.mem_append.mp member with served | waits
  · rcases List.mem_append.mp served with before | now
    · exact Or.inl (List.mem_append_left _ before)
    · exact given _ noted now
  · rcases List.mem_append.mp waits with before | now
    · exact Or.inl (List.mem_append_right _ (List.mem_of_mem_filter before))
    · exact given _ noted now

theorem Sound.later {move : TurnstileMove α} (sound : s.Sound capacity)
    (moved : s.act move = some t) : s.Later t := by
  cases move with
  | ask now client call =>
      simp only [Turnstile.act, Option.ite_none_right_eq_some, Option.map_eq_some_iff] at moved
      obtain ⟨_, next, played, rfl⟩ := moved
      obtain ⟨begun, began, played⟩ := play_cons played
      obtain ⟨_, moved, ended⟩ := play_cons played
      cases ended
      have noted :
          s.Later (s.note client (call.job?.map fun job => ⟨s.drawn, client, job⟩) next) := by
        refine later_note (fun ticket drawn => ?_) fun closed =>
          (sound.session.act began).isClosed_act moved (sound.session.isClosed_act began closed)
        obtain ⟨job, _, rfl⟩ := Option.map_eq_some_iff.mp drawn
        exact Or.inr (Nat.le_refl s.drawn)
      exact ⟨noted.served, Nat.le_succ s.drawn, noted.known, noted.closed⟩
  | turn now client =>
      simp only [Turnstile.act, Option.map_eq_some_iff] at moved
      obtain ⟨next, moved, rfl⟩ := moved
      exact later_note (fun ticket found => Or.inl (List.mem_of_find?_eq_some found))
        (sound.session.isClosed_act moved)
  | abandon client =>
      simp only [Turnstile.act, Option.map_eq_some_iff] at moved
      obtain ⟨next, moved, rfl⟩ := moved
      exact later_note (fun ticket none => absurd none (Option.not_mem_none ticket))
        (sound.session.isClosed_act moved)
  | tryRecv =>
      simp only [Turnstile.act, Option.ite_none_right_eq_some, Option.map_eq_some_iff] at moved
      obtain ⟨_, next, moved, rfl⟩ := moved
      exact ⟨List.prefix_rfl, Nat.le_refl _, fun _ member => Or.inl member,
        sound.session.isClosed_act moved⟩
  | close =>
      simp only [Turnstile.act, Option.ite_none_right_eq_some, Option.map_eq_some_iff] at moved
      obtain ⟨_, next, moved, rfl⟩ := moved
      exact ⟨List.prefix_rfl, Nat.le_refl _, fun _ member => Or.inl member,
        sound.session.isClosed_act moved⟩

theorem Sound.later_of_play (sound : s.Sound capacity) (positive : 0 < capacity)
    {moves : List (TurnstileMove α)} (played : play Turnstile.act moves s = some t) :
    t.Sound capacity ∧ s.Later t :=
  play_keeps (fun _ first _ _ (both : first.Sound capacity ∧ s.Later first) moved =>
    ⟨both.1.act positive moved, both.2.trans (both.1.later moved)⟩) (fun _ _ => trivial)
    ⟨sound, .refl s⟩ played

/-! ## Who is served -/

/-- A number is drawn only once. -/
private theorem Sound.eq_of_number (sound : s.Sound capacity) {one two : Ticket α}
    (first : one ∈ s.served ++ s.waiting) (second : two ∈ s.served ++ s.waiting)
    (same : one.number = two.number) : one = two := by
  have once : ((s.served ++ s.waiting).map Ticket.number).Nodup :=
    List.pairwise_map.mpr (sound.order.imp Nat.ne_of_lt)
  exact List.inj_on_of_nodup_map once first second same

/-- Nobody who was served waits, and whoever waits came after those that were served. -/
private theorem Sound.before (sound : s.Sound capacity) {one two : Ticket α}
    (served : one ∈ s.served) (waits : two ∈ s.waiting) : one.Before two :=
  (List.pairwise_append.mp sound.order).2.2 one served two waits

/-- Those that were served in the meantime, and those that wait, are those that waited and stayed,
and after them those that began later. -/
private theorem Sound.split (sound : s.Sound capacity) (sound' : t.Sound capacity)
    (later : s.Later t) {more : List (Ticket α)} (served : s.served ++ more = t.served) :
    more ++ t.waiting =
      s.stayers t ++ (more ++ t.waiting).filter (s.drawn ≤ ·.number) := by
  have order := sound'.order
  rw [← served, List.append_assoc, List.pairwise_append] at order
  have stays : (s.stayers t).Sublist s.waiting := List.filter_sublist
  refine List.Pairwise.eq_of_mem_iff order.2.1 ?_ fun ticket => ?_
  · refine List.pairwise_append.mpr ⟨?_, order.2.1.sublist List.filter_sublist,
      fun old before new after => ?_⟩
    · exact ((List.pairwise_append.mp sound.order).2.1).sublist stays
    · have drawn := sound.drawn old (List.mem_append_right _ (stays.subset before))
      exact Nat.lt_of_lt_of_le drawn (of_decide_eq_true (List.mem_filter.mp after).2)
  · constructor
    · intro member
      have here : ticket ∈ t.served ++ t.waiting := by
        rw [← served, List.append_assoc]
        exact List.mem_append_right _ member
      rcases later.known ticket here with old | new
      · rcases List.mem_append.mp old with past | waited
        · exact absurd (order.2.2 ticket past ticket member) (Nat.lt_irrefl _)
        · refine List.mem_append_left _ (List.mem_filter.mpr ⟨waited, decide_eq_true ?_⟩)
          exact List.mem_map_of_mem here
      · exact List.mem_append_right _ (List.mem_filter.mpr ⟨member, decide_eq_true new⟩)
    · intro member
      rcases List.mem_append.mp member with stayed | new
      · obtain ⟨waited, still⟩ := List.mem_filter.mp stayed
        obtain ⟨other, here, same⟩ := List.mem_map.mp (of_decide_eq_true still)
        have drawn := sound.drawn ticket (List.mem_append_right _ waited)
        rcases later.known other here with old | new
        · obtain rfl := sound.eq_of_number old (List.mem_append_right _ waited) same
          rw [← served, List.append_assoc] at here
          rcases List.mem_append.mp here with past | now
          · exact absurd (sound.before past waited) (Nat.lt_irrefl _)
          · exact now
        · rw [same] at new
          exact absurd new (Nat.not_le_of_lt drawn)
      · exact List.mem_of_mem_filter new

/-- A queue that somebody waits for is full. -/
private theorem Sound.full (sound : s.Sound capacity) (settled : s.Settled)
    (opened : s.session.queue.isClosed = false) (someone : s.waiting ≠ []) :
    s.session.queue.size = capacity := by
  rw [(sound.calm.orderly opened).size_eq sound.session.balanced opened
    (granted_of_settled settled).1 (sound.line_ne_nil someone), sound.session.capacity]

private theorem Sound.length_served (sound : s.Sound capacity) :
    s.served.length = s.session.received.length + s.session.queue.size := by
  have conserved := congrArg List.length (sound.session.conserved.trans sound.accepted)
  rw [List.length_append, List.length_map] at conserved
  exact conserved.symm

/-- **Those that have waited longest are served first**, as many as jobs were received. -/
private theorem Sound.serves_longest (sound : s.Sound capacity) (sound' : t.Sound capacity)
    (later : s.Later t) (settled : s.Settled) (settled' : t.Settled)
    (opened : t.session.queue.isClosed = false) {k : Nat}
    (received : t.session.received.length = s.session.received.length + k) :
    ∃ others rest, t.served = s.served ++ ((s.stayers t).take k ++ others) ∧
      t.waiting = (s.stayers t).drop k ++ rest ∧
      ((s.stayers t).drop k ≠ [] → others = []) := by
  obtain ⟨more, served⟩ := later.served
  have split := sound.split sound' later served
  generalize (more ++ t.waiting).filter (s.drawn ≤ ·.number) = fresh at split
  have earlier : s.session.queue.isClosed = false := Bool.eq_false_iff.mpr fun closed =>
    Bool.noConfusion (opened.symm.trans (later.closed closed))
  have before := sound.length_served
  have after := sound'.length_served
  rw [← served, List.length_append, before, received] at after
  have bound : t.session.queue.size ≤ capacity :=
    sound'.session.capacity ▸ sound'.session.balanced.bound
  have full (stayed : s.stayers t ≠ []) : s.session.queue.size = capacity := by
    refine sound.full settled earlier fun nobody => ?_
    rw [stayers, nobody] at stayed
    exact stayed rfl
  have few (stayed : s.stayers t ≠ []) : more.length ≤ k := by
    have before := full stayed
    omega
  rcases List.append_eq_append_iff.mp split with ⟨left, stayed, waits⟩ | ⟨others, entered, rest⟩
  · have exactly : (s.stayers t).take k = more ∧ (s.stayers t).drop k = left := by
      rw [stayed]
      cases left with
      | nil =>
          have some : more.length ≤ k := by
            cases more with
            | nil => exact Nat.zero_le k
            | cons first others => exact few (stayed ▸ List.cons_ne_nil _ _)
          rw [List.append_nil]
          exact ⟨List.take_of_length_le some, List.drop_of_length_le some⟩
      | cons first others =>
          have before := full (stayed ▸ List.append_ne_nil_of_right_ne_nil _ (List.cons_ne_nil _ _))
          have after := sound'.full settled' opened (waits ▸ List.cons_ne_nil _ _)
          have all : k = more.length := by omega
          rw [all]
          exact ⟨List.take_left, List.drop_left⟩
    refine ⟨[], fresh, ?_, ?_, fun _ => rfl⟩
    · rw [exactly.1, List.append_nil, served]
    · rw [exactly.2, waits]
  · have short : (s.stayers t).length ≤ k := by
      by_contra more_left
      have stayed : s.stayers t ≠ [] := by
        intro nobody
        rw [nobody] at more_left
        exact more_left (Nat.zero_le k)
      have few := few stayed
      rw [entered, List.length_append] at few
      omega
    refine ⟨others, t.waiting, ?_, ?_, fun some => ?_⟩
    · rw [← served, entered, List.take_of_length_le short]
    · rw [List.drop_of_length_le short, List.nil_append]
    · exact absurd (List.drop_of_length_le short) some

/-- Whoever leaves the line takes no slot, and its place passes to the next. -/
private theorem Sound.passes_on (sound : s.Sound capacity) (positive : 0 < capacity)
    {ticket : Ticket α} (member : ticket ∈ s.waiting) {move : TurnstileMove α}
    (leaves : move = .abandon ticket.client ∨ ∃ now, move = .turn now ticket.client)
    (moved : s.act move = some t) (unserved : t.served = s.served) :
    t.session.queue.items = s.session.queue.items ∧
      t.session.queue.slots.supply = s.session.queue.slots.supply ∧
      t.waiting = s.waiting.filter (·.client != ticket.client) ∧
      (s.session.queue.isClosed = false → t.session.queue.slots.granted =
        (t.waiting.take s.session.queue.slots.granted.length).map Ticket.client) := by
  have left : t.waiting = s.waiting.filter (·.client != ticket.client) ∧
      t.session.queue = s.session.queue.abandonSend ticket.client := by
    rcases leaves with rfl | ⟨now, rfl⟩
    · obtain ⟨deadline, held⟩ := sound.tickets ticket member
      simp only [Turnstile.act, Option.map_eq_some_iff] at moved
      obtain ⟨next, moved, rfl⟩ := moved
      obtain ⟨_, _, waiting, queue⟩ := sound.abandon held moved
      exact ⟨waiting, queue⟩
    · by_cases ready : s.session.queue.isClosed = false ∧
          ticket.client ∈ s.session.queue.slots.granted
      · obtain ⟨u, _, served, _, _, more, _⟩ := sound.serve positive ready.1 member ready.2 now
        cases served.symm.trans moved
        exact absurd (List.append_right_eq_self.mp (more.symm.trans unserved))
          (List.cons_ne_nil ticket [])
      · exact (sound.leave positive member ready moved).2.2
  obtain ⟨waiting, queue⟩ := left
  refine ⟨by rw [queue]; rfl, ?_, waiting, fun opened => ?_⟩
  · rw [queue]
    exact s.session.queue.slots.supply_abandon ticket.client
  · have line := map_filter_client sound.nodup ticket.client
    rw [← sound.line, ← waiting] at line
    rw [queue, List.map_take, line]
    exact Semaphore.granted_abandon opened ticket.client

/-- **Waiting senders are served first come, first served.**  Whatever clients do with a queue, as
long as whoever was woken is run before the queue is used again:

* the sends whose jobs were put into the queue, and after them those in line, are in the order in
  which they began; the jobs received, followed by the buffered ones, are theirs, in this order; and
  in line are the sends that wait;
* a send that begins while another one waits is not served as long as that one waits, and after it
  if both are;
* however many jobs were received between two moments, so many of those that waited and stayed are
  served in the meantime, the longest waiting first; the others still wait, ahead of whoever came
  later, and nobody who came later was served;
* a sender that was granted a slot takes it when it is run, even after its deadline;
* one that gives up, or is late, takes no slot: as many slots as before are on their way, to those
  that are now the first in line. -/
theorem serves_in_turn (name : String) (capacity : Nat) {moves : List (TurnstileMove α)}
    (played : play act moves (make name capacity) = some s) :
    ((s.served ++ s.waiting).Pairwise Ticket.Before ∧
      s.session.received ++ s.session.queue.items = s.served.map Ticket.job ∧
      ∀ client job, (∃ deadline, s.session.calls client = some ⟨.send job deadline, true⟩) ↔
        ∃ ticket ∈ s.waiting, ticket.client = client ∧ ticket.job = job) ∧
    (∀ more t, play act more s = some t →
      (∀ first ∈ s.waiting, ∀ late ∈ t.served, late ∉ s.served ++ s.waiting →
        first ∉ t.waiting ∧ (first ∈ t.served → first.Before late)) ∧
      ∀ k, s.Settled → t.Settled → t.session.queue.isClosed = false →
        t.session.received.length = s.session.received.length + k →
        ∃ others rest, t.served = s.served ++ ((s.stayers t).take k ++ others) ∧
          t.waiting = (s.stayers t).drop k ++ rest ∧
          ((s.stayers t).drop k ≠ [] → others = [])) ∧
    (∀ ticket ∈ s.waiting, s.session.queue.isClosed = false →
      ticket.client ∈ s.session.queue.slots.granted → ∀ now, ∃ t,
        s.act (.turn now ticket.client) = some t ∧ t.served = s.served ++ [ticket] ∧
        t.session.queue.items = s.session.queue.items ++ [ticket.job]) ∧
    (∀ ticket ∈ s.waiting, ∀ move t,
      (move = .abandon ticket.client ∨ ∃ now, move = .turn now ticket.client) →
      s.act move = some t → t.served = s.served →
        t.session.queue.items = s.session.queue.items ∧
        t.session.queue.slots.supply = s.session.queue.slots.supply ∧
        t.waiting = s.waiting.filter (·.client != ticket.client) ∧
        (s.session.queue.isClosed = false → t.session.queue.slots.granted =
          (t.waiting.take s.session.queue.slots.granted.length).map Ticket.client)) := by
  have positive : 0 < max capacity 1 := Nat.lt_of_lt_of_le Nat.zero_lt_one (Nat.le_max_right ..)
  have sound := sound_of_play played
  refine ⟨⟨sound.order, sound.session.conserved.trans sound.accepted, fun client job => ?_⟩,
    fun more t continued => ?_, ?_, ?_⟩
  · constructor
    · rintro ⟨deadline, held⟩
      have waits : client ∈ s.waiting.map Ticket.client := by
        rw [← sound.line, sound.session.line client, held]
        rfl
      obtain ⟨ticket, member, rfl⟩ := List.mem_map.mp waits
      obtain ⟨_, own⟩ := sound.tickets ticket member
      cases own.symm.trans held
      exact ⟨ticket, member, rfl, rfl⟩
    · rintro ⟨ticket, member, rfl, rfl⟩
      exact sound.tickets ticket member
  · obtain ⟨sound', later⟩ := sound.later_of_play positive continued
    refine ⟨fun first waited late served new => ?_, fun k settled settled' opened received =>
      sound.serves_longest sound' later settled settled' opened received⟩
    have drawn := sound.drawn first (List.mem_append_right _ waited)
    have known := later.known late (List.mem_append_left _ served)
    have before : first.Before late :=
      Nat.lt_of_lt_of_le drawn (known.resolve_left new)
    exact ⟨fun waits => Nat.lt_asymm before (sound'.before served waits), fun _ => before⟩
  · intro ticket member opened granted now
    obtain ⟨t, _, moved, _, _, served, _, _, items⟩ :=
      sound.serve positive opened member granted now
    exact ⟨t, moved, served, items⟩
  · intro ticket member move t leaves moved unserved
    exact sound.passes_on positive member leaves moved unserved

/-- Three senders wait at a full queue. -/
def queueing : List (TurnstileMove Nat) :=
  [.ask 0 (.task 1) (.send 10 none), .ask 0 (.task 2) (.send 20 none),
    .ask 0 (.task 3) (.send 30 (some 5)), .ask 0 (.task 4) (.send 40 none)]

/-- A job is received, the first in line gives up the slot that was granted to it, and the next
takes it although its deadline has passed. -/
def passing : List (TurnstileMove Nat) :=
  [.tryRecv, .abandon (.task 2), .turn 7 (.task 3)]

theorem queueing_account :
    (play act queueing (make "queueing" 1)).map (fun s =>
      (s.waiting.map Ticket.number, s.session.received, decide s.Settled)) =
      some ([1, 2, 3], [], true) := by
  decide +kernel

theorem passing_account :
    (play act (queueing ++ passing) (make "queueing" 1)).map (fun t =>
      (t.served.map Ticket.number, t.session.received, decide t.Settled,
        t.session.queue.isClosed)) =
      some ([0, 2], [10], true, false) := by
  decide +kernel

theorem serves_in_turn_queueing :
    ∃ s t, play act queueing (make "queueing" 1) = some s ∧ play act passing s = some t ∧
      s.waiting.map Ticket.number = [1, 2, 3] ∧ t.served.map Ticket.number = [0, 2] ∧
      ∃ others rest, t.served = s.served ++ ((s.stayers t).take 1 ++ others) ∧
        t.waiting = (s.stayers t).drop 1 ++ rest := by
  obtain ⟨t, whole, account⟩ := Option.map_eq_some_iff.mp passing_account
  obtain ⟨s, before, played⟩ := play_append whole
  obtain ⟨_, again, start⟩ := Option.map_eq_some_iff.mp queueing_account
  cases again.symm.trans before
  simp only [Prod.mk.injEq, decide_eq_true_eq] at account start
  obtain ⟨served, received, settled, opened⟩ := account
  obtain ⟨waiting, none, calm⟩ := start
  have longest :=
    ((serves_in_turn "queueing" 1 before).2.1 passing t played).2 1 calm settled opened
  obtain ⟨others, rest, entered, waits, _⟩ := longest (by rw [received, none]; rfl)
  exact ⟨s, t, before, played, waiting, served, others, rest, entered, waits⟩

end Turnstile

end RepoCollector
