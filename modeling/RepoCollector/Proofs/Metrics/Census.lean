import RepoCollector.Proofs.Metrics.Series
import RepoCollector.Proofs.Metrics.Tally
import RepoCollector.Proofs.Play

/-! # A census of jobs

A census is everything that happens to the collectors of a process and to its registry, in any
order: collectors are made and cloned, events are reported through the clones, somebody takes a
snapshot or reads what is exported, queues are sampled, and the registry is initialized, once or
more often.  A clone of a collector is one more handle of it.  A census keeps what every move was
answered.

No report is lost, and the three views agree (`RepoCollector.Census.counts_every_report`): a
snapshot counts what was reported through any handle of its collector, the registry counts what was
reported through all of them since it was first initialized, and all collectors together count what
was reported at all.
-/

namespace RepoCollector

/-- Somebody who counts through a collector. -/
structure Handle where
  collector : Nat
  /-- Its number among the handles of the collector; a clone is the next one. -/
  copy : Nat
deriving DecidableEq, Repr

inductive CensusMove where
  /-- Makes a new collector, with one handle. -/
  | collector
  | clone (handle : Handle)
  | report (handle : Handle) (report : Report)
  | snapshot (handle : Handle)
  /-- Initializes the registry.  Its families may not be accepted. -/
  | init (accepted : Bool)
  /-- Sets the gauges of queues to their depths. -/
  | sample (depths : List (String × Nat))
  | exposition
deriving DecidableEq, Repr

/-- The report that is made in a move, and through which handle. -/
def CensusMove.report? : CensusMove → Option (Handle × Report)
  | .report handle told => some (handle, told)
  | _ => none

inductive CensusAnswer where
  | done
  | handle (handle : Handle)
  | tally (tally : Tally)
  | initialized (success : Bool)
  | text (text : String)
deriving DecidableEq, Repr

structure Census where
  hub : MetricsHub := {}
  /-- How many handles each collector has. -/
  handles : List Nat := []
  /-- What every move was answered. -/
  answers : List CensusAnswer := []

namespace Census

/-- Whether a move is possible: it needs a handle that was made before. -/
def allows (c : Census) : CensusMove → Bool
  | .clone handle | .report handle _ | .snapshot handle =>
    handle.copy < c.handles.getD handle.collector 0
  | .collector | .init _ | .sample _ | .exposition => true

def hubAfter (c : Census) : CensusMove → MetricsHub
  | .collector => c.hub.addCollector
  | .report handle report => c.hub.record handle.collector report
  | .init accepted => if c.hub.registry.isSome || accepted then c.hub.init else c.hub
  | .sample depths => c.hub.sample depths
  | .clone _ | .snapshot _ | .exposition => c.hub

def handlesAfter (c : Census) : CensusMove → List Nat
  | .collector => c.handles ++ [1]
  | .clone handle => c.handles.modify handle.collector (· + 1)
  | .report _ _ | .snapshot _ | .init _ | .sample _ | .exposition => c.handles

def answer (c : Census) : CensusMove → CensusAnswer
  | .collector => .handle ⟨c.handles.length, 0⟩
  | .clone handle => .handle ⟨handle.collector, c.handles.getD handle.collector 0⟩
  | .snapshot handle => .tally (c.hub.snapshot handle.collector)
  | .init accepted => .initialized (c.hub.registry.isSome || accepted)
  | .exposition => .text c.hub.exported
  | .report _ _ | .sample _ => .done

/-- Makes a move, if it is possible. -/
def act (move : CensusMove) (c : Census) : Option Census :=
  if c.allows move then
    some {
      hub := c.hubAfter move
      handles := c.handlesAfter move
      answers := c.answers ++ [c.answer move] }
  else none

/-! ## The reports of a course of moves -/

def reports (moves : List CensusMove) : List Report :=
  (moves.filterMap CensusMove.report?).map Prod.snd

/-- The reports made through a collector, whichever of its handles was used. -/
def through (collector : Nat) (moves : List CensusMove) : List Report :=
  ((moves.filterMap CensusMove.report?).filter (·.1.collector = collector)).map Prod.snd

/-- The reports made before the registry was first initialized. -/
def beforeInit (moves : List CensusMove) : List Report :=
  reports (moves.takeWhile (· ≠ .init true))

/-- The reports made since the registry was first initialized. -/
def sinceInit (moves : List CensusMove) : List Report :=
  reports (moves.dropWhile (· ≠ .init true))

variable {move : CensusMove} {past moves : List CensusMove} {c d : Census}

theorem reports_append (front back : List CensusMove) :
    reports (front ++ back) = reports front ++ reports back := by
  simp only [reports, List.filterMap_append, List.map_append]

theorem through_append (collector : Nat) (front back : List CensusMove) :
    through collector (front ++ back) = through collector front ++ through collector back := by
  simp only [through, List.filterMap_append, List.filter_append, List.map_append]

theorem reports_concat_report (past : List CensusMove) (handle : Handle) (told : Report) :
    reports (past ++ [.report handle told]) = reports past ++ [told] :=
  reports_append past _

theorem reports_concat_quiet (past : List CensusMove) (quiet : move.report? = none) :
    reports (past ++ [move]) = reports past := by
  have silent : reports [move] = [] := by simp [reports, quiet]
  rw [reports_append, silent, List.append_nil]

theorem through_concat_report (collector : Nat) (past : List CensusMove) (handle : Handle)
    (told : Report) : through collector (past ++ [.report handle told]) =
      through collector past ++ if handle.collector = collector then [told] else [] := by
  rw [through_append]
  by_cases same : handle.collector = collector
  · simp [through, CensusMove.report?, same]
  · simp [through, CensusMove.report?, same]

theorem through_concat_quiet (collector : Nat) (past : List CensusMove)
    (quiet : move.report? = none) :
    through collector (past ++ [move]) = through collector past := by
  have silent : through collector [move] = [] := by simp [through, quiet]
  rw [through_append, silent, List.append_nil]

theorem beforeInit_append_sinceInit (moves : List CensusMove) :
    beforeInit moves ++ sinceInit moves = reports moves := by
  rw [beforeInit, sinceInit, ← reports_append, List.takeWhile_append_dropWhile]

theorem sinceInit_cons (different : move ≠ .init true) :
    sinceInit (move :: moves) = sinceInit moves := by
  have dropped : (move :: moves).dropWhile (· ≠ .init true) = moves.dropWhile (· ≠ .init true) :=
    List.dropWhile_cons_of_pos (decide_eq_true different)
  rw [sinceInit, dropped, sinceInit]

/-- A report counts for the registry once it is initialized. -/
theorem sinceInit_concat (past : List CensusMove) (move : CensusMove) :
    sinceInit (past ++ [move]) =
      if .init true ∈ past then sinceInit past ++ reports [move] else [] := by
  induction past with
  | nil =>
      by_cases first : move = .init true
      · rw [first]
        rfl
      · exact sinceInit_cons first
  | cons head rest ih =>
      by_cases first : head = .init true
      · rw [first, if_pos List.mem_cons_self]
        exact reports_append rest [move]
      · have later : .init true ∈ head :: rest ↔ .init true ∈ rest :=
          List.mem_cons.trans (or_iff_right (Ne.symm first))
        simp only [List.cons_append, sinceInit_cons first, ih, later]

/-! ## What a census keeps -/

theorem act_eq_some : act move c = some d ↔ c.allows move ∧ d = {
    hub := c.hubAfter move
    handles := c.handlesAfter move
    answers := c.answers ++ [c.answer move] } := by
  rw [act]
  split
  next allowed => simp only [Option.some_inj, allowed, true_and, eq_comm]
  next => simp only [reduceCtorEq, *, Bool.false_eq_true, false_and]

/-- The collectors have counted the reports of a course of moves. -/
structure Counted (past : List CensusMove) (c : Census) : Prop where
  handles : c.handles.length = c.hub.collectors.length
  reflects : ∀ (collector : Nat) (tally : Tally), c.hub.collectors[collector]? = some tally →
    tally.Reflects (through collector past)
  beyond : ∀ collector, c.hub.collectors.length ≤ collector → through collector past = []
  whole : ∀ report,
    (c.hub.collectors.map (·.number report)).sum = (reports past).count report

/-- The registry has counted the reports of a course of moves since it was initialized. -/
structure Exported (past : List CensusMove) (c : Census) : Prop where
  none_iff : c.hub.registry = none ↔ .init true ∉ past
  reflects : ∀ registry, c.hub.registry = some registry → registry.Reflects (sinceInit past)

theorem counted_empty : Counted [] {} where
  handles := rfl
  reflects _ _ found := nomatch found
  beyond _ _ := rfl
  whole _ := rfl

theorem exported_empty : Exported [] {} where
  none_iff := ⟨fun _ => List.not_mem_nil, fun _ => rfl⟩
  reflects _ found := nomatch found

theorem length_handlesAfter (c : Census) (move : CensusMove) :
    (c.handlesAfter move).length = c.handles.length + if move = .collector then 1 else 0 := by
  cases move with
  | collector => exact List.length_append
  | clone handle => exact List.length_modify ..
  | report | snapshot | init | sample | exposition => rfl

/-- Only a report changes what the collectors that are there have counted. -/
theorem collectors_hubAfter (c : Census) (move : CensusMove) :
    (c.hubAfter move).collectors = match move with
      | .collector => c.hub.collectors ++ [{}]
      | .report handle told => c.hub.collectors.modify handle.collector (·.record told)
      | _ => c.hub.collectors := by
  cases move with
  | init accepted =>
      simp only [hubAfter]
      split <;> rfl
  | collector | clone | report | snapshot | sample | exposition => rfl

/-- A handle that may be used is one of a collector that is there. -/
theorem Counted.within (counted : Counted past c) {handle : Handle}
    (known : handle.copy < c.handles.getD handle.collector 0) :
    handle.collector < c.hub.collectors.length := by
  rw [← counted.handles]
  by_contra beyond
  rw [List.getD_eq_getElem?_getD, List.getElem?_eq_none (Nat.le_of_not_lt beyond)] at known
  exact Nat.not_lt_zero _ known

/-- What one member of a list has gained, the sum has gained. -/
private theorem sum_modify {α : Type} (size : α → Nat) {change : α → α} {more index : Nat}
    {members : List α} (within : index < members.length)
    (grows : ∀ member ∈ members, size (change member) = size member + more) :
    ((members.modify index change).map size).sum = (members.map size).sum + more := by
  obtain ⟨front, member, back, shape, _, changed⟩ := List.exists_of_modify change within
  have grown := grows member (by simp [shape])
  rw [changed, shape]
  simp only [List.map_append, List.map_cons, List.sum_append, List.sum_cons, grown]
  omega

/-- A new collector has counted nothing, and nothing was reported through it. -/
private theorem Counted.joins (counted : Counted past c)
    (collectors : d.hub.collectors = c.hub.collectors ++ [({} : Tally)])
    (handles : d.handles.length = c.handles.length + 1) :
    Counted (past ++ [.collector]) d where
  handles := by rw [handles, collectors, counted.handles, List.length_append, List.length_singleton]
  reflects collector tally found := by
    rw [collectors] at found
    rw [through_concat_quiet _ _ rfl]
    rcases Nat.lt_or_ge collector c.hub.collectors.length with before | beyond
    · rw [List.getElem?_append_left before] at found
      exact counted.reflects collector tally found
    · rw [List.getElem?_append_right beyond] at found
      rw [counted.beyond collector beyond, List.mem_singleton.mp (List.mem_of_getElem? found)]
      exact Tally.reflects_empty
  beyond collector outside := by
    rw [collectors, List.length_append] at outside
    rw [through_concat_quiet _ _ rfl]
    exact counted.beyond collector (Nat.le_of_add_right_le outside)
  whole report := by
    have none : ({} : Tally).number report = 0 := Tally.reflects_empty.number report
    rw [collectors, List.map_append, List.sum_append, counted.whole, List.map_singleton,
      List.sum_singleton, none, reports_concat_quiet _ rfl, Nat.add_zero]

/-- A report counts once, and in its own collector. -/
private theorem Counted.reports (counted : Counted past c) {handle : Handle} (told : Report)
    (within : handle.collector < c.hub.collectors.length)
    (collectors : d.hub.collectors = c.hub.collectors.modify handle.collector (·.record told))
    (handles : d.handles.length = c.handles.length) :
    Counted (past ++ [.report handle told]) d where
  handles := by rw [handles, collectors, List.length_modify, counted.handles]
  reflects collector tally found := by
    rw [collectors, List.getElem?_modify] at found
    obtain ⟨old, present, rfl⟩ := Option.map_eq_some_iff.mp found
    have before := counted.reflects collector old present
    rw [through_concat_report]
    by_cases same : handle.collector = collector
    · rw [if_pos same, if_pos same]
      exact before.record told
    · rw [if_neg same, if_neg same, List.append_nil]
      exact before
  beyond collector outside := by
    rw [collectors, List.length_modify] at outside
    have apart : handle.collector ≠ collector := Nat.ne_of_lt (Nat.lt_of_lt_of_le within outside)
    rw [through_concat_report, counted.beyond collector outside, if_neg apart]
    rfl
  whole report := by
    have grows (tally : Tally) (member : tally ∈ c.hub.collectors) :
        (tally.record told).number report =
          tally.number report + if told = report then 1 else 0 := by
      obtain ⟨collector, found⟩ := List.mem_iff_getElem?.mp member
      exact tally.number_record (counted.reflects collector tally found).rising told report
    rw [collectors, sum_modify (Tally.number · report) within grows, counted.whole,
      reports_concat_report, List.count_append, List.count_singleton]
    simp only [beq_iff_eq]

private theorem Counted.quiet (counted : Counted past c) (quiet : move.report? = none)
    (collectors : d.hub.collectors = c.hub.collectors)
    (handles : d.handles.length = c.handles.length) : Counted (past ++ [move]) d where
  handles := by rw [handles, collectors, counted.handles]
  reflects collector tally found := by
    rw [through_concat_quiet _ _ quiet]
    exact counted.reflects collector tally (collectors ▸ found)
  beyond collector outside := by
    rw [through_concat_quiet _ _ quiet]
    exact counted.beyond collector (collectors ▸ outside)
  whole report := by rw [collectors, counted.whole, reports_concat_quiet _ quiet]

/-- **Every move keeps the collectors' counts.** -/
theorem Counted.act (counted : Counted past c) (moved : act move c = some d) :
    Counted (past ++ [move]) d := by
  obtain ⟨allowed, rfl⟩ := act_eq_some.mp moved
  have collectors := c.collectors_hubAfter move
  have handles := c.length_handlesAfter move
  cases move with
  | collector => exact counted.joins collectors handles
  | report handle told =>
      exact counted.reports told (counted.within (of_decide_eq_true allowed)) collectors handles
  | clone | snapshot | init | sample | exposition => exact counted.quiet rfl collectors handles

theorem registry_hubAfter_of_none (fresh : c.hub.registry = none) (move : CensusMove) :
    (c.hubAfter move).registry = if move = .init true then some {} else none := by
  cases move with
  | init accepted => cases accepted <;> simp [hubAfter, MetricsHub.init, fresh]
  | report | sample => simp [hubAfter, MetricsHub.record, MetricsHub.sample, fresh]
  | collector | clone | snapshot | exposition => exact fresh

/-- A registry counts what is reported, and initializing it again changes nothing. -/
theorem registry_hubAfter_of_some {registry : Registry} (begun : c.hub.registry = some registry)
    (move : CensusMove) : ∃ next, (c.hubAfter move).registry = some next ∧
      ∀ told, registry.Reflects told → next.Reflects (told ++ reports [move]) := by
  cases move with
  | report handle report =>
      refine ⟨registry.record report, ?_, fun told reflects => reflects.record report⟩
      exact congrArg (Option.map (·.record report)) begun
  | sample depths =>
      refine ⟨_, congrArg (Option.map _) begun, fun told reflects => ?_⟩
      exact (List.append_nil told).symm ▸ reflects.setDepths depths
  | init accepted =>
      refine ⟨registry, ?_, fun told reflects => (List.append_nil told).symm ▸ reflects⟩
      simp [hubAfter, MetricsHub.init, begun]
  | collector | clone | snapshot | exposition =>
      exact ⟨registry, begun, fun told reflects => (List.append_nil told).symm ▸ reflects⟩

/-- **Every move keeps what the registry counts.** -/
theorem Exported.act (exported : Exported past c) (moved : act move c = some d) :
    Exported (past ++ [move]) d := by
  obtain ⟨_, rfl⟩ := act_eq_some.mp moved
  have initialized : .init true ∈ past ++ [move] ↔ .init true ∈ past ∨ move = .init true := by
    rw [List.mem_append, List.mem_singleton, eq_comm]
  cases before : c.hub.registry with
  | none =>
      have fresh := exported.none_iff.mp before
      have after := registry_hubAfter_of_none before move
      refine ⟨?_, fun registry found => ?_⟩
      · rw [initialized, after, or_iff_right fresh]
        split <;> simp [*]
      · rw [sinceInit_concat, if_neg fresh]
        rw [after] at found
        split at found
        · cases found
          exact Registry.reflects_empty
        · cases found
  | some registry =>
      have begun : .init true ∈ past := by
        by_contra fresh
        rw [exported.none_iff.mpr fresh] at before
        cases before
      obtain ⟨next, after, grows⟩ := registry_hubAfter_of_some before move
      refine ⟨?_, fun registry found => ?_⟩
      · simp [after, initialized, begun]
      · rw [after] at found
        cases found
        rw [sinceInit_concat, if_pos begun]
        exact grows _ (exported.reflects _ before)

theorem counted_of_play (played : play act moves {} = some c) : Counted moves c :=
  play_follows (fun _ _ _ _ counted moved => counted.act moved) counted_empty played

theorem exported_of_play (played : play act moves {} = some c) : Exported moves c :=
  play_follows (fun _ _ _ _ exported moved => exported.act moved) exported_empty played

theorem Counted.snapshot (counted : Counted past c) (collector : Nat) :
    (c.hub.snapshot collector).Reflects (through collector past) := by
  cases found : c.hub.collectors[collector]? with
  | some tally =>
      rw [MetricsHub.snapshot, found]
      exact counted.reflects collector tally found
  | none =>
      rw [MetricsHub.snapshot, found, counted.beyond collector (List.getElem?_eq_none_iff.mp found)]
      exact Tally.reflects_empty

/-! ## The answers of a course of moves -/

theorem length_answers (played : play act moves {} = some c) :
    c.answers.length = moves.length := by
  have kept (past : List CensusMove) (move : CensusMove) (first last : Census)
      (before : first.answers.length = past.length) (moved : act move first = some last) :
      last.answers.length = (past ++ [move]).length := by
    obtain ⟨_, rfl⟩ := act_eq_some.mp moved
    rw [List.length_append, List.length_append, before]
    rfl
  exact play_follows kept rfl played

theorem answers_prefix (played : play act moves c = some d) : c.answers <+: d.answers := by
  induction moves generalizing c with
  | nil =>
      cases played
      exact List.prefix_rfl
  | cons move moves ih =>
      obtain ⟨next, moved, rest⟩ := play_cons played
      obtain ⟨_, rfl⟩ := act_eq_some.mp moved
      exact (List.prefix_append _ _).trans (ih rest)

/-- What a move was answered is told by the census before it. -/
theorem answered {front back : List CensusMove}
    (played : play act (front ++ move :: back) {} = some c) :
    ∃ b, play act front {} = some b ∧ c.answers[front.length]? = some (b.answer move) := by
  obtain ⟨b, before, rest⟩ := play_append played
  obtain ⟨next, moved, after⟩ := play_cons rest
  obtain ⟨_, rfl⟩ := act_eq_some.mp moved
  obtain ⟨later, whole⟩ := answers_prefix after
  refine ⟨b, before, ?_⟩
  rw [← whole, ← length_answers before, List.append_assoc,
    List.getElem?_append_right (Nat.le_refl _), Nat.sub_self]
  rfl

theorem length_handles (played : play act moves {} = some c) :
    c.handles.length = moves.count .collector := by
  have kept (past : List CensusMove) (move : CensusMove) (first last : Census)
      (before : first.handles.length = past.count .collector)
      (moved : act move first = some last) :
      last.handles.length = (past ++ [move]).count .collector := by
    obtain ⟨_, rfl⟩ := act_eq_some.mp moved
    rw [length_handlesAfter, before, List.count_append, List.count_singleton]
    simp only [beq_iff_eq]
  exact play_follows kept rfl played

namespace Exported

theorem exists_registry (exported : Exported past c) (begun : .init true ∈ past) :
    ∃ registry, c.hub.registry = some registry := by
  refine Option.ne_none_iff_exists'.mp fun fresh => ?_
  exact exported.none_iff.mp fresh begun

/-- The registry is there once an initialization has succeeded. -/
theorem isSome_registry (exported : Exported past c) :
    c.hub.registry.isSome = decide (.init true ∈ past) := by
  by_cases begun : .init true ∈ past
  · obtain ⟨registry, found⟩ := exported.exists_registry begun
    rw [found, decide_eq_true begun]
    rfl
  · rw [exported.none_iff.mpr begun, decide_eq_false begun]
    rfl

/-- The text has one line for every kind and event that was reported. -/
theorem exists_lines (exported : Exported past c) (begun : .init true ∈ past) :
    ∃ (series : List Report) (depths : List (String × Nat)),
      c.hub.exported = String.join ((Registry.lines
        (series.map fun report => (report, (sinceInit past).count report)) depths).map
          (· ++ "\n")) ∧
      (series.map Report.labels).Pairwise (Registry.jobBefore · ·) ∧
      ∀ report, report ∈ series ↔ report ∈ sinceInit past := by
  obtain ⟨registry, found⟩ := exported.exists_registry begun
  obtain ⟨series, jobs, rising, listed⟩ := (exported.reflects registry found).exists_series
  refine ⟨series, registry.depths, ?_, rising, listed⟩
  rw [MetricsHub.exported, found, ← Registry.text_eq_join, List.map_map]
  exact congrArg (fun jobs => Registry.text ⟨jobs, registry.depths⟩) jobs

/-- A later initialization succeeds, and changes nothing. -/
theorem act_init (exported : Exported past c) (begun : .init true ∈ past) (accepted : Bool) :
    Census.act (.init accepted) c =
      some { c with answers := c.answers ++ [.initialized true] } := by
  obtain ⟨registry, found⟩ := exported.exists_registry begun
  obtain ⟨⟨collectors, _⟩, handles, answers⟩ := c
  cases found
  rfl

end Exported

/-- **No report is lost, and the views agree.**  Take any course of moves, in which collectors are
made and cloned, jobs of any kinds are reported through any handles, snapshots are taken, queues are
sampled, and the registry is initialized and exported, in any order.  At every moment of it:

* a clone counts through the collector of the handle that it was made of, and a new collector is
  another one than those before;
* a snapshot counts for every kind the events that were reported through any handle of its
  collector; a kind that was never reported counts zero and has no entry; the total is the sum over
  the kinds, and the number of all these reports of an event;
* nothing is exported until an initialization has succeeded.  From then on the exported text
  consists of lines that nothing breaks, and has one for every kind and event that was reported
  since, through whichever collector, in rising order, with the number of those reports;
* an initialization succeeds if the families are accepted or an earlier one has succeeded, and then
  it changes nothing;
* all collectors together have counted every report; these are the reports that the registry has
  counted and those made before it was initialized. -/
theorem counts_every_report (played : play act moves {} = some c) :
    (∀ (front back : List CensusMove) (handle : Handle), moves = front ++ .clone handle :: back →
      ∃ copy, c.answers[front.length]? = some (.handle ⟨handle.collector, copy⟩)) ∧
    (∀ front back : List CensusMove, moves = front ++ .collector :: back →
      c.answers[front.length]? = some (.handle ⟨front.count .collector, 0⟩)) ∧
    (∀ (front back : List CensusMove) (handle : Handle), moves = front ++ .snapshot handle :: back →
      ∃ tally : Tally, c.answers[front.length]? = some (.tally tally) ∧
        let told := through handle.collector front
        (∀ kind event, (tally.kind kind).count event = told.count ⟨kind, event⟩) ∧
        (∀ kind, kind ∉ told.map Report.kind → tally.kind kind = {}) ∧
        tally.byKind.Pairwise (·.1 < ·.1) ∧
        (∀ kind counts, (kind, counts) ∈ tally.byKind ↔
          kind ∈ told.map Report.kind ∧ counts = tally.kind kind) ∧
        ∀ event, tally.total.count event =
            (tally.byKind.map fun entry => (tally.kind entry.1).count event).sum ∧
          tally.total.count event = told.countP (·.event = event)) ∧
    (∀ front back : List CensusMove, moves = front ++ .exposition :: back → .init true ∉ front →
      c.answers[front.length]? = some (.text Registry.notInitialized)) ∧
    (∀ front back : List CensusMove, moves = front ++ .exposition :: back → .init true ∈ front →
      ∃ (series : List Report) (depths : List (String × Nat)),
        let told := sinceInit front
        let lines := Registry.lines (series.map fun report => (report, told.count report)) depths
        c.answers[front.length]? = some (.text (String.join (lines.map (· ++ "\n")))) ∧
        (∀ line ∈ lines, '\n' ∉ line.toList) ∧
        (∀ report count, Registry.jobLine report count ∈ lines ↔
          report ∈ told ∧ count = told.count report) ∧
        (series.map Report.labels).Pairwise (Registry.jobBefore · ·) ∧
        ∀ report, report ∈ series ↔ report ∈ told) ∧
    (∀ (front back : List CensusMove) (accepted : Bool), moves = front ++ .init accepted :: back →
      c.answers[front.length]? = some (.initialized (decide (.init true ∈ front) || accepted))) ∧
    (.init true ∈ moves → ∀ accepted,
      act (.init accepted) c = some { c with answers := c.answers ++ [.initialized true] }) ∧
    (∀ report, (c.hub.collectors.map (·.number report)).sum = (reports moves).count report) ∧
    (c.hub.registry = none ↔ .init true ∉ moves) ∧
    ∀ registry, c.hub.registry = some registry → ∀ kind event,
      registry.jobCount kind event = (sinceInit moves).count ⟨kind, event⟩ ∧
      (c.hub.collectors.map (·.number ⟨kind, event⟩)).sum =
        (beforeInit moves).count ⟨kind, event⟩ + registry.jobCount kind event := by
  have counted := counted_of_play played
  have exported := exported_of_play played
  refine ⟨fun front back handle shape => ?_, fun front back shape => ?_,
    fun front back handle shape => ?_, fun front back shape fresh => ?_,
    fun front back shape begun => ?_, fun front back accepted shape => ?_, exported.act_init,
    counted.whole, exported.none_iff, fun registry found kind event => ?_⟩
  · obtain ⟨b, before, told⟩ := answered (shape ▸ played)
    exact ⟨_, told⟩
  · obtain ⟨b, before, told⟩ := answered (shape ▸ played)
    rw [told, answer, length_handles before]
  · obtain ⟨b, before, told⟩ := answered (shape ▸ played)
    have reflects := (counted_of_play before).snapshot handle.collector
    refine ⟨_, told, fun kind event => ?_, fun kind unseen => ?_, reflects.rising,
      fun kind counts => ?_, reflects.total⟩
    · rw [reflects.kind, Counts.count_ofReports]
    · rw [reflects.kind, Counts.ofReports_of_not_mem unseen]
    · rw [reflects.mem_iff, reflects.kind]
  · obtain ⟨b, before, told⟩ := answered (shape ▸ played)
    rw [told, answer, MetricsHub.exported, (exported_of_play before).none_iff.mpr fresh]
  · obtain ⟨b, before, told⟩ := answered (shape ▸ played)
    obtain ⟨series, depths, text, rising, listed⟩ := (exported_of_play before).exists_lines begun
    refine ⟨series, depths, text ▸ told, fun _ => Registry.newline_notMem_of_mem_lines,
      fun report count => ?_, rising, listed⟩
    rw [Registry.jobLine_mem_lines, List.mem_map, ← listed]
    constructor
    · rintro ⟨other, member, same⟩
      cases same
      exact ⟨member, rfl⟩
    · rintro ⟨member, rfl⟩
      exact ⟨report, member, rfl⟩
  · obtain ⟨b, before, told⟩ := answered (shape ▸ played)
    rw [told, answer, (exported_of_play before).isSome_registry]
  · have reflects := exported.reflects registry found
    rw [counted.whole, ← beforeInit_append_sinceInit, List.count_append, reflects.jobCount]
    exact ⟨rfl, rfl⟩

/-- One collector has three handles and the other one has one.  The first initialization is refused,
the second succeeds after a report was made, and two more follow. -/
def busyMorning : List CensusMove :=
  [.collector, .clone ⟨0, 0⟩, .report ⟨0, 0⟩ ⟨"a\"b", .discovered⟩, .init false, .exposition,
    .collector, .init true, .clone ⟨0, 1⟩, .report ⟨0, 2⟩ ⟨"a\"b", .succeeded⟩,
    .report ⟨1, 0⟩ ⟨"a\"b", .succeeded⟩, .sample [("q", 3)], .init false,
    .report ⟨0, 1⟩ ⟨"", .failed⟩, .init true, .snapshot ⟨0, 0⟩, .exposition]

theorem busyMorning_account : (play act busyMorning {}).isSome = true := by
  decide +kernel

theorem counts_every_report_busyMorning : ∃ c : Census, play act busyMorning {} = some c ∧
    c.answers[4]? = some (.text Registry.notInitialized) ∧
    c.answers[11]? = some (.initialized true) ∧
    (∃ tally : Tally, c.answers[14]? = some (.tally tally) ∧
      (tally.kind "a\"b").count .discovered = 1 ∧ (tally.kind "a\"b").count .succeeded = 1 ∧
      tally.kind "update" = {} ∧ tally.total.count .failed = 1) ∧
    (∃ lines : List String, c.answers[15]? = some (.text (String.join (lines.map (· ++ "\n")))) ∧
      "gitcollector_jobs_total\x7bevent=\"succeeded\",kind=\"a\\\"b\"\x7d 2" ∈ lines ∧
      "gitcollector_jobs_total\x7bevent=\"discovered\",kind=\"a\\\"b\"\x7d 1" ∉ lines) ∧
    ∃ registry : Registry, c.hub.registry = some registry ∧
      registry.jobCount "a\"b" .succeeded = 2 := by
  obtain ⟨c, played⟩ := Option.isSome_iff_exists.mp busyMorning_account
  obtain ⟨_, _, snapshots, unexported, exposed, inits, _, _, none_iff, exported⟩ :=
    counts_every_report played
  obtain ⟨tally, told, counts, unseen, _, _, total⟩ :=
    snapshots (busyMorning.take 14) (busyMorning.drop 15) ⟨0, 0⟩ rfl
  obtain ⟨series, depths, text, _, shown, _, _⟩ :=
    exposed (busyMorning.take 15) [] rfl (by decide +kernel)
  obtain ⟨registry, found⟩ := Option.ne_none_iff_exists'.mp
    (mt none_iff.mp (not_not_intro (by decide +kernel)))
  refine ⟨c, played, unexported (busyMorning.take 4) (busyMorning.drop 5) rfl (by decide +kernel),
    inits (busyMorning.take 11) (busyMorning.drop 12) false rfl, ⟨tally, told, ?_, ?_, ?_, ?_⟩,
    ⟨_, text, ?_, ?_⟩, registry, found, ?_⟩
  · rw [counts]
    decide +kernel
  · rw [counts]
    decide +kernel
  · exact unseen _ (by decide +kernel)
  · rw [(total .failed).2]
    decide +kernel
  · exact (shown ⟨"a\"b", .succeeded⟩ 2).mpr (by decide +kernel)
  · exact mt (shown ⟨"a\"b", .discovered⟩ 1).mp (by decide +kernel)
  · rw [(exported registry found _ _).1]
    decide +kernel

end Census

end RepoCollector
