import RepoCollector.Metrics.Exposition
import RepoCollector.Proofs.Metrics.Entries

/-! # What a tally counts

A tally keeps its entries in rising order of the kinds (`RepoCollector.Tally.IsRising`).  That is
what makes a count the number of events that were recorded, since a kind has one entry only
(`RepoCollector.Tally.number_record`), whatever the kinds are called.

A tally reflects a list of reports if its entries are the kinds that were reported, each with the
number of reports of every event.  What it reflects grows by what it records
(`RepoCollector.Tally.Reflects.record`).

The collectors of a process count apart from each other
(`RepoCollector.MetricsHub.snapshot_record`).
-/

namespace RepoCollector

namespace Counts

@[simp]
theorem count_empty (event : JobEvent) : ({} : Counts).count event = 0 := by
  cases event <;> rfl

theorem count_increment (counts : Counts) (event other : JobEvent) :
    (counts.increment event).count other = counts.count other + if event = other then 1 else 0 := by
  cases event <;> cases other <;> rfl

theorem count_add (first second : Counts) (event : JobEvent) :
    (first.add second).count event = first.count event + second.count event := by
  cases event <;> rfl

theorem eq_of_count {first second : Counts}
    (same : ∀ event, first.count event = second.count event) : first = second := by
  obtain ⟨discovered, succeeded, failed⟩ := first
  have discoveries : discovered = second.discovered := same .discovered
  have successes : succeeded = second.succeeded := same .succeeded
  have failures : failed = second.failed := same .failed
  rw [discoveries, successes, failures]

/-- How often each event of a kind was reported. -/
def ofReports (told : List Report) (kind : String) : Counts where
  discovered := told.count ⟨kind, .discovered⟩
  succeeded := told.count ⟨kind, .succeeded⟩
  failed := told.count ⟨kind, .failed⟩

@[simp]
theorem count_ofReports (told : List Report) (kind : String) (event : JobEvent) :
    (ofReports told kind).count event = told.count ⟨kind, event⟩ := by
  cases event <;> rfl

theorem ofReports_of_not_mem {told : List Report} {kind : String}
    (unseen : kind ∉ told.map Report.kind) : ofReports told kind = {} := by
  refine eq_of_count fun event => ?_
  have never : told.count ⟨kind, event⟩ = 0 :=
    List.count_eq_zero.mpr fun member => unseen (List.mem_map_of_mem member)
  rw [count_ofReports, never, count_empty]

/-- One more report counts for its kind and event only. -/
theorem ofReports_concat (told : List Report) (report : Report) (kind : String) :
    ofReports (told ++ [report]) kind =
      if kind = report.kind then (ofReports told kind).increment report.event
      else ofReports told kind := by
  refine eq_of_count fun event => ?_
  rw [count_ofReports, List.count_append, List.count_singleton]
  by_cases same : kind = report.kind
  · rw [if_pos same, count_increment, count_ofReports, same]
    obtain ⟨_, other⟩ := report
    simp only [beq_iff_eq, Report.mk.injEq, true_and]
  · have apart : report ≠ ⟨kind, event⟩ := fun equal => same (congrArg Report.kind equal).symm
    rw [if_neg same, count_ofReports, beq_false_of_ne apart]
    rfl

end Counts

namespace Tally

/-- The kinds stand in rising order, each of them once. -/
def IsRising (tally : Tally) : Prop :=
  tally.byKind.Pairwise (·.1 < ·.1)

def number (tally : Tally) (report : Report) : Nat :=
  (tally.kind report.kind).count report.event

theorem orders_names : Entries.Orders fun first second : String => decide (first < second) where
  irreflexive name := by
    rw [decide_eq_true_eq]
    exact String.lt_irrefl name
  transitive := by
    simp only [decide_eq_true_eq]
    exact String.lt_trans
  total := by
    simp only [decide_eq_true_eq]
    exact fun different notLess => Std.lt_of_le_of_ne (String.not_lt.mp notLess) different.symm

theorem isRising_iff {tally : Tally} : tally.IsRising ↔
    Entries.IsRising (fun first second => decide (first < second)) tally.byKind := by
  simp only [IsRising, Entries.IsRising, decide_eq_true_eq]

theorem updateKind_eq (name : String) (change : Counts → Counts)
    (entries : List (String × Counts)) : updateKind name change entries =
      Entries.adjust (fun first second => decide (first < second)) {} name change entries := by
  induction entries with
  | nil => rfl
  | cons entry rest ih => simp only [updateKind, Entries.adjust, ih, decide_eq_true_eq]

theorem IsRising.record {tally : Tally} (rising : tally.IsRising) (report : Report) :
    (tally.record report).IsRising := by
  rw [isRising_iff, Tally.record, updateKind_eq]
  exact (isRising_iff.mp rising).adjust orders_names

theorem lookup_record {tally : Tally} (rising : tally.IsRising) (report : Report) (name : String) :
    (tally.record report).byKind.lookup name =
      if name = report.kind then some ((tally.kind name).increment report.event)
      else tally.byKind.lookup name := by
  rw [Tally.record, updateKind_eq, Entries.lookup_adjust orders_names (isRising_iff.mp rising)]
  split
  next same =>
    rw [same]
    rfl
  next => rfl

theorem kind_record (tally : Tally) (rising : tally.IsRising) (report : Report) (name : String) :
    (tally.record report).kind name =
      if name = report.kind then (tally.kind name).increment report.event else tally.kind name := by
  rw [kind, lookup_record rising]
  split <;> rfl

/-- **Every event counts once.** -/
theorem number_record (tally : Tally) (rising : tally.IsRising) (report other : Report) :
    (tally.record report).number other =
      tally.number other + if report = other then 1 else 0 := by
  unfold number
  rw [kind_record tally rising]
  by_cases same : other.kind = report.kind
  · rw [if_pos same, Counts.count_increment]
    have equal : report = other ↔ report.event = other.event := by
      rw [Report.mk.injEq report.kind report.event other.kind other.event]
      simp [same]
    simp only [equal]
  · rw [if_neg same, if_neg (fun equal => same (congrArg Report.kind equal.symm))]
    rfl

/-- The total counts an event as often as all entries together. -/
theorem count_total (tally : Tally) (event : JobEvent) :
    tally.total.count event = (tally.byKind.map (·.2.count event)).sum := by
  have every (sum : Counts) (entries : List (String × Counts)) :
      (entries.foldl (fun sum entry => sum.add entry.2) sum).count event =
        sum.count event + (entries.map (·.2.count event)).sum := by
    induction entries generalizing sum with
    | nil => rfl
    | cons entry rest ih =>
        rw [List.foldl_cons, ih, Counts.count_add, List.map_cons, List.sum_cons, Nat.add_assoc]
  rw [total, every, Counts.count_empty, Nat.zero_add]

/-- A tally that has recorded the reports, and nothing else. -/
structure Reflects (tally : Tally) (told : List Report) : Prop where
  rising : tally.IsRising
  lookup : ∀ kind, tally.byKind.lookup kind =
    if kind ∈ told.map Report.kind then some (.ofReports told kind) else none
  sum : ∀ event, (tally.byKind.map (·.2.count event)).sum = told.countP (·.event = event)

theorem reflects_empty : ({} : Tally).Reflects [] where
  rising := List.Pairwise.nil
  lookup _ := rfl
  sum _ := rfl

variable {tally : Tally} {told : List Report}

theorem Reflects.kind (reflects : tally.Reflects told) (kind : String) :
    tally.kind kind = .ofReports told kind := by
  rw [Tally.kind, reflects.lookup]
  split
  next => rfl
  next unseen => exact (Counts.ofReports_of_not_mem unseen).symm

theorem Reflects.number (reflects : tally.Reflects told) (report : Report) :
    tally.number report = told.count report := by
  rw [Tally.number, reflects.kind, Counts.count_ofReports]

theorem Reflects.mem_iff (reflects : tally.Reflects told) {kind : String} {counts : Counts} :
    (kind, counts) ∈ tally.byKind ↔
      kind ∈ told.map Report.kind ∧ counts = .ofReports told kind := by
  rw [Entries.mem_iff_lookup_eq orders_names (isRising_iff.mp reflects.rising), reflects.lookup]
  split
  next seen => rw [Option.some_inj, eq_comm, and_iff_right seen]
  next unseen => simp only [reduceCtorEq, unseen, false_and]

theorem Reflects.record (reflects : tally.Reflects told) (report : Report) :
    (tally.record report).Reflects (told ++ [report]) where
  rising := reflects.rising.record report
  lookup kind := by
    have seen : kind ∈ (told ++ [report]).map Report.kind ↔
        kind ∈ told.map Report.kind ∨ kind = report.kind := by
      rw [List.map_append, List.mem_append, List.map_singleton, List.mem_singleton]
    simp only [seen, Counts.ofReports_concat, lookup_record reflects.rising, reflects.kind,
      reflects.lookup]
    by_cases same : kind = report.kind
    · rw [if_pos same, if_pos (Or.inr same), if_pos same]
    · simp only [same, or_false, ↓reduceIte]
  sum event := by
    have grown : ((tally.record report).byKind.map (·.2.count event)).sum =
        (tally.byKind.map (·.2.count event)).sum + if report.event = event then 1 else 0 := by
      rw [Tally.record, updateKind_eq]
      exact Entries.sum_adjust (Counts.count · event) (Counts.count_empty event)
        fun counts => counts.count_increment report.event event
    simp only [grown, reflects.sum, List.countP_append, List.countP_singleton, decide_eq_true_eq]

/-- The total is the sum over the kinds, and the number of reports of each event. -/
theorem Reflects.total (reflects : tally.Reflects told) (event : JobEvent) :
    tally.total.count event =
        (tally.byKind.map fun entry => (tally.kind entry.1).count event).sum ∧
      tally.total.count event = told.countP (·.event = event) := by
  have entries : tally.byKind.map (fun entry => (tally.kind entry.1).count event) =
      tally.byKind.map (·.2.count event) := by
    refine List.map_congr_left fun entry member => ?_
    rw [reflects.kind, (reflects.mem_iff.mp member).2]
  rw [entries, tally.count_total]
  exact ⟨rfl, reflects.sum event⟩

end Tally

namespace MetricsHub

/-- A collector counts what is recorded through it, and no other does. -/
theorem snapshot_record (hub : MetricsHub) {collector : Nat}
    (within : collector < hub.collectors.length) (report : Report) (other : Nat) :
    (hub.record collector report).snapshot other =
      if other = collector then (hub.snapshot other).record report else hub.snapshot other := by
  unfold record snapshot
  simp only [List.getElem?_modify]
  split
  next same =>
    subst same
    simp [within]
  next different => simp [Ne.symm different]

end MetricsHub

end RepoCollector
