import Mathlib.Data.List.Count
import Mathlib.Data.Set.List
import RepoCollector.Metrics.Exposition
import RepoCollector.Proofs.Metrics.Entries

/-! # What a registry exports

The series of jobs stand in rising order of their labels, the event before the kind.  A registry
reflects a list of reports if it has one series for every kind and event that was reported, with the
number of such reports (`RepoCollector.Registry.Reflects.exists_series`).  Gauges are kept apart
from them (`RepoCollector.Registry.Reflects.setDepths`).

The text consists of lines (`RepoCollector.Registry.text_eq_join`), and no name of a kind or a queue
breaks one (`RepoCollector.Registry.newline_notMem_of_mem_lines`).  In it every series has its line,
and no kind can pass for another one there, whatever it is called: a line tells the kind, the event
and the count (`RepoCollector.Registry.jobLine_mem_lines`).
-/

namespace RepoCollector

theorem JobEvent.label_inj {first second : JobEvent} :
    first.label = second.label ↔ first = second := by
  cases first <;> cases second <;> decide

/-- The labels of the series that a report counts in. -/
def Report.labels (report : Report) : String × String := (report.event.label, report.kind)

theorem Report.labels_injective : Function.Injective Report.labels := by
  intro first second same
  have event : first.event = second.event := JobEvent.label_inj.mp (congrArg Prod.fst same)
  have kind : first.kind = second.kind := congrArg Prod.snd same
  obtain ⟨_, _⟩ := first
  cases event
  cases kind
  rfl

namespace Registry

theorem jobBefore_iff {first second : String × String} : jobBefore first second ↔
    first.1 < second.1 ∨ first.1 = second.1 ∧ first.2 < second.2 := by
  simp only [jobBefore, Bool.or_eq_true, Bool.and_eq_true, decide_eq_true_eq]

theorem orders_labels : Entries.Orders jobBefore where
  irreflexive labels := by
    rw [jobBefore_iff]
    intro less
    rcases less with less | ⟨_, less⟩
    · exact String.lt_irrefl _ less
    · exact String.lt_irrefl _ less
  transitive {first second third} less further := by
    rw [jobBefore_iff] at *
    rcases less with less | ⟨same, less⟩ <;> rcases further with further | ⟨equal, further⟩
    · exact Or.inl (String.lt_trans less further)
    · exact Or.inl (equal ▸ less)
    · exact Or.inl (same ▸ further)
    · exact Or.inr ⟨same.trans equal, String.lt_trans less further⟩
  total {first second} different notLess := by
    rw [jobBefore_iff] at *
    simp only [not_or, not_and, String.not_lt] at notLess
    obtain ⟨event, kind⟩ := notLess
    by_cases same : first.1 = second.1
    · have apart : second.2 ≠ first.2 := fun equal => different (Prod.ext same equal.symm)
      exact Or.inr ⟨same.symm, Std.lt_of_le_of_ne (kind same) apart⟩
    · exact Or.inl (Std.lt_of_le_of_ne event (Ne.symm same))

theorem updateEntry_eq {κ : Type} [DecidableEq κ] (before : κ → κ → Bool) (key : κ)
    (change : Nat → Nat) (entries : List (κ × Nat)) :
    updateEntry before key change entries = Entries.adjust before 0 key change entries := by
  induction entries with
  | nil => rfl
  | cons entry rest ih => simp only [updateEntry, Entries.adjust, ih]

/-- A registry whose series of jobs count the reports, and nothing else. -/
structure Reflects (registry : Registry) (told : List Report) : Prop where
  rising : Entries.IsRising jobBefore registry.jobs
  lookup : ∀ labels, registry.jobs.lookup labels =
    if labels ∈ told.map Report.labels then some ((told.map Report.labels).count labels) else none

theorem reflects_empty : ({} : Registry).Reflects [] where
  rising := List.Pairwise.nil
  lookup _ := rfl

variable {registry : Registry} {told : List Report}

theorem Reflects.getD_lookup (reflects : registry.Reflects told) (labels : String × String) :
    (registry.jobs.lookup labels).getD 0 = (told.map Report.labels).count labels := by
  rw [reflects.lookup]
  split
  next => rfl
  next unseen => exact (List.count_eq_zero.mpr unseen).symm

theorem Reflects.record (reflects : registry.Reflects told) (report : Report) :
    (registry.record report).Reflects (told ++ [report]) where
  rising := by
    rw [Registry.record, updateEntry_eq]
    exact reflects.rising.adjust orders_labels
  lookup labels := by
    have changed : (registry.record report).jobs.lookup labels =
        if labels = report.labels then some ((told.map Report.labels).count report.labels + 1)
        else registry.jobs.lookup labels := by
      rw [Registry.record, updateEntry_eq, ← reflects.getD_lookup]
      exact Entries.lookup_adjust orders_labels reflects.rising labels
    rw [changed, List.map_append, List.map_singleton, List.count_append, List.count_singleton]
    by_cases same : labels = report.labels
    · have seen : report.labels ∈ told.map Report.labels ++ [report.labels] :=
        List.mem_append_right _ List.mem_cons_self
      rw [if_pos same, same, if_pos seen, if_pos (beq_self_eq_true _)]
    · have unchanged : labels ∈ told.map Report.labels ++ [report.labels] ↔
          labels ∈ told.map Report.labels := by
        rw [List.mem_append, List.mem_singleton]
        exact or_iff_left same
      rw [if_neg same, reflects.lookup, beq_false_of_ne (Ne.symm same)]
      simp only [unchanged, Bool.false_eq_true, ↓reduceIte, Nat.add_zero]

/-- The depths of queues are apart from the series of jobs. -/
theorem Reflects.setDepths (reflects : registry.Reflects told) (depths : List (String × Nat)) :
    (depths.foldl (fun registry (queue, depth) => registry.setDepth queue depth)
      registry).Reflects told := by
  induction depths generalizing registry with
  | nil => exact reflects
  | cons depth rest ih => exact ih ⟨reflects.rising, reflects.lookup⟩

/-- **One series for every kind and event that was reported**, with the number of reports. -/
theorem Reflects.mem_iff (reflects : registry.Reflects told) {labels : String × String}
    {count : Nat} : (labels, count) ∈ registry.jobs ↔
      ∃ report ∈ told, labels = report.labels ∧ count = told.count report := by
  rw [Entries.mem_iff_lookup_eq orders_labels reflects.rising, reflects.lookup]
  constructor
  · intro found
    split at found
    next seen =>
      obtain ⟨report, member, rfl⟩ := List.mem_map.mp seen
      rw [List.count_map_of_injective _ _ Report.labels_injective, Option.some_inj] at found
      exact ⟨report, member, rfl, found.symm⟩
    next => cases found
  · rintro ⟨report, member, rfl, rfl⟩
    rw [if_pos (List.mem_map_of_mem member),
      List.count_map_of_injective _ _ Report.labels_injective]

/-- The series are those of the kinds and events that were reported, in rising order. -/
theorem Reflects.exists_series (reflects : registry.Reflects told) : ∃ series : List Report,
    registry.jobs = series.map (fun report => (report.labels, told.count report)) ∧
    (series.map Report.labels).Pairwise (jobBefore · ·) ∧
    ∀ report, report ∈ series ↔ report ∈ told := by
  have form : registry.jobs ∈
      Set.range (List.map fun report : Report => (report.labels, told.count report)) := by
    rw [Set.range_list_map]
    intro entry member
    obtain ⟨report, _, labels, count⟩ := reflects.mem_iff.mp member
    exact ⟨report, Prod.ext labels.symm count.symm⟩
  obtain ⟨series, shape⟩ := form
  refine ⟨series, shape.symm, ?_, fun report => ?_⟩
  · have rising := reflects.rising
    rw [← shape, Entries.IsRising, List.pairwise_map] at rising
    exact List.pairwise_map.mpr rising
  · have listed : (report.labels, told.count report) ∈ registry.jobs ↔ report ∈ series := by
      rw [← shape, List.mem_map]
      refine ⟨?_, fun member => ⟨report, member, rfl⟩⟩
      rintro ⟨other, member, same⟩
      exact Report.labels_injective (congrArg Prod.fst same) ▸ member
    rw [← listed, reflects.mem_iff]
    refine ⟨?_, fun member => ⟨report, member, rfl, rfl⟩⟩
    rintro ⟨other, member, same, _⟩
    exact Report.labels_injective same ▸ member

theorem Reflects.jobCount (reflects : registry.Reflects told) (kind : String) (event : JobEvent) :
    registry.jobCount kind event = told.count ⟨kind, event⟩ := by
  rw [← List.count_map_of_injective told _ Report.labels_injective]
  exact reflects.getD_lookup (Report.labels ⟨kind, event⟩)

/-! ## The lines of the text -/

/-- The line that shows a report's count. -/
def jobLine (report : Report) (count : Nat) : String :=
  "gitcollector_jobs_total\x7bevent=\"" ++ report.event.label ++ "\",kind=\"" ++
    escapeLabel report.kind ++ "\"\x7d " ++ toString count

/-- The line that shows the depth of a queue. -/
def depthLine (queue : String) (depth : Nat) : String :=
  "gitcollector_queue_depth\x7bqueue_name=\"" ++ escapeLabel queue ++ "\"\x7d " ++ toString depth

/-- The lines of a family; it has none without a series. -/
def headed (heading series : List String) : List String :=
  if series.isEmpty then [] else heading ++ series

/-- What stands above the counts of jobs. -/
def jobsHeading : List String :=
  ["# HELP gitcollector_jobs_total Total number of jobs by lifecycle event",
    "# TYPE gitcollector_jobs_total counter"]

/-- What stands above the depths of queues. -/
def depthsHeading : List String :=
  ["# HELP gitcollector_queue_depth Number of jobs in queue",
    "# TYPE gitcollector_queue_depth gauge"]

/-- The lines for the counts of reports and for the depths of queues. -/
def lines (counts : List (Report × Nat)) (depths : List (String × Nat)) : List String :=
  headed jobsHeading (counts.map fun (report, count) => jobLine report count) ++
    headed depthsHeading (depths.map fun (queue, depth) => depthLine queue depth)

theorem mem_headed {heading series : List String} {line : String} :
    line ∈ headed heading series ↔ series ≠ [] ∧ line ∈ heading ∨ line ∈ series := by
  cases series with
  | nil => simp [headed]
  | cons first rest => simp [headed]

/-- What stands for a character in a label's value. -/
private def escaped (c : Char) : List Char :=
  if c = '\\' then ['\\', '\\']
  else if c = '"' then ['\\', '"']
  else if c = '\n' then ['\\', 'n']
  else [c]

private theorem toList_escapeLabel (value : String) :
    (escapeLabel value).toList = value.toList.flatMap escaped := by
  rw [escapeLabel, String.toList_ofList]
  rfl

private theorem escapeLabel_label (event : JobEvent) : escapeLabel event.label = event.label := by
  cases event <;> decide

private theorem seriesLine_jobs (report : Report) (count : Nat) :
    seriesLine "gitcollector_jobs_total" [("event", report.event.label), ("kind", report.kind)]
      count = jobLine report count ++ "\n" := by
  unfold jobLine
  simp only [seriesLine, List.map_cons, List.map_nil, String.intercalate_cons_cons,
    String.intercalate_singleton, escapeLabel_label]
  rw [← String.toList_inj]
  simp

private theorem seriesLine_depth (queue : String) (depth : Nat) :
    seriesLine "gitcollector_queue_depth" [("queue_name", queue)] depth =
      depthLine queue depth ++ "\n" := by
  unfold depthLine
  simp only [seriesLine, List.map_cons, List.map_nil, String.intercalate_singleton]
  rw [← String.toList_inj]
  simp

private theorem familyBlock_eq {family help type : String} {series : List String}
    (heading : List String) (titled : "# HELP " ++ family ++ " " ++ help ++ "\n# TYPE " ++ family ++
      " " ++ type ++ "\n" = String.join (heading.map (· ++ "\n"))) :
    familyBlock family help type (series.map (· ++ "\n")) =
      String.join ((headed heading series).map (· ++ "\n")) := by
  cases series with
  | nil => rfl
  | cons line rest =>
      simp only [familyBlock, headed, titled, List.isEmpty_map, List.isEmpty_cons,
        Bool.false_eq_true, ↓reduceIte, List.map_append, String.join_append]

private theorem map_seriesLine_jobs (counts : List (Report × Nat)) :
    (counts.map fun (report, count) => (report.labels, count)).map (fun ((event, kind), value) =>
      seriesLine "gitcollector_jobs_total" [("event", event), ("kind", kind)] value) =
      (counts.map fun (report, count) => jobLine report count).map (· ++ "\n") := by
  rw [List.map_map, List.map_map]
  exact List.map_congr_left fun entry _ => seriesLine_jobs entry.1 entry.2

private theorem map_seriesLine_depths (depths : List (String × Nat)) :
    depths.map (fun (queue, depth) =>
      seriesLine "gitcollector_queue_depth" [("queue_name", queue)] depth) =
      (depths.map fun (queue, depth) => depthLine queue depth).map (· ++ "\n") := by
  rw [List.map_map]
  exact List.map_congr_left fun entry _ => seriesLine_depth entry.1 entry.2

/-- **The text is its lines.** -/
theorem text_eq_join (counts : List (Report × Nat)) (depths : List (String × Nat)) :
    text ⟨counts.map fun (report, count) => (report.labels, count), depths⟩ =
      String.join ((lines counts depths).map (· ++ "\n")) := by
  rw [lines, List.map_append, String.join_append, ← familyBlock_eq jobsHeading,
    ← familyBlock_eq depthsHeading, ← map_seriesLine_jobs, ← map_seriesLine_depths]
  · rfl
  · decide
  · decide

/-! A quote ends a label's value, so a line tells its series and its value. -/

/-- No escape is the beginning of another one. -/
private theorem escaped_append_inj {first second : Char} {rest others : List Char}
    (same : escaped first ++ rest = escaped second ++ others) :
    first = second ∧ rest = others := by
  unfold escaped at same
  grind

private theorem escaped_append_ne (c : Char) (rest others : List Char) :
    escaped c ++ rest ≠ '"' :: others := by
  unfold escaped
  split
  · simp
  · split
    · simp
    · split <;> simp [*]

/-- A quote ends a label's value. -/
private theorem flatMap_escaped_inj {first second rest others : List Char}
    (same : first.flatMap escaped ++ '"' :: rest = second.flatMap escaped ++ '"' :: others) :
    first = second ∧ rest = others := by
  induction first generalizing second with
  | nil =>
      cases second with
      | nil => exact ⟨rfl, List.tail_eq_of_cons_eq same⟩
      | cons d second =>
          rw [List.flatMap_cons, List.append_assoc] at same
          exact absurd same.symm (escaped_append_ne d _ _)
  | cons c first ih =>
      rw [List.flatMap_cons, List.append_assoc] at same
      cases second with
      | nil => exact absurd same (escaped_append_ne c _ _)
      | cons d second =>
          rw [List.flatMap_cons, List.append_assoc] at same
          obtain ⟨head, tail⟩ := escaped_append_inj same
          obtain ⟨equal, remaining⟩ := ih tail
          exact ⟨by rw [head, equal], remaining⟩

private theorem toList_jobLine (report : Report) (count : Nat) :
    (jobLine report count).toList = "gitcollector_jobs_total\x7bevent=\"".toList ++
      (report.event.label.toList.flatMap escaped ++ '"' :: (",kind=\"".toList ++
        (report.kind.toList.flatMap escaped ++ '"' ::
          ("\x7d ".toList ++ Nat.toDigits 10 count)))) := by
  have event := toList_escapeLabel report.event.label
  rw [escapeLabel_label] at event
  rw [← event, ← toList_escapeLabel]
  unfold jobLine
  simp

private theorem toDigits_inj {first second : Nat}
    (same : Nat.toDigits 10 first = Nat.toDigits 10 second) : first = second := by
  rw [← Nat.ofDigitChars_ten_toDigits (n := first), same, Nat.ofDigitChars_ten_toDigits]

/-- **A line tells its series and its value.** -/
theorem jobLine_inj {first second : Report} {count other : Nat}
    (same : jobLine first count = jobLine second other) : first = second ∧ count = other := by
  have chars := congrArg String.toList same
  rw [toList_jobLine, toList_jobLine] at chars
  obtain ⟨event, chars⟩ := flatMap_escaped_inj (List.append_cancel_left chars)
  obtain ⟨kind, chars⟩ := flatMap_escaped_inj (List.append_cancel_left chars)
  have digits := List.append_cancel_left chars
  refine ⟨?_, toDigits_inj digits⟩
  exact Report.labels_injective (Prod.ext (String.toList_inj.mp event) (String.toList_inj.mp kind))

private theorem depthLine_ne_jobLine (queue : String) (depth : Nat) (report : Report)
    (count : Nat) : depthLine queue depth ≠ jobLine report count := by
  intro same
  have chars := congrArg String.toList same
  unfold jobLine depthLine at chars
  simp at chars

/-- What stands above the series is a comment. -/
private theorem jobLine_notMem_heading (report : Report) (count : Nat) {heading : List String}
    (comments : ∀ line ∈ heading, line.toList.head? = some '#') :
    jobLine report count ∉ heading := by
  intro member
  have first := comments _ member
  unfold jobLine at first
  simp at first

/-- **A count has its line if it is shown**, and no other line passes for it. -/
theorem jobLine_mem_lines {report : Report} {count : Nat} {counts : List (Report × Nat)}
    {depths : List (String × Nat)} :
    jobLine report count ∈ lines counts depths ↔ (report, count) ∈ counts := by
  have above : jobLine report count ∉ jobsHeading :=
    jobLine_notMem_heading report count (by decide)
  have between : jobLine report count ∉ depthsHeading :=
    jobLine_notMem_heading report count (by decide)
  simp only [lines, List.mem_append, mem_headed, above, between, and_false, false_or]
  constructor
  · rintro (shown | shown)
    · obtain ⟨⟨other, value⟩, member, same⟩ := List.mem_map.mp shown
      obtain ⟨rfl, rfl⟩ := jobLine_inj same
      exact member
    · obtain ⟨⟨queue, depth⟩, _, same⟩ := List.mem_map.mp shown
      exact absurd same (depthLine_ne_jobLine queue depth report count)
  · exact fun member => Or.inl (List.mem_map.mpr ⟨(report, count), member, rfl⟩)

private theorem newline_notMem_escapeLabel (value : String) :
    '\n' ∉ (escapeLabel value).toList := by
  rw [toList_escapeLabel, List.mem_flatMap]
  rintro ⟨c, -, member⟩
  unfold escaped at member
  grind

private theorem newline_notMem_toDigits (count : Nat) : '\n' ∉ Nat.toDigits 10 count := by
  intro member
  have digit := Nat.isDigit_of_mem_toDigits (by decide) (by decide) member
  revert digit
  decide

/-- **No line is broken**, whatever the kinds and the queues are called. -/
theorem newline_notMem_of_mem_lines {counts : List (Report × Nat)} {depths : List (String × Nat)}
    {line : String} (member : line ∈ lines counts depths) : '\n' ∉ line.toList := by
  simp only [lines, List.mem_append, mem_headed] at member
  rcases member with (⟨_, title⟩ | job) | (⟨_, title⟩ | gauge)
  · revert line
    decide
  · obtain ⟨⟨report, count⟩, _, rfl⟩ := List.mem_map.mp job
    have event : '\n' ∉ report.event.label.toList := by cases report.event <;> decide
    unfold jobLine
    simp [event, newline_notMem_escapeLabel, newline_notMem_toDigits]
  · revert line
    decide
  · obtain ⟨⟨queue, depth⟩, _, rfl⟩ := List.mem_map.mp gauge
    unfold depthLine
    simp [newline_notMem_escapeLabel, newline_notMem_toDigits]

end Registry

end RepoCollector
