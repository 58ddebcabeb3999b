import RepoCollector.Metrics.Counts

/-!
# Exported metrics

The process keeps one registry for all collectors: a counter for every kind and event of jobs, and a
gauge for the depth of every queue that is watched.  Nothing is counted in it before it is
initialized, and initializing it again changes nothing.

`Registry.text` writes it as one block of lines per family.  Series stand in the order of their
label values, a label's value being escaped, and a family without series is left out.
-/

namespace RepoCollector

/-- The series of the process. -/
structure Registry where
  /-- Jobs by event and kind. -/
  jobs : List ((String × String) × Nat) := []
  /-- Depths by queue name. -/
  depths : List (String × Nat) := []
deriving DecidableEq, Repr

namespace Registry

/-- Changes a value in a list kept in rising order of its keys. -/
def updateEntry {κ : Type} [DecidableEq κ] (before : κ → κ → Bool) (key : κ) (change : Nat → Nat) :
    List (κ × Nat) → List (κ × Nat)
  | [] => [(key, change 0)]
  | (other, value) :: rest =>
    if key = other then (other, change value) :: rest
    else if before key other then (key, change 0) :: (other, value) :: rest
    else (other, value) :: updateEntry before key change rest

/-- The order of the series of jobs: by event, then by kind. -/
def jobBefore (a b : String × String) : Bool :=
  a.1 < b.1 || (a.1 = b.1 && a.2 < b.2)

/-- Counts an event of a job. -/
def record (registry : Registry) (report : Report) : Registry :=
  { registry with
    jobs := updateEntry jobBefore (report.event.label, report.kind) (· + 1) registry.jobs }

/-- The count of a kind and event. -/
def jobCount (registry : Registry) (kind : String) (event : JobEvent) : Nat :=
  (registry.jobs.lookup (event.label, kind)).getD 0

/-- Sets the depth of a queue. -/
def setDepth (registry : Registry) (queue : String) (depth : Nat) : Registry :=
  { registry with
    depths := updateEntry (fun a b => a < b) queue (fun _ => depth) registry.depths }

/-- A label's value between quotes. -/
def escapeLabel (value : String) : String :=
  String.ofList (value.toList.flatMap fun c =>
    if c = '\\' then ['\\', '\\']
    else if c = '"' then ['\\', '"']
    else if c = '\n' then ['\\', 'n']
    else [c])

/-- The line of one series. -/
def seriesLine (family : String) (labels : List (String × String)) (value : Nat) : String :=
  let pairs := labels.map fun (name, text) => name ++ "=\"" ++ escapeLabel text ++ "\""
  family ++ "\x7b" ++ String.intercalate "," pairs ++ "\x7d " ++ toString value ++ "\n"

/-- The block of one family. -/
def familyBlock (family help type : String) (series : List String) : String :=
  if series.isEmpty then ""
  else
    "# HELP " ++ family ++ " " ++ help ++ "\n# TYPE " ++ family ++ " " ++ type ++ "\n" ++
      String.join series

/-- The text of all series. -/
def text (registry : Registry) : String :=
  let jobs := registry.jobs.map fun ((event, kind), value) =>
    seriesLine "gitcollector_jobs_total" [("event", event), ("kind", kind)] value
  let depths := registry.depths.map fun (queue, depth) =>
    seriesLine "gitcollector_queue_depth" [("queue_name", queue)] depth
  familyBlock "gitcollector_jobs_total" "Total number of jobs by lifecycle event" "counter" jobs ++
    familyBlock "gitcollector_queue_depth" "Number of jobs in queue" "gauge" depths

/-- What is exported before the registry is initialized. -/
def notInitialized : String :=
  "# Metrics not initialized. Call init_metrics() first.\n"

end Registry

/-- The collectors of a process and its registry, once it is initialized. -/
structure MetricsHub where
  collectors : List Tally := []
  registry : Option Registry := none
deriving DecidableEq, Repr

namespace MetricsHub

/-- Initializes the registry, the first time. -/
def init (hub : MetricsHub) : MetricsHub :=
  { hub with registry := some (hub.registry.getD {}) }

/-- Adds a collector; its number is that of the collectors before it. -/
def addCollector (hub : MetricsHub) : MetricsHub :=
  { hub with collectors := hub.collectors ++ [{}] }

/-- Records an event through a collector. -/
def record (hub : MetricsHub) (collector : Nat) (report : Report) : MetricsHub :=
  { collectors := hub.collectors.modify collector (·.record report),
    registry := hub.registry.map (·.record report) }

/-- The counts of a collector. -/
def snapshot (hub : MetricsHub) (collector : Nat) : Tally :=
  hub.collectors[collector]?.getD {}

/-- Sets the gauges of the watched queues to their depths. -/
def sample (hub : MetricsHub) (depths : List (String × Nat)) : MetricsHub :=
  { hub with
    registry := hub.registry.map fun registry =>
      depths.foldl (fun registry (queue, depth) => registry.setDepth queue depth) registry }

/-- The exported text. -/
def exported (hub : MetricsHub) : String :=
  match hub.registry with
  | some registry => registry.text
  | none => Registry.notInitialized

end MetricsHub

end RepoCollector
