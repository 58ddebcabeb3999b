import RepoCollector.Duration
import RepoCollector.Text.Quoted

/-!
# Counting jobs

A collector counts, for every kind of job, how many jobs were discovered, how many succeeded and how
many failed.  `Tally` holds the counts in the order of the kinds' names; a kind that was never seen
has no entry and counts zero.
-/

namespace RepoCollector

/-- What is counted of a job. -/
inductive JobEvent where
  | discovered
  | succeeded
  | failed
deriving DecidableEq, Repr

def JobEvent.label : JobEvent → String
  | .discovered => "discovered"
  | .succeeded => "succeeded"
  | .failed => "failed"

/-- Something that happened to a job of a kind. -/
structure Report where
  kind : String
  event : JobEvent
deriving DecidableEq, Repr

/-- The counts for one kind. -/
structure Counts where
  discovered : Nat := 0
  succeeded : Nat := 0
  failed : Nat := 0
deriving DecidableEq, Repr

namespace Counts

def count (counts : Counts) : JobEvent → Nat
  | .discovered => counts.discovered
  | .succeeded => counts.succeeded
  | .failed => counts.failed

def increment (counts : Counts) : JobEvent → Counts
  | .discovered => { counts with discovered := counts.discovered + 1 }
  | .succeeded => { counts with succeeded := counts.succeeded + 1 }
  | .failed => { counts with failed := counts.failed + 1 }

def add (a b : Counts) : Counts :=
  ⟨a.discovered + b.discovered, a.succeeded + b.succeeded, a.failed + b.failed⟩

def describe (counts : Counts) : String :=
  s!"KindSnapshot \x7b discovered: {counts.discovered}, succeeded: {counts.succeeded}, " ++
    s!"failed: {counts.failed} \x7d"

end Counts

/-- The counts of a collector, in rising order of the kinds. -/
structure Tally where
  byKind : List (String × Counts) := []
deriving DecidableEq, Repr

namespace Tally

/-- The counts for a kind. -/
def kind (tally : Tally) (name : String) : Counts :=
  (tally.byKind.lookup name).getD {}

/-- Changes the counts for a kind, at its place in the order. -/
def updateKind (name : String) (change : Counts → Counts) :
    List (String × Counts) → List (String × Counts)
  | [] => [(name, change {})]
  | (other, counts) :: rest =>
    if name = other then (other, change counts) :: rest
    else if name < other then (name, change {}) :: (other, counts) :: rest
    else (other, counts) :: updateKind name change rest

/-- Counts an event. -/
def record (tally : Tally) (report : Report) : Tally :=
  ⟨updateKind report.kind (·.increment report.event) tally.byKind⟩

/-- The sum over all kinds. -/
def total (tally : Tally) : Counts :=
  tally.byKind.foldl (fun sum entry => sum.add entry.2) {}

def describe (tally : Tally) : String :=
  let entries := tally.byKind.map fun (kind, counts) =>
    Text.quoted kind ++ ": " ++ counts.describe
  "MetricsSnapshot \x7b by_kind: \x7b" ++ String.intercalate ", " entries ++ "\x7d \x7d"

end Tally

/-- The diagnostic text of a collector that reports at an interval. -/
def describeCollector (tally : Tally) (interval : Duration) : String :=
  "JobMetrics \x7b snapshot: " ++ tally.describe ++ ", interval: " ++ interval.describe ++ " \x7d"

/-- The time between two progress reports. -/
def defaultReportInterval : Duration := .ofSecs 30

end RepoCollector
