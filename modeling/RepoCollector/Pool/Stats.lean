import RepoCollector.Number.Binary

/-!
# Pool statistics

The numbers that describe a pool at one moment, and the share of jobs that succeeded, as a double
and as a percentage with one decimal.
-/

namespace RepoCollector

/-- The numbers of a pool. -/
structure PoolStats where
  /-- The number of workers asked for. -/
  workers : Nat := 0
  /-- Workers that have not left. -/
  live : Nat := 0
  /-- Workers that process a job. -/
  active : Nat := 0
  completed : Nat := 0
  failed : Nat := 0
deriving DecidableEq, Repr

namespace PoolStats

/-- The number of jobs that were processed. -/
def processed (stats : PoolStats) : Nat := stats.completed + stats.failed

/-- The percentage of processed jobs that succeeded, zero if there were none. -/
def successRate (stats : PoolStats) : Float :=
  if stats.processed = 0 then 0.0
  else
    (UInt64.ofNat stats.completed).toFloat / (UInt64.ofNat stats.processed).toFloat * 100.0

/-- The percentage with one decimal. -/
def rateText (stats : PoolStats) : String :=
  tenthsText ((Binary.ofFloat stats.successRate).scaled 10) ++ "%"

/-- The diagnostic text of a pool whose workers have not finished a job yet. -/
def describe (stats : PoolStats) (running : Bool) : String :=
  "WorkerPool \x7b stats: PoolStats \x7b " ++
    s!"num_workers: {stats.workers}, live_workers: {stats.live}, " ++
    s!"active_workers: {stats.active}, jobs_completed: {stats.completed}, " ++
    s!"jobs_failed: {stats.failed}, average_job_duration: 0ns \x7d, " ++
    s!"is_running: {running} \x7d"

end PoolStats

end RepoCollector
