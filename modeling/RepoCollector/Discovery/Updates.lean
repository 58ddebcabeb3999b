import RepoCollector.Discovery.Error
import RepoCollector.Job.Basic
import RepoCollector.Queue.Basic

/-!
# The updates provider

The updates provider puts an update job for every clone of the library into a queue, in the order of
their URLs, and closes the queue however it ends, so that whoever reads the queue comes to an end.
-/

namespace RepoCollector

/-- Where the run of an updates provider stands. -/
inductive UpdatesPhase where
  /-- The library is being listed. -/
  | listing
  /-- The URLs that are left come next. -/
  | choosing (rest : List String)
  /-- A job waits for a slot. -/
  | sending (job : LibraryJob) (rest : List String)
  | over (result : Except ProviderError Nat)

/-- An updates provider between two steps. -/
structure UpdatesProvider where
  phase : UpdatesPhase := .listing
  /-- How many jobs were put into the queue. -/
  enqueued : Nat := 0
  cancelled : Bool := false

namespace UpdatesProvider

/-- How the run ended, if it has. -/
def result? (p : UpdatesProvider) : Option (Except ProviderError Nat) :=
  match p.phase with
  | .over result => some result
  | _ => none

/-- Ends the run; the queue is closed. -/
def finish (p : UpdatesProvider) (q : JobQueue LibraryJob) (result : Except ProviderError Nat) :
    UpdatesProvider × JobQueue LibraryJob × Option LibraryJob :=
  ({ p with phase := .over result }, q.close, none)

/-- What follows when the queue has answered a send; also gives the job that was put there. -/
def afterSend (p : UpdatesProvider) (q : JobQueue LibraryJob) (job : LibraryJob)
    (rest : List String) :
    Except SendFault Unit → UpdatesProvider × JobQueue LibraryJob × Option LibraryJob
  | .ok () => ({ p with phase := .choosing rest, enqueued := p.enqueued + 1 }, q, some job)
  | .error _ => p.finish q (.error .stopped)

/-- One step of the run, and the job that it put into the queue; none if the run has to wait or is
over.  `listed` is the listing of the library, once there is one. -/
def step (client : Client) (listed : Option (Except LibraryError (List String)))
    (p : UpdatesProvider) (q : JobQueue LibraryJob) :
    Option (UpdatesProvider × JobQueue LibraryJob × Option LibraryJob) :=
  match p.phase with
  | .listing =>
    listed.map fun
      | .ok urls => ({ p with phase := .choosing urls }, q, none)
      | .error error => p.finish q (.error (.byLibrary .discovery error))
  | .choosing [] => some (p.finish q (.ok p.enqueued))
  | .choosing (url :: rest) =>
    if p.cancelled then some (p.finish q (.error .stopped))
    else
      let job := LibraryJob.update [url]
      match q.startSend client job with
      | (q, some answer) => some (p.afterSend q job rest answer)
      | (q, none) => some ({ p with phase := .sending job rest }, q, none)
  | .sending job rest =>
    if p.cancelled then some (p.finish (q.abandonSend client) (.error .stopped))
    else
      match q.resumeSend client job with
      | (q, some answer) => some (p.afterSend q job rest answer)
      | (_, none) => none
  | .over _ => none

end UpdatesProvider

end RepoCollector
