import RepoCollector.Duration
import RepoCollector.Json.Value
import RepoCollector.Library.Error
import RepoCollector.Text.Quoted

/-!
# Jobs

A job downloads one repository into the library or updates the clone that is there.  Providers make
jobs with endpoints alone.  The work itself is attached when a job is handed out, and it is that of
the lane which the job was taken from, whatever the job's own kind; a job without work cannot run.
-/

namespace RepoCollector

/-- What a job does with its repository. -/
inductive JobKind where
  | download
  | update
deriving DecidableEq, Repr, Inhabited

namespace JobKind

/-- The label used in metrics and queue names. -/
def label : JobKind → String
  | .download => "download"
  | .update => "update"

/-- The name of a kind in diagnostic texts. -/
def name : JobKind → String
  | .download => "Download"
  | .update => "Update"

/-- The kind with a given label. -/
def ofLabel? (label : String) : Option JobKind :=
  [JobKind.download, JobKind.update].find? (·.label = label)

end JobKind

/-- How the processing of a job ended. -/
inductive JobStatus where
  | succeeded
  | failed
  | cancelled
deriving DecidableEq, Repr

namespace JobStatus

def label : JobStatus → String
  | .succeeded => "succeeded"
  | .failed => "failed"
  | .cancelled => "cancelled"

/-- The status with a given label. -/
def ofLabel? (label : String) : Option JobStatus :=
  [JobStatus.succeeded, JobStatus.failed, JobStatus.cancelled].find? (·.label = label)

end JobStatus

/-- The label that a JSON value names: a string, or an object whose only member has the label as its
name and `null` as its value. -/
def Json.label? : Json → Option String
  | .string pieces => (Json.decodePieces pieces).map String.ofList
  | .object [(key, .null)] => (Json.decodePieces key).map String.ofList
  | _ => none

/-- Why a job did not succeed. -/
inductive JobError where
  | cancelled
  | timeout (after : Duration)
  /-- No work was attached to the job. -/
  | notScheduled (kind : String)
  | noEndpoints
  | library (cause : LibraryError)
  | failed (text : String)
deriving DecidableEq, Repr

namespace JobError

/-- The name of the kind of failure. -/
def name : JobError → String
  | .cancelled => "Cancelled"
  | .timeout _ => "Timeout"
  | .notScheduled _ => "NotScheduled"
  | .noEndpoints => "NoEndpoints"
  | .library _ => "Library"
  | .failed _ => "Failed"

def message : JobError → String
  | .cancelled => "Job was cancelled"
  | .timeout after => s!"Job timed out after {after.describe}"
  | .notScheduled kind => s!"No process function attached to {kind} job"
  | .noEndpoints => "Job has no endpoints"
  | .library cause => s!"Library error: {cause.message}"
  | .failed text => s!"Job failed: {text}"

/-- The texts of the causes, the nearest first. -/
def causes : JobError → List String
  | .library cause => cause.message :: cause.causes
  | _ => []

end JobError

/-- The outcome of a job. -/
abbrev JobResult := Except JobError Unit

/-- Only a job that observed its own cancellation counts as cancelled; a cancelled operation of the
library is a failure. -/
def JobStatus.ofResult : JobResult → JobStatus
  | .ok () => .succeeded
  | .error .cancelled => .cancelled
  | .error _ => .failed

/-- A repository to download or to update. -/
structure LibraryJob where
  kind : JobKind
  /-- The repository's URLs, the preferred ones first. -/
  endpoints : List String
  /-- The lane whose work is attached to the job. -/
  work : Option JobKind := none
deriving DecidableEq, Repr, Inhabited

namespace LibraryJob

def download (endpoints : List String) : LibraryJob := { kind := .download, endpoints }

def update (endpoints : List String) : LibraryJob := { kind := .update, endpoints }

/-- The job with the work of a lane attached. -/
def withWork (job : LibraryJob) (lane : JobKind) : LibraryJob := { job with work := some lane }

/-- Whether work is attached. -/
def isScheduled (job : LibraryJob) : Bool := job.work.isSome

/-- The preferred endpoint. -/
def endpoint? (job : LibraryJob) : Option String := job.endpoints.head?

/-- The lane whose work is to be done, or why the job fails before any work is done. -/
def ready? (job : LibraryJob) : Except JobError JobKind :=
  match job.work with
  | none => .error (.notScheduled job.kind.label)
  | some lane => if job.endpoints.isEmpty then .error .noEndpoints else .ok lane

/-- The diagnostic text of a job with a given identifier. -/
def describe (job : LibraryJob) (id : String) : String :=
  "LibraryJob \x7b id: " ++ id ++ ", kind: " ++ job.kind.name ++ ", endpoints: " ++
    Text.quotedList job.endpoints ++ ", scheduled: " ++ toString job.isScheduled ++ " \x7d"

end LibraryJob

end RepoCollector
