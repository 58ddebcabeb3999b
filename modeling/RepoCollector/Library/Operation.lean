import RepoCollector.Job.Basic
import RepoCollector.Library.Git

/-!
# Downloads and updates

The work of a job on a library: its endpoints are tried one after the other until one of them leads
to a success.

A download leaves a clone that is already there alone, or fetches into it.  Otherwise git clones
into a *staging* directory beside the place of the clone, and the finished directory is renamed, so
that a clone appears as a whole or not at all.  After a failure the staging directory is removed.
An update fetches into the clone of the first endpoint that has one.

`Operation.step` makes one file operation, starts git, or takes up what git left behind.  Whoever
runs an operation may drop it between two steps; it then leaves things as they are.
-/

namespace RepoCollector

/-- What an operation is told when it makes a step. -/
structure Surroundings where
  /-- Whether the operation has been told to give up. -/
  cancelled : Bool := false
  /-- What the git command in progress left behind, if it has ended. -/
  report : Option GitReport := none
  /-- The failure of what the step tries with the file system or with the start of git, if it does
  not succeed. -/
  fault : Option FileFault := none
  /-- What tells a staging directory from all others. -/
  tag : String := ""
deriving Repr

/-- What a step with the file system gives, unless the surroundings make it fail. -/
def Surroundings.allow {α : Type} (surroundings : Surroundings) (outcome : Except FileFault α) :
    Except FileFault α :=
  match surroundings.fault with
  | some fault => .error fault
  | none => outcome

/-- An attempt to clone. -/
structure CloneAttempt where
  endpoint : String
  /-- Where the clone is to stand. -/
  place : Place
  /-- Where git makes it. -/
  staging : Place
deriving DecidableEq, Repr

/-- The staging directory for a clone, beside its place. -/
def Place.staging (place : Place) (tag : String) : Place :=
  let stem := Text.withoutTail Endpoint.gitSuffix (place.getLast?.getD [])
  place.dropLast ++ [stem ++ ".tmp-".toList ++ tag.toList]

/-- What git is run for. -/
inductive GitTask where
  | clone (attempt : CloneAttempt)
  | fetch (endpoint : String) (place : Place)
deriving DecidableEq, Repr

def GitTask.action : GitTask → GitAction
  | .clone attempt => .clone attempt.endpoint attempt.staging
  | .fetch endpoint place => .refresh endpoint place

/-- Where an operation stands. -/
inductive OperationPhase where
  /-- The next endpoint is looked at. -/
  | choosing
  /-- The directories for a clone are made. -/
  | preparing (endpoint : String) (place : Place)
  /-- Git is started. -/
  | launching (task : GitTask)
  /-- Git is running. -/
  | running (task : GitTask)
  /-- A finished clone is put into its place. -/
  | placing (attempt : CloneAttempt)
  /-- After a failure, a staging directory is looked for. -/
  | inspecting (attempt : CloneAttempt) (failure : LibraryError)
  /-- The staging directory is removed. -/
  | clearing (attempt : CloneAttempt) (failure : LibraryError)
  | over (result : Except LibraryError Unit)
deriving Repr

/-- A download or an update in progress. -/
structure Operation where
  kind : JobKind
  /-- All endpoints of the job. -/
  endpoints : List String
  /-- The endpoints that were not looked at yet. -/
  rest : List String
  /-- The failure of the last endpoint that failed. -/
  last : Option LibraryError := none
  phase : OperationPhase := .choosing
deriving Repr

namespace Operation

/-- An operation that begins. -/
def start (kind : JobKind) (endpoints : List String) : Operation :=
  { kind, endpoints, rest := endpoints }

/-- How the operation ended, if it has. -/
def result? (op : Operation) : Option (Except LibraryError Unit) :=
  match op.phase with
  | .over result => some result
  | _ => none

/-- What git is running for the operation, if it is. -/
def running? (op : Operation) : Option GitTask :=
  match op.phase with
  | .running task => some task
  | _ => none

def goTo (op : Operation) (phase : OperationPhase) : Operation :=
  { op with phase }

def finish (op : Operation) (result : Except LibraryError Unit) : Operation :=
  op.goTo (.over result)

/-- The failure when no endpoint is left. -/
def exhausted (op : Operation) : LibraryError :=
  let repository := op.endpoints.head?.getD ""
  match op.last with
  | some last => .allEndpointsFailed repository op.endpoints.length last
  | none => .repositoryNotFound repository

/-- What follows when an endpoint has failed: a cancellation ends the operation, anything else sends
it to the next endpoint. -/
def failWith (op : Operation) (failure : LibraryError) : Operation :=
  match failure with
  | .cancelled => op.finish (.error .cancelled)
  | _ => { op with last := some failure, phase := .choosing }

/-- What follows when the clone of an endpoint is found to be there, or not. -/
def afterLook (config : LibraryConfig) (op : Operation) (endpoint : String) (place : Place)
    (present : Bool) : Operation :=
  match op.kind, present with
  | .download, false => op.goTo (.preparing endpoint place)
  | .download, true =>
    if config.updateOnDownload then op.goTo (.launching (.fetch endpoint place))
    else op.finish (.ok ())
  | .update, false => op.failWith (.repositoryNotFound endpoint)
  | .update, true => op.goTo (.launching (.fetch endpoint place))

/-- The next endpoint is looked at. -/
def choose (config : LibraryConfig) (files : Files) (surroundings : Surroundings)
    (op : Operation) : Operation :=
  match op.rest with
  | [] => op.finish (.error op.exhausted)
  | endpoint :: rest =>
    let op := { op with rest }
    match Endpoint.clonePath? endpoint with
    | .error failure => op.failWith failure
    | .ok place =>
      match surroundings.allow (files.contains? place) with
      | .error fault => op.finish (.error (.io fault))
      | .ok present => op.afterLook config endpoint place present

/-- What follows when git has ended or could not be run. -/
def afterGit (op : Operation) (task : GitTask) (result : Except LibraryError Unit) : Operation :=
  match task, result with
  | .clone attempt, .ok () => op.goTo (.placing attempt)
  | .clone attempt, .error failure => op.goTo (.inspecting attempt failure)
  | .fetch _ _, .ok () => op.finish (.ok ())
  | .fetch _ _, .error failure =>
    match op.kind with
    | .download => op.finish (.error failure)
    | .update => op.failWith failure

/-- What is known of the git command in progress.  That the operation is to give up comes before
what git has left behind. -/
def gitResult? (config : LibraryConfig) (surroundings : Surroundings) (task : GitTask) :
    Option (Except LibraryError Unit) :=
  if surroundings.cancelled then some (.error .cancelled)
  else
    match surroundings.report, surroundings.fault with
    | some report, _ => some ((report.result config task.action).map fun _ => ())
    | none, some fault => some (.error (.io fault))
    | none, none => none

/-- One step of an operation; none if it has to wait for git or is over. -/
def step (config : LibraryConfig) (surroundings : Surroundings) (op : Operation) (files : Files) :
    Option (Operation × Files) :=
  match op.phase with
  | .choosing => some (op.choose config files surroundings, files)
  | .preparing endpoint place =>
    match surroundings.allow (files.makeDirectories place.dropLast) with
    | .error fault => some (op.failWith (.io fault), files)
    | .ok files =>
      let staging := place.staging surroundings.tag
      some (op.goTo (.launching (.clone { endpoint, place, staging })), files)
  | .launching task =>
    match surroundings.fault with
    | some fault => some (op.afterGit task (.error (.io fault)), files)
    | none => some (op.goTo (.running task), files)
  | .running task =>
    (gitResult? config surroundings task).map fun result => (op.afterGit task result, files)
  | .placing attempt =>
    match surroundings.allow (files.rename attempt.staging attempt.place) with
    | .error fault => some (op.goTo (.inspecting attempt (.io fault)), files)
    | .ok files => some (op.finish (.ok ()), files)
  | .inspecting attempt failure =>
    match surroundings.allow (files.contains? attempt.staging) with
    | .ok true => some (op.goTo (.clearing attempt failure), files)
    | _ => some (op.failWith failure, files)
  | .clearing attempt failure =>
    match surroundings.allow (files.removeTree attempt.staging) with
    | .error _ => some (op.failWith failure, files)
    | .ok files => some (op.failWith failure, files)
  | .over _ => none

/-- How many steps an operation makes at most: seven for an endpoint, and one to end. -/
def stepBound (op : Operation) : Nat :=
  7 * (op.rest.length + 1) + 1

end Operation

/-- The outcome of a job whose work is done on a library. -/
def JobResult.ofLibrary : Except LibraryError Unit → JobResult
  | .ok () => .ok ()
  | .error failure => .error (.library failure)

end RepoCollector
