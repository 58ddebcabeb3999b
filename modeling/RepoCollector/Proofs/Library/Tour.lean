import RepoCollector.Proofs.Endpoint.Identifiers
import RepoCollector.Proofs.Library.Trials

/-! # Tours of a job

What a job does can be watched from outside: it looks whether the library holds the clone of an
endpoint, it asks git for something, and git answers (`RepoCollector.TourEvent`).  A command that
cannot be started is answered at once.

When every file operation succeeds, what is watched is a sequence of *visits*, one for each endpoint
that names a repository, in order, until one of them settles the job.  A download asks git for a
clone of each endpoint that it visits unless there is a clone already, and an update asks git to
fetch into the clone that there is (`RepoCollector.Tour.visits_until_settled`).
-/

namespace RepoCollector

open Endpoint

namespace Endpoint

/-- The endpoint names a repository. -/
def isNamed (endpoint : String) : Bool := (idOf endpoint).isSome

theorem isNamed_of_ok {endpoint : String} {place : Place}
    (named : clonePath? endpoint = .ok place) : isNamed endpoint = true := by
  unfold clonePath? at named
  split at named
  next segments found => rw [isNamed, idOf_eq found, Option.isSome_some]
  next => cases named

end Endpoint

/-- What can be watched of a job. -/
inductive TourEvent where
  /-- It was looked whether there is a clone. -/
  | looked (endpoint : String) (present : Bool)
  | asked (action : GitAction)
  | answered (outcome : Except LibraryError Unit)

/-- An endpoint that names a repository, when its turn has come. -/
structure TourVisit where
  endpoint : String
  /-- Whether there was a clone. -/
  present : Bool
  /-- What git was asked, and what came of it. -/
  errand : Option (GitAction × Except LibraryError Unit) := none

namespace TourVisit

def events (visit : TourVisit) : List TourEvent :=
  .looked visit.endpoint visit.present ::
    match visit.errand with
    | none => []
    | some (action, outcome) => [.asked action, .answered outcome]

/-- What came of a visit: git's success or failure, or what was found. -/
def outcome (visit : TourVisit) : Except LibraryError Unit :=
  match visit.errand, visit.present with
  | some (_, outcome), _ => outcome
  | none, true => .ok ()
  | none, false => .error (.repositoryNotFound visit.endpoint)

/-- Nothing comes after a visit that succeeds or is told to give up. -/
def Settles (visit : TourVisit) : Prop :=
  visit.outcome = .ok () ∨ visit.outcome = .error .cancelled

/-- **What a visit is like.**  A download asks for a clone if there is none, and an update fetches
into the one that there is. -/
inductive IsFor : JobKind → TourVisit → Prop where
  | clones {endpoint : String} {place : Place} (named : clonePath? endpoint = .ok place)
      (tag : String) (outcome : Except LibraryError Unit) :
      IsFor .download ⟨endpoint, false, some (.clone endpoint (place.staging tag), outcome)⟩
  | keeps {endpoint : String} {place : Place} (named : clonePath? endpoint = .ok place) :
      IsFor .download ⟨endpoint, true, none⟩
  | refreshes {endpoint : String} {place : Place} (named : clonePath? endpoint = .ok place)
      (outcome : Except LibraryError Unit) :
      IsFor .update ⟨endpoint, true, some (.refresh endpoint place, outcome)⟩
  | misses {endpoint : String} {place : Place} (named : clonePath? endpoint = .ok place) :
      IsFor .update ⟨endpoint, false, none⟩

theorem IsFor.isNamed {kind : JobKind} {visit : TourVisit} (fits : visit.IsFor kind) :
    isNamed visit.endpoint = true := by
  cases fits with
  | clones named | keeps named | refreshes named | misses named => exact isNamed_of_ok named

end TourVisit

/-! ## What a step adds -/

namespace Operation

/-- The failure of a file operation. -/
def fault? {α : Type} : Except FileFault α → Option FileFault
  | .error fault => some fault
  | .ok _ => none

theorem exists_of_fault? {α : Type} {outcome : Except FileFault α} (calm : fault? outcome = none) :
    ∃ value, outcome = .ok value := by
  cases outcome with
  | error => cases calm
  | ok value => exact ⟨value, rfl⟩

/-- The failure of the file operation that a step makes. -/
def mishap? (surroundings : Surroundings) (op : Operation) (files : Files) : Option FileFault :=
  match op.phase with
  | .choosing =>
    op.rest.head?.bind fun endpoint =>
      match clonePath? endpoint with
      | .error _ => none
      | .ok place => fault? (surroundings.allow (files.contains? place))
  | .preparing _ place => fault? (surroundings.allow (files.makeDirectories place.dropLast))
  | .placing attempt => fault? (surroundings.allow (files.rename attempt.staging attempt.place))
  | .inspecting attempt _ => fault? (surroundings.allow (files.contains? attempt.staging))
  | .clearing attempt _ => fault? (surroundings.allow (files.removeTree attempt.staging))
  | .launching _ | .running _ | .over _ => none

/-- What can be watched of a step. -/
def events (config : LibraryConfig) (surroundings : Surroundings) (op : Operation)
    (files : Files) : List TourEvent :=
  match op.phase with
  | .choosing =>
    match op.rest with
    | [] => []
    | endpoint :: _ =>
      match clonePath? endpoint with
      | .error _ => []
      | .ok place =>
        match surroundings.allow (files.contains? place) with
        | .error _ => []
        | .ok present => [.looked endpoint present]
  | .launching task =>
    .asked task.action ::
      (surroundings.fault.map fun fault => .answered (.error (.io fault))).toList
  | .running task => ((gitResult? config surroundings task).map .answered).toList
  | .preparing _ _ | .placing _ | .inspecting _ _ | .clearing _ _ | .over _ => []

/-- What was watched of the visit that an operation is at. -/
inductive Watched : JobKind → OperationPhase → List TourEvent → Prop where
  | choosing {kind : JobKind} : Watched kind .choosing []
  | over {kind : JobKind} {result : Except LibraryError Unit} : Watched kind (.over result) []
  | preparing {endpoint : String} {place : Place} (named : clonePath? endpoint = .ok place) :
      Watched .download (.preparing endpoint place) [.looked endpoint false]
  | launchingClone {endpoint : String} {place : Place} {tag : String}
      (named : clonePath? endpoint = .ok place) :
      Watched .download (.launching (.clone ⟨endpoint, place, place.staging tag⟩))
        [.looked endpoint false]
  | cloning {endpoint : String} {place : Place} {tag : String}
      (named : clonePath? endpoint = .ok place) :
      Watched .download (.running (.clone ⟨endpoint, place, place.staging tag⟩))
        [.looked endpoint false, .asked (.clone endpoint (place.staging tag))]
  | placing {endpoint : String} {place : Place} {tag : String}
      (named : clonePath? endpoint = .ok place) :
      Watched .download (.placing ⟨endpoint, place, place.staging tag⟩)
        [.looked endpoint false, .asked (.clone endpoint (place.staging tag)), .answered (.ok ())]
  | inspecting {endpoint : String} {place : Place} {tag : String} {failure : LibraryError}
      (named : clonePath? endpoint = .ok place) :
      Watched .download (.inspecting ⟨endpoint, place, place.staging tag⟩ failure)
        [.looked endpoint false, .asked (.clone endpoint (place.staging tag)),
          .answered (.error failure)]
  | clearing {endpoint : String} {place : Place} {tag : String} {failure : LibraryError}
      (named : clonePath? endpoint = .ok place) :
      Watched .download (.clearing ⟨endpoint, place, place.staging tag⟩ failure)
        [.looked endpoint false, .asked (.clone endpoint (place.staging tag)),
          .answered (.error failure)]
  | launchingFetch {endpoint : String} {place : Place} (named : clonePath? endpoint = .ok place) :
      Watched .update (.launching (.fetch endpoint place)) [.looked endpoint true]
  | fetching {endpoint : String} {place : Place} (named : clonePath? endpoint = .ok place) :
      Watched .update (.running (.fetch endpoint place))
        [.looked endpoint true, .asked (.refresh endpoint place)]

end Operation

/-- **The visits that trials are.**  An endpoint that names no repository is not visited. -/
inductive Visited (kind : JobKind) : List Trial → List TourVisit → Prop where
  | nil : Visited kind [] []
  | unnamed {trials : List Trial} {visits : List TourVisit} {endpoint : String}
      {failure : LibraryError} (before : Visited kind trials visits)
      (unnamed : clonePath? endpoint = .error failure) :
      Visited kind (trials ++ [⟨endpoint, .invalid failure⟩]) visits
  | visit {trials : List Trial} {visits : List TourVisit} {trial : Trial} {visit : TourVisit}
      (before : Visited kind trials visits) (fits : visit.IsFor kind)
      (endpoint : visit.endpoint = trial.endpoint) (outcome : visit.outcome = trial.outcome)
      (patient : trial.fate.endsJob kind = false) :
      Visited kind (trials ++ [trial]) (visits ++ [visit])

namespace Visited

variable {kind : JobKind} {trials : List Trial} {visits : List TourVisit}

theorem append {more : List Trial} {others : List TourVisit} (visited : Visited kind trials visits)
    (adding : Visited kind more others) : Visited kind (trials ++ more) (visits ++ others) := by
  induction adding with
  | nil =>
      rw [List.append_nil, List.append_nil]
      exact visited
  | unnamed _ unnamed ih =>
      rw [← List.append_assoc]
      exact .unnamed ih unnamed
  | visit _ fits endpoint outcome patient ih =>
      rw [← List.append_assoc, ← List.append_assoc]
      exact .visit ih fits endpoint outcome patient

/-- The last trial is a visit, or its endpoint names no repository. -/
theorem concat {trial : Trial} (visited : Visited kind (trials ++ [trial]) visits) :
    (∃ failure, clonePath? trial.endpoint = .error failure ∧ trial.fate = .invalid failure ∧
      Visited kind trials visits) ∨
    ∃ before visit, visits = before ++ [visit] ∧ Visited kind trials before ∧
      visit.endpoint = trial.endpoint ∧ visit.outcome = trial.outcome ∧
      trial.fate.endsJob kind = false := by
  generalize shape : trials ++ [trial] = all at visited
  cases visited with
  | nil => exact absurd shape (List.append_ne_nil_of_right_ne_nil _ (List.cons_ne_nil _ _))
  | unnamed before unnamed =>
      obtain ⟨rfl, same⟩ := List.append_inj' shape rfl
      cases same
      exact .inl ⟨_, unnamed, rfl, before⟩
  | visit before _ endpoint outcome patient =>
      obtain ⟨rfl, same⟩ := List.append_inj' shape rfl
      cases same
      exact .inr ⟨_, _, rfl, before, endpoint, outcome, patient⟩

end Visited

/-- What was watched of an operation: the visits of its trials, and the one that it is at. -/
def Accounts (kind : JobKind) (trials : List Trial) (phase : OperationPhase)
    (trace : List TourEvent) : Prop :=
  ∃ visits rest, Visited kind trials visits ∧ trace = visits.flatMap TourVisit.events ++ rest ∧
    Operation.Watched kind phase rest

namespace Accounts

variable {kind : JobKind} {phase : OperationPhase} {trace : List TourEvent}

theorem goesOn (watched : Operation.Watched kind phase trace) : Accounts kind [] phase trace :=
  ⟨[], trace, .nil, rfl, watched⟩

theorem closes {trial : Trial} {visit : TourVisit} (fits : visit.IsFor kind)
    (endpoint : visit.endpoint = trial.endpoint) (outcome : visit.outcome = trial.outcome)
    (patient : trial.fate.endsJob kind = false) (free : Operation.Watched kind phase []) :
    Accounts kind [trial] phase visit.events := by
  refine ⟨[visit], [], .visit .nil fits endpoint outcome patient, ?_, free⟩
  rw [List.flatMap_singleton, List.append_nil]

/-- What a step adds comes behind what was there. -/
theorem append {trials verdict : List Trial} {now : OperationPhase} {added : List TourEvent}
    (before : Accounts kind trials phase trace)
    (adds : ∀ rest, Operation.Watched kind phase rest → Accounts kind verdict now (rest ++ added)) :
    Accounts kind (trials ++ verdict) now (trace ++ added) := by
  obtain ⟨visits, rest, visited, rfl, watched⟩ := before
  obtain ⟨more, left, adding, shape, free⟩ := adds rest watched
  refine ⟨visits ++ more, left, visited.append adding, ?_, free⟩
  rw [List.append_assoc, shape, List.flatMap_append, List.append_assoc]

end Accounts

namespace Operation

variable {config : LibraryConfig} {surroundings : Surroundings} {op next : Operation}
  {files after : Files} {kind : JobKind} {trace : List TourEvent}

/-- Between two visits nothing is watched. -/
theorem Watched.eq_nil {phase : OperationPhase} (watched : Watched kind phase trace)
    (free : phase = .choosing ∨ ∃ result, phase = .over result) : trace = [] := by
  obtain rfl | ⟨result, rfl⟩ := free
  · cases watched
    rfl
  · cases watched
    rfl

theorem watched_failWith (op : Operation) (failure : LibraryError) :
    Watched kind (op.failWith failure).phase [] := by
  cases failure with
  | cancelled => exact .over
  | _ => exact .choosing

private theorem accounts_of_look {endpoint : String} {place : Place} (op : Operation)
    (plain : config.updateOnDownload = false) (named : clonePath? endpoint = .ok place)
    (present : Bool) :
    Accounts op.kind ((seen? config op.kind present).map (Trial.mk endpoint)).toList
      (op.afterLook config endpoint place present).phase [.looked endpoint present] := by
  unfold afterLook seen?
  rw [plain]
  generalize op.kind = kind
  cases kind with
  | download =>
      cases present with
      | false => exact .goesOn (.preparing named)
      | true => exact .closes (.keeps named) rfl rfl rfl .over
  | update =>
      cases present with
      | false => exact .closes (.misses named) rfl rfl rfl (watched_failWith _ _)
      | true => exact .goesOn (.launchingFetch named)

private theorem accounts_of_choose (plain : config.updateOnDownload = false)
    (choosing : op.phase = .choosing) (calm : op.mishap? surroundings files = none) :
    Accounts op.kind (op.verdict? config surroundings files).toList
      (op.choose config files surroundings).phase (op.events config surroundings files) := by
  unfold mishap? at calm
  unfold choose verdict? events
  rw [choosing] at calm ⊢
  dsimp only at calm ⊢
  cases split : op.rest with
  | nil => exact .goesOn .over
  | cons endpoint rest =>
      rw [split] at calm
      simp only [List.head?_cons, Option.bind_some, look?] at calm ⊢
      cases named : clonePath? endpoint with
      | error failure =>
          exact ⟨[], [], .unnamed .nil named, rfl, watched_failWith _ _⟩
      | ok place =>
          rw [named] at calm
          dsimp only at calm ⊢
          obtain ⟨present, looked⟩ := exists_of_fault? calm
          rw [looked]
          exact accounts_of_look { op with rest, phase := .choosing } plain named present

private theorem accounts_of_fetch {endpoint : String} {place : Place} (sort : op.kind = .update)
    (named : clonePath? endpoint = .ok place) (result : Except LibraryError Unit) :
    Accounts .update [⟨endpoint, .refreshed result⟩]
      (op.afterGit (.fetch endpoint place) result).phase
      [.looked endpoint true, .asked (.refresh endpoint place), .answered result] := by
  apply Accounts.closes (.refreshes named result) rfl rfl rfl
  unfold afterGit
  rw [sort]
  cases result with
  | ok => exact .over
  | error failure => exact watched_failWith op failure

private theorem accounts_of_clone {endpoint : String} {place : Place} {tag : String}
    (named : clonePath? endpoint = .ok place) (result : Except LibraryError Unit) :
    Accounts .download [] (op.afterGit (.clone ⟨endpoint, place, place.staging tag⟩) result).phase
      [.looked endpoint false, .asked (.clone endpoint (place.staging tag)),
        .answered result] := by
  cases result with
  | ok => exact .goesOn (.placing named)
  | error failure => exact .goesOn (.inspecting named)

private theorem accounts_of_failure {endpoint : String} {place : Place} {tag : String}
    (named : clonePath? endpoint = .ok place) (failure : LibraryError) :
    Accounts .download [⟨endpoint, .cloned (.error failure)⟩] (op.failWith failure).phase
      [.looked endpoint false, .asked (.clone endpoint (place.staging tag)),
        .answered (.error failure)] :=
  .closes (.clones named tag (.error failure)) rfl rfl rfl (watched_failWith op failure)

/-! In each phase there is one thing that can have been watched of the visit so far. -/

section Phases

variable {attempt : CloneAttempt} {task : GitTask} {failure : LibraryError}
  (stepped : op.step config surroundings files = some (next, after))
  (watched : Watched op.kind op.phase trace)

include stepped watched

private theorem accounts_of_preparing {endpoint : String} {place : Place}
    (preparing : op.phase = .preparing endpoint place)
    (calm : op.mishap? surroundings files = none) :
    Accounts op.kind (op.verdict? config surroundings files).toList next.phase
      (trace ++ op.events config surroundings files) := by
  unfold step at stepped
  unfold mishap? at calm
  unfold verdict? events
  rw [preparing] at stepped calm watched ⊢
  generalize op.kind = kind at watched ⊢
  cases watched with
  | preparing named =>
      dsimp only at stepped calm ⊢
      obtain ⟨made, makes⟩ := exists_of_fault? calm
      rw [makes] at stepped ⊢
      cases stepped
      exact .goesOn (.launchingClone named)

private theorem accounts_of_launching (launching : op.phase = .launching task) :
    Accounts op.kind (op.verdict? config surroundings files).toList next.phase
      (trace ++ op.events config surroundings files) := by
  unfold step at stepped
  unfold verdict? events
  rw [launching] at stepped watched ⊢
  generalize sort : op.kind = kind at watched ⊢
  cases fault : surroundings.fault with
  | none =>
      rw [fault] at stepped
      cases stepped
      cases watched with
      | launchingClone named => exact .goesOn (.cloning named)
      | launchingFetch named => exact .goesOn (.fetching named)
  | some fault =>
      rw [fault] at stepped
      cases stepped
      cases watched with
      | launchingClone named => exact accounts_of_clone named _
      | launchingFetch named => exact accounts_of_fetch sort named _

private theorem accounts_of_running (running : op.phase = .running task) :
    Accounts op.kind (op.verdict? config surroundings files).toList next.phase
      (trace ++ op.events config surroundings files) := by
  unfold step at stepped
  unfold verdict? events
  rw [running] at stepped watched ⊢
  obtain ⟨result, told, same⟩ := Option.map_eq_some_iff.mp stepped
  cases same
  generalize sort : op.kind = kind at watched ⊢
  cases watched with
  | cloning named =>
      dsimp only
      rw [told]
      exact accounts_of_clone named result
  | fetching named =>
      dsimp only
      rw [told]
      exact accounts_of_fetch sort named result

private theorem accounts_of_placing (placing : op.phase = .placing attempt)
    (calm : op.mishap? surroundings files = none) :
    Accounts op.kind (op.verdict? config surroundings files).toList next.phase
      (trace ++ op.events config surroundings files) := by
  unfold step at stepped
  unfold mishap? at calm
  unfold verdict? events
  rw [placing] at stepped calm watched ⊢
  generalize op.kind = kind at watched ⊢
  cases watched with
  | placing named =>
      dsimp only at stepped calm ⊢
      obtain ⟨placed, renames⟩ := exists_of_fault? calm
      rw [renames] at stepped ⊢
      cases stepped
      exact .closes (.clones named _ (.ok ())) rfl rfl rfl .over

private theorem accounts_of_inspecting (inspecting : op.phase = .inspecting attempt failure)
    (calm : op.mishap? surroundings files = none) :
    Accounts op.kind (op.verdict? config surroundings files).toList next.phase
      (trace ++ op.events config surroundings files) := by
  unfold step at stepped
  unfold mishap? at calm
  unfold verdict? events
  rw [inspecting] at stepped calm watched ⊢
  generalize op.kind = kind at watched ⊢
  cases watched with
  | inspecting named =>
      dsimp only at stepped calm ⊢
      obtain ⟨present, seen⟩ := exists_of_fault? calm
      rw [seen] at stepped ⊢
      cases present with
      | true =>
          cases stepped
          exact .goesOn (.clearing named)
      | false =>
          cases stepped
          exact accounts_of_failure named failure

private theorem accounts_of_clearing (clearing : op.phase = .clearing attempt failure)
    (calm : op.mishap? surroundings files = none) :
    Accounts op.kind (op.verdict? config surroundings files).toList next.phase
      (trace ++ op.events config surroundings files) := by
  unfold step at stepped
  unfold mishap? at calm
  unfold verdict? events
  rw [clearing] at stepped calm watched ⊢
  generalize op.kind = kind at watched ⊢
  cases watched with
  | clearing named =>
      dsimp only at stepped calm ⊢
      obtain ⟨cleared, removes⟩ := exists_of_fault? calm
      rw [removes] at stepped
      cases stepped
      exact accounts_of_failure named failure

end Phases

/-- **What is watched of a step belongs to the visit that the operation is at.**  When the file
system lets the step succeed, the visit goes on or comes to its end with the trial. -/
theorem accounts_of_step (plain : config.updateOnDownload = false)
    (stepped : op.step config surroundings files = some (next, after))
    (calm : op.mishap? surroundings files = none) (watched : Watched op.kind op.phase trace) :
    Accounts op.kind (op.verdict? config surroundings files).toList next.phase
      (trace ++ op.events config surroundings files) := by
  cases phase : op.phase with
  | choosing =>
      rw [watched.eq_nil (.inl phase)]
      rw [step, phase] at stepped
      cases stepped
      exact accounts_of_choose plain phase calm
  | preparing endpoint place => exact accounts_of_preparing stepped watched phase calm
  | launching task => exact accounts_of_launching stepped watched phase
  | running task => exact accounts_of_running stepped watched phase
  | placing attempt => exact accounts_of_placing stepped watched phase calm
  | inspecting attempt failure => exact accounts_of_inspecting stepped watched phase calm
  | clearing attempt failure => exact accounts_of_clearing stepped watched phase calm
  | _ =>
      rw [step, phase] at stepped
      cases stepped

end Operation

/-! ## Tours -/

/-- A round that is watched. -/
structure Tour where
  round : Round
  /-- What was watched, the first event first. -/
  trace : List TourEvent := []
  /-- The file operations that have failed. -/
  mishaps : List FileFault := []

namespace Tour

def start (kind : JobKind) (endpoints : List String) (files : Files) : Tour :=
  { round := .start kind endpoints files }

/-- A move of the round, and what is watched of it. -/
def act (config : LibraryConfig) (move : RoundMove) (t : Tour) : Option Tour :=
  (t.round.act config move).map fun round =>
    match move with
    | .others _ => { t with round }
    | .step surroundings =>
      { round, trace := t.trace ++ t.round.op.events config surroundings t.round.files,
        mishaps := t.mishaps ++ (t.round.op.mishap? surroundings t.round.files).toList }

variable {config : LibraryConfig} {kind : JobKind} {endpoints : List String} {files : Files}
  {t u : Tour}

/-- What holds of a tour as long as no file operation has failed. -/
def IsTold (kind : JobKind) (t : Tour) : Prop :=
  t.round.op.kind = kind ∧
    (t.mishaps = [] → Accounts kind t.round.trials t.round.op.phase t.trace)

theorem IsTold.act (told : t.IsTold kind) (plain : config.updateOnDownload = false)
    {move : RoundMove} (moved : act config move t = some u) : u.IsTold kind := by
  obtain ⟨rfl, accounts⟩ := told
  obtain ⟨round, advanced, rfl⟩ := Option.map_eq_some_iff.mp moved
  cases move with
  | others files =>
      cases advanced
      exact ⟨rfl, accounts⟩
  | step surroundings =>
      obtain ⟨⟨op, files⟩, stepped, rfl⟩ := Option.map_eq_some_iff.mp advanced
      refine ⟨(Operation.step_keeps stepped).1, fun calm => ?_⟩
      obtain ⟨before, here⟩ := List.append_eq_nil_iff.mp calm
      exact (accounts before).append fun rest watched =>
        Operation.accounts_of_step plain stepped (Option.toList_eq_nil_iff.mp here) watched

end Tour

end RepoCollector
