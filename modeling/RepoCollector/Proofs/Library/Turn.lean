import RepoCollector.Library.Operation

/-! # Turns of an operation

A step of a download or an update is one of a few turns (`RepoCollector.Operation.Turn`,
`RepoCollector.Operation.turn_of_step`).  Only three of them change files: the directories for a
clone are made, a finished clone is put into its place, a staging directory is removed.  An
operation that is at an attempt to clone stays at it until it has put the clone into its place or is
through with the removal.
-/

namespace RepoCollector

open Endpoint

/-- Whether an operation is told that git has ended. -/
def Surroundings.reports (surroundings : Surroundings) : Bool :=
  !surroundings.cancelled && surroundings.report.isSome

/-- Where git works. -/
def GitTask.directory : GitTask → Place
  | .clone attempt => attempt.staging
  | .fetch _ place => place

namespace Operation

/-- The places of the clones that the endpoints of an operation name. -/
def places (op : Operation) : List Place :=
  op.endpoints.filterMap fun endpoint => (clonePath? endpoint).toOption

/-- The attempt to clone that an operation is at. -/
def attempt? (op : Operation) : Option CloneAttempt :=
  match op.phase with
  | .launching (.clone attempt) | .running (.clone attempt) | .placing attempt
  | .inspecting attempt _ | .clearing attempt _ => some attempt
  | _ => none

/-- What git is to be run for, or is running for. -/
def task? (op : Operation) : Option GitTask :=
  match op.phase with
  | .launching task | .running task => some task
  | _ => none

theorem attempt?_of_task? {op : Operation} {attempt : CloneAttempt}
    (task : op.task? = some (.clone attempt)) : op.attempt? = some attempt := by
  unfold task? at task
  split at task
  next phase =>
    cases task
    rw [attempt?, phase]
  next phase =>
    cases task
    rw [attempt?, phase]
  next => cases task

/-- The operation is between two endpoints or over. -/
def IsFree (op : Operation) : Prop :=
  op.phase = .choosing ∨ ∃ result, op.phase = .over result

variable {config : LibraryConfig} {surroundings : Surroundings} {op next : Operation}
  {files after : Files}

theorem attempt?_of_isFree (free : op.IsFree) : op.attempt? = none := by
  obtain phase | ⟨_, phase⟩ := free
  · rw [attempt?, phase]
  · rw [attempt?, phase]

theorem task?_of_isFree (free : op.IsFree) : op.task? = none := by
  obtain phase | ⟨_, phase⟩ := free
  · rw [task?, phase]
  · rw [task?, phase]

theorem isFree_finish (op : Operation) (result : Except LibraryError Unit) :
    (op.finish result).IsFree := .inr ⟨result, rfl⟩

theorem isFree_failWith (op : Operation) (failure : LibraryError) :
    (op.failWith failure).IsFree := by
  cases failure with
  | cancelled => exact isFree_finish op _
  | _ => exact .inl rfl

theorem step_of_result (ends : op.result?.isSome = true) (files : Files) :
    op.step config surroundings files = none := by
  obtain ⟨result, found⟩ := Option.isSome_iff_exists.mp ends
  unfold result? at found
  split at found
  next phase => rw [step, phase]
  next => cases found

theorem attempt?_of_result (ends : op.result?.isSome = true) : op.attempt? = none := by
  obtain ⟨result, found⟩ := Option.isSome_iff_exists.mp ends
  unfold result? at found
  split at found
  next phase => rw [attempt?, phase]
  next => cases found

/-- **The turns of an operation.** -/
inductive Turn (config : LibraryConfig) (surroundings : Surroundings) (op : Operation)
    (files : Files) (next : Operation) : Files → Prop where
  /-- An operation that is at no attempt to clone ends or comes to its next endpoint. -/
  | goesOn (idle : op.attempt? = none) (free : next.IsFree) :
      Turn config surroundings op files next files
  /-- There is no clone yet. -/
  | prepares {endpoint : String} {place : Place} (choosing : op.phase = .choosing)
      (member : endpoint ∈ op.rest) (named : clonePath? endpoint = .ok place)
      (absent : files.contains? place = .ok false)
      (now : next.phase = .preparing endpoint place) :
      Turn config surroundings op files next files
  /-- There is a clone to fetch into. -/
  | refreshes {endpoint : String} {place : Place} (choosing : op.phase = .choosing)
      (member : endpoint ∈ op.rest) (named : clonePath? endpoint = .ok place)
      (asked : op.kind = .update ∨ config.updateOnDownload = true)
      (now : next.phase = .launching (.fetch endpoint place)) :
      Turn config surroundings op files next files
  /-- The way to a clone is made, and a staging directory is chosen. -/
  | draws {endpoint : String} {place : Place} {made : Files}
      (preparing : op.phase = .preparing endpoint place)
      (makes : files.makeDirectories place.dropLast = .ok made)
      (now : next.phase = .launching
        (.clone { endpoint, place, staging := place.staging surroundings.tag })) :
      Turn config surroundings op files next made
  | starts {task : GitTask} (launching : op.phase = .launching task)
      (now : next.phase = .running task) :
      Turn config surroundings op files next files
  /-- Git has finished a clone. -/
  | succeeds {attempt : CloneAttempt} {report : GitReport}
      (running : op.phase = .running (.clone attempt)) (going : surroundings.cancelled = false)
      (told : surroundings.report = some report) (exit : report.exit = 0)
      (now : next.phase = .placing attempt) :
      Turn config surroundings op files next files
  /-- An attempt to clone has failed. -/
  | givesUp {attempt : CloneAttempt} {failure : LibraryError}
      (trying : op.phase = .launching (.clone attempt) ∨ op.phase = .running (.clone attempt) ∨
        op.phase = .placing attempt)
      (now : next.phase = .inspecting attempt failure) :
      Turn config surroundings op files next files
  /-- A finished clone is put into its place. -/
  | places {attempt : CloneAttempt} {placed : Files} (placing : op.phase = .placing attempt)
      (renames : files.rename attempt.staging attempt.place = .ok placed) (free : next.IsFree) :
      Turn config surroundings op files next placed
  /-- The staging directory of an attempt is there. -/
  | finds {attempt : CloneAttempt} {failure : LibraryError}
      (inspecting : op.phase = .inspecting attempt failure)
      (now : next.phase = .clearing attempt failure) :
      Turn config surroundings op files next files
  /-- The staging directory of an attempt is not seen. -/
  | leaves {attempt : CloneAttempt} {failure : LibraryError}
      (inspecting : op.phase = .inspecting attempt failure)
      (unseen : surroundings.fault ≠ none ∨ files.contains? attempt.staging ≠ .ok true)
      (free : next.IsFree) :
      Turn config surroundings op files next files
  | clears {attempt : CloneAttempt} {failure : LibraryError} {cleared : Files}
      (clearing : op.phase = .clearing attempt failure)
      (removes : files.removeTree attempt.staging = .ok cleared) (free : next.IsFree) :
      Turn config surroundings op files next cleared
  /-- The staging directory of an attempt cannot be removed. -/
  | abandons {attempt : CloneAttempt} {failure : LibraryError}
      (clearing : op.phase = .clearing attempt failure)
      (stuck : surroundings.fault ≠ none ∨ ∃ fault, files.removeTree attempt.staging = .error fault)
      (free : next.IsFree) :
      Turn config surroundings op files next files

theorem allow_eq_ok {α : Type} {outcome : Except FileFault α} {value : α}
    (allowed : surroundings.allow outcome = .ok value) : outcome = .ok value := by
  unfold Surroundings.allow at allowed
  split at allowed
  next => cases allowed
  next => exact allowed

theorem allow_eq_error {α : Type} {outcome : Except FileFault α} {fault : FileFault}
    (refused : surroundings.allow outcome = .error fault) :
    surroundings.fault ≠ none ∨ outcome = .error fault := by
  unfold Surroundings.allow at refused
  split at refused
  next found => exact .inl (found ▸ Option.some_ne_none _)
  next => exact .inr refused

private theorem turn_of_choose (choosing : op.phase = .choosing) :
    op.Turn config surroundings files (op.choose config files surroundings) files := by
  have idle : op.attempt? = none := attempt?_of_isFree (.inl choosing)
  unfold choose
  split
  next => exact .goesOn idle (isFree_finish _ _)
  next endpoint rest split =>
    have member : endpoint ∈ op.rest := split ▸ List.mem_cons_self
    dsimp only
    split
    next => exact .goesOn idle (isFree_failWith _ _)
    next place named =>
      split
      next => exact .goesOn idle (isFree_finish _ _)
      next present allowed =>
        have looked := allow_eq_ok allowed
        unfold afterLook
        cases kind : op.kind with
        | download =>
            cases present with
            | false => exact .prepares choosing member named looked rfl
            | true =>
                dsimp only
                split
                next asked => exact .refreshes choosing member named (.inr asked) rfl
                next => exact .goesOn idle (isFree_finish _ _)
        | update =>
            cases present with
            | false => exact .goesOn idle (isFree_failWith _ _)
            | true => exact .refreshes choosing member named (.inl kind) rfl

private theorem turn_of_failure {task : GitTask} {failure : LibraryError}
    (at_task : op.phase = .launching task ∨ op.phase = .running task) :
    op.Turn config surroundings files (op.afterGit task (.error failure)) files := by
  cases task with
  | clone attempt =>
      apply Turn.givesUp _ rfl
      obtain launching | running := at_task
      · exact .inl launching
      · exact .inr (.inl running)
  | fetch endpoint place =>
      have idle : op.attempt? = none := by
        obtain phase | phase := at_task
        · rw [attempt?, phase]
        · rw [attempt?, phase]
      unfold afterGit
      dsimp only
      split
      next => exact .goesOn idle (isFree_finish _ _)
      next => exact .goesOn idle (isFree_failWith _ _)

/-- A success of git is taken up only if the operation goes on and git's status says so. -/
theorem gitResult?_eq_ok {task : GitTask}
    (told : gitResult? config surroundings task = some (.ok ())) :
    surroundings.cancelled = false ∧
      ∃ report, surroundings.report = some report ∧ report.exit = 0 := by
  unfold gitResult? at told
  split at told
  next => cases told
  next going =>
    refine ⟨Bool.not_eq_true _ ▸ going, ?_⟩
    cases reported : surroundings.report with
    | none =>
        rw [reported] at told
        cases fault : surroundings.fault with
        | none =>
            rw [fault] at told
            cases told
        | some fault =>
            rw [fault] at told
            cases told
    | some report =>
        rw [reported] at told
        dsimp only at told
        by_cases exit : report.exit = 0
        · exact ⟨report, rfl, exit⟩
        · rw [GitReport.result, if_neg exit] at told
          cases told

private theorem turn_of_report {task : GitTask} {result : Except LibraryError Unit}
    (running : op.phase = .running task)
    (told : gitResult? config surroundings task = some result) :
    op.Turn config surroundings files (op.afterGit task result) files := by
  cases result with
  | error failure => exact turn_of_failure (.inr running)
  | ok _ =>
      cases task with
      | fetch endpoint place =>
          have idle : op.attempt? = none := by rw [attempt?, running]
          exact .goesOn idle (isFree_finish _ _)
      | clone attempt =>
          obtain ⟨going, report, reported, exit⟩ := gitResult?_eq_ok told
          exact .succeeds running going reported exit rfl

/-- Every step is one of the turns. -/
theorem turn_of_step (stepped : op.step config surroundings files = some (next, after)) :
    op.Turn config surroundings files next after := by
  unfold step at stepped
  split at stepped
  next choosing =>
    cases stepped
    exact turn_of_choose choosing
  next endpoint place preparing =>
    split at stepped
    next =>
      cases stepped
      exact .goesOn (by rw [attempt?, preparing]) (isFree_failWith _ _)
    next made allowed =>
      cases stepped
      exact .draws preparing (allow_eq_ok allowed) rfl
  next task launching =>
    split at stepped
    next =>
      cases stepped
      exact turn_of_failure (.inl launching)
    next =>
      cases stepped
      exact .starts launching rfl
  next task running =>
    obtain ⟨result, told, same⟩ := Option.map_eq_some_iff.mp stepped
    cases same
    exact turn_of_report running told
  next attempt placing =>
    split at stepped
    next =>
      cases stepped
      exact .givesUp (.inr (.inr placing)) rfl
    next placed allowed =>
      cases stepped
      exact .places placing (allow_eq_ok allowed) (isFree_finish _ _)
  next attempt failure inspecting =>
    split at stepped
    next =>
      cases stepped
      exact .finds inspecting rfl
    next unseen =>
      cases stepped
      refine .leaves inspecting ?_ (isFree_failWith _ _)
      cases sound : surroundings.fault with
      | some fault => exact .inl (Option.some_ne_none fault)
      | none =>
          right
          intro seen
          apply unseen
          rw [Surroundings.allow, sound, seen]
  next attempt failure clearing =>
    split at stepped
    next fault refused =>
      cases stepped
      refine .abandons clearing ?_ (isFree_failWith _ _)
      exact (allow_eq_error refused).imp_right fun stuck => ⟨fault, stuck⟩
    next cleared allowed =>
      cases stepped
      exact .clears clearing (allow_eq_ok allowed) (isFree_failWith _ _)
  next => cases stepped

/-! ## What a step keeps -/

theorem failWith_keeps (op : Operation) (failure : LibraryError) :
    (op.failWith failure).kind = op.kind ∧ (op.failWith failure).endpoints = op.endpoints ∧
      (op.failWith failure).rest = op.rest := by
  cases failure <;> exact ⟨rfl, rfl, rfl⟩

theorem afterGit_keeps (op : Operation) (task : GitTask) (result : Except LibraryError Unit) :
    (op.afterGit task result).kind = op.kind ∧
      (op.afterGit task result).endpoints = op.endpoints ∧
      (op.afterGit task result).rest = op.rest := by
  unfold afterGit
  split
  next => exact ⟨rfl, rfl, rfl⟩
  next => exact ⟨rfl, rfl, rfl⟩
  next => exact ⟨rfl, rfl, rfl⟩
  next failure =>
    split
    next => exact ⟨rfl, rfl, rfl⟩
    next => exact op.failWith_keeps failure

theorem choose_keeps (config : LibraryConfig) (files : Files) (surroundings : Surroundings)
    (op : Operation) :
    (op.choose config files surroundings).kind = op.kind ∧
      (op.choose config files surroundings).endpoints = op.endpoints ∧
      (op.choose config files surroundings).rest ⊆ op.rest := by
  unfold choose
  split
  next none => exact ⟨rfl, rfl, List.Subset.refl _⟩
  next endpoint rest split =>
    have used : rest ⊆ op.rest := split ▸ List.subset_cons_self endpoint rest
    have keeps {other : Operation} (kept : other.kind = op.kind ∧
        other.endpoints = op.endpoints ∧ other.rest = rest) :
        other.kind = op.kind ∧ other.endpoints = op.endpoints ∧ other.rest ⊆ op.rest :=
      ⟨kept.1, kept.2.1, kept.2.2 ▸ used⟩
    dsimp only
    split
    next failure _ => exact keeps (failWith_keeps { op with rest } failure)
    next place _ =>
      split
      next => exact keeps ⟨rfl, rfl, rfl⟩
      next present _ =>
        unfold afterLook
        split
        next => exact keeps ⟨rfl, rfl, rfl⟩
        next => split <;> exact keeps ⟨rfl, rfl, rfl⟩
        next => exact keeps (failWith_keeps { op with rest } _)
        next => exact keeps ⟨rfl, rfl, rfl⟩

/-- A step keeps what the operation is for; it may use up an endpoint. -/
theorem step_keeps (stepped : op.step config surroundings files = some (next, after)) :
    next.kind = op.kind ∧ next.endpoints = op.endpoints ∧ next.rest ⊆ op.rest := by
  have keeps {other : Operation}
      (kept : other.kind = op.kind ∧ other.endpoints = op.endpoints ∧ other.rest = op.rest) :
      other.kind = op.kind ∧ other.endpoints = op.endpoints ∧ other.rest ⊆ op.rest :=
    ⟨kept.1, kept.2.1, kept.2.2 ▸ List.Subset.refl _⟩
  unfold step at stepped
  split at stepped
  next =>
    cases stepped
    exact choose_keeps config files surroundings op
  next =>
    split at stepped <;> cases stepped
    · exact keeps (op.failWith_keeps _)
    · exact keeps ⟨rfl, rfl, rfl⟩
  next =>
    split at stepped <;> cases stepped
    · exact keeps (op.afterGit_keeps _ _)
    · exact keeps ⟨rfl, rfl, rfl⟩
  next =>
    obtain ⟨_, _, same⟩ := Option.map_eq_some_iff.mp stepped
    cases same
    exact keeps (op.afterGit_keeps _ _)
  next => split at stepped <;> cases stepped <;> exact keeps ⟨rfl, rfl, rfl⟩
  next =>
    split at stepped <;> cases stepped
    · exact keeps ⟨rfl, rfl, rfl⟩
    · exact keeps (op.failWith_keeps _)
  next => split at stepped <;> cases stepped <;> exact keeps (op.failWith_keeps _)
  next => cases stepped

/-! ## Where a turn leads -/

namespace Turn

variable (turn : op.Turn config surroundings files next after)

include turn

/-- An operation comes to an attempt only by making it. -/
theorem attempt?_eq_some {attempt : CloneAttempt} (trying : next.attempt? = some attempt) :
    op.attempt? = some attempt ∨ next.phase = .launching (.clone attempt) := by
  cases turn with
  | goesOn _ free | places _ _ free | leaves _ _ free | clears _ _ free | abandons _ _ free =>
      rw [attempt?_of_isFree free] at trying
      cases trying
  | prepares _ _ _ _ now | refreshes _ _ _ _ now =>
      rw [attempt?, now] at trying
      cases trying
  | draws _ _ now =>
      rw [attempt?, now] at trying
      cases trying
      exact .inr now
  | @starts task launching now =>
      left
      rw [attempt?, now] at trying
      rw [attempt?, launching]
      cases task <;> exact trying
  | succeeds running _ _ _ now =>
      rw [attempt?, now] at trying
      cases trying
      exact .inl (by rw [attempt?, running])
  | givesUp phases now =>
      rw [attempt?, now] at trying
      cases trying
      left
      obtain phase | phase | phase := phases <;> rw [attempt?, phase]
  | finds inspecting now =>
      rw [attempt?, now] at trying
      cases trying
      exact .inl (by rw [attempt?, inspecting])

/-- An attempt is made for a clone whose way has been made. -/
theorem of_launching_clone {attempt : CloneAttempt}
    (launching : next.phase = .launching (.clone attempt)) :
    op.phase = .preparing attempt.endpoint attempt.place ∧
      attempt.staging = attempt.place.staging surroundings.tag ∧
      files.makeDirectories attempt.place.dropLast = .ok after := by
  cases turn with
  | goesOn _ free | places _ _ free | leaves _ _ free | clears _ _ free | abandons _ _ free =>
      obtain now | ⟨_, now⟩ := free <;> cases now.symm.trans launching
  | draws preparing makes now =>
      cases now.symm.trans launching
      exact ⟨preparing, rfl, makes⟩
  | prepares _ _ _ _ now | refreshes _ _ _ _ now | starts _ now | succeeds _ _ _ _ now
  | givesUp _ now | finds _ now => cases now.symm.trans launching

theorem of_running {task : GitTask} (running : next.phase = .running task) :
    op.phase = .launching task := by
  cases turn with
  | goesOn _ free | places _ _ free | leaves _ _ free | clears _ _ free | abandons _ _ free =>
      obtain now | ⟨_, now⟩ := free <;> cases now.symm.trans running
  | starts launching now =>
      cases now.symm.trans running
      exact launching
  | draws _ _ now | prepares _ _ _ _ now | refreshes _ _ _ _ now | succeeds _ _ _ _ now
  | givesUp _ now | finds _ now => cases now.symm.trans running

theorem of_placing {attempt : CloneAttempt} (placing : next.phase = .placing attempt) :
    op.phase = .running (.clone attempt) ∧ surroundings.reports = true ∧ after = files := by
  cases turn with
  | goesOn _ free | places _ _ free | leaves _ _ free | clears _ _ free | abandons _ _ free =>
      obtain now | ⟨_, now⟩ := free <;> cases now.symm.trans placing
  | succeeds running going told _ now =>
      cases now.symm.trans placing
      exact ⟨running, by rw [Surroundings.reports, going, told]; rfl, rfl⟩
  | draws _ _ now | prepares _ _ _ _ now | refreshes _ _ _ _ now | starts _ now
  | givesUp _ now | finds _ now => cases now.symm.trans placing

theorem of_preparing {endpoint : String} {place : Place}
    (preparing : next.phase = .preparing endpoint place) :
    endpoint ∈ op.rest ∧ clonePath? endpoint = .ok place ∧ files.contains? place = .ok false ∧
      after = files := by
  cases turn with
  | goesOn _ free | places _ _ free | leaves _ _ free | clears _ _ free | abandons _ _ free =>
      obtain now | ⟨_, now⟩ := free <;> cases now.symm.trans preparing
  | prepares _ member named absent now =>
      cases now.symm.trans preparing
      exact ⟨member, named, absent, rfl⟩
  | draws _ _ now | succeeds _ _ _ _ now | refreshes _ _ _ _ now | starts _ now
  | givesUp _ now | finds _ now => cases now.symm.trans preparing

theorem of_fetch {endpoint : String} {place : Place}
    (fetching : next.task? = some (.fetch endpoint place)) :
    op.task? = some (.fetch endpoint place) ∨ (endpoint ∈ op.rest ∧
      clonePath? endpoint = .ok place ∧ (op.kind = .update ∨ config.updateOnDownload = true)) := by
  cases turn with
  | goesOn _ free | places _ _ free | leaves _ _ free | clears _ _ free | abandons _ _ free =>
      rw [task?_of_isFree free] at fetching
      cases fetching
  | refreshes _ member named asked now =>
      rw [task?, now] at fetching
      cases fetching
      exact .inr ⟨member, named, asked⟩
  | starts launching now =>
      rw [task?, now] at fetching
      cases fetching
      exact .inl (by rw [task?, launching])
  | draws _ _ now | succeeds _ _ _ _ now | prepares _ _ _ _ now | givesUp _ now | finds _ now =>
      rw [task?, now] at fetching
      cases fetching

end Turn

/-! ## What an operation is about -/

/-- An operation is about the clones of its endpoints. -/
structure IsAimed (op : Operation) : Prop where
  rest : op.rest ⊆ op.endpoints
  preparing : ∀ endpoint place, op.phase = .preparing endpoint place → place ∈ op.places
  fetching : ∀ endpoint place, op.task? = some (.fetch endpoint place) → place ∈ op.places

theorem mem_places {op : Operation} {place : Place} :
    place ∈ op.places ↔ ∃ endpoint ∈ op.endpoints, clonePath? endpoint = .ok place := by
  rw [places, List.mem_filterMap]
  constructor
  · rintro ⟨endpoint, member, named⟩
    cases found : clonePath? endpoint with
    | error failure =>
        rw [found] at named
        cases named
    | ok place =>
        rw [found] at named
        cases named
        exact ⟨endpoint, member, found⟩
  · rintro ⟨endpoint, member, named⟩
    exact ⟨endpoint, member, by rw [named]; rfl⟩

theorem isAimed_start (kind : JobKind) (endpoints : List String) :
    (start kind endpoints).IsAimed where
  rest := List.Subset.refl _
  preparing := nofun
  fetching := nofun

theorem IsAimed.step (aimed : op.IsAimed)
    (stepped : op.step config surroundings files = some (next, after)) : next.IsAimed := by
  obtain ⟨_, endpoints, rest⟩ := step_keeps stepped
  have turn := turn_of_step stepped
  have same : next.places = op.places := by rw [places, places, endpoints]
  have named {endpoint : String} {place : Place} (member : endpoint ∈ op.rest)
      (found : clonePath? endpoint = .ok place) : place ∈ next.places :=
    same.symm ▸ mem_places.mpr ⟨endpoint, aimed.rest member, found⟩
  refine ⟨?_, ?_, ?_⟩
  · rw [endpoints]
    exact List.Subset.trans rest aimed.rest
  · intro endpoint place preparing
    obtain ⟨member, found, _⟩ := turn.of_preparing preparing
    exact named member found
  · intro endpoint place fetching
    obtain before | ⟨member, found, _⟩ := turn.of_fetch fetching
    · rw [same]
      exact aimed.fetching endpoint place before
    · exact named member found

end Operation

end RepoCollector
