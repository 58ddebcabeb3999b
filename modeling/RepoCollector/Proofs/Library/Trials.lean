import RepoCollector.Proofs.Library.Turn
import RepoCollector.Proofs.Play

/-! # Trials of endpoints

An operation tries the endpoints of its job one after the other.  What a step learns of the endpoint
that is tried is a *trial* (`RepoCollector.Operation.verdict?`); it is read off what the file system
and git answer, whatever the operation makes of it.

A trial that fails sends the operation to the next endpoint, and then the job fails only when every
endpoint was tried and has failed.  Two kinds of trials are not of this sort
(`RepoCollector.Fate.endsJob`): one whose look at the library fails, and a fetch that stands for a
download.  They end the job whatever comes of them, with endpoints that were not tried
(`RepoCollector.Round.fails_after_all_or_at_once`, `RepoCollector.Round.skips_what_would_succeed`).
-/

namespace RepoCollector

open Endpoint

/-- What became of an endpoint that was tried. -/
inductive Fate where
  /-- It names no repository. -/
  | invalid (failure : LibraryError)
  /-- It could not be seen whether there is a clone. -/
  | unseen (fault : FileFault)
  /-- There was a clone, and it was left alone. -/
  | kept
  /-- There was no clone to fetch into. -/
  | missing
  /-- A clone was to be made. -/
  | cloned (result : Except LibraryError Unit)
  /-- Git was to fetch into the clone. -/
  | refreshed (result : Except LibraryError Unit)

/-- Whether the job ends with a trial of this sort, whatever comes of it. -/
def Fate.endsJob (kind : JobKind) : Fate → Bool
  | .unseen _ => true
  | .refreshed _ => kind = .download
  | .invalid _ | .kept | .missing | .cloned _ => false

/-- An endpoint that was tried. -/
structure Trial where
  endpoint : String
  fate : Fate

namespace Trial

/-- What came of a trial. -/
def outcome (trial : Trial) : Except LibraryError Unit :=
  match trial.fate with
  | .invalid failure => .error failure
  | .unseen fault => .error (.io fault)
  | .kept => .ok ()
  | .missing => .error (.repositoryNotFound trial.endpoint)
  | .cloned result | .refreshed result => result

def failure? (trial : Trial) : Option LibraryError :=
  match trial.outcome with
  | .ok () => none
  | .error failure => some failure

/-- A failure that keeps the job from its other endpoints. -/
def IsHasty (kind : JobKind) (trial : Trial) : Prop :=
  trial.fate.endsJob kind = true ∧ trial.outcome ≠ .ok ()

/-- The job ends with this trial. -/
def Decides (kind : JobKind) (trial : Trial) : Prop :=
  trial.outcome = .ok () ∨ trial.outcome = .error .cancelled ∨ trial.fate.endsJob kind = true

theorem exists_failure_of_not_decides {kind : JobKind} {trial : Trial}
    (undecided : ¬ trial.Decides kind) : ∃ failure, trial.outcome = .error failure := by
  cases outcome : trial.outcome with
  | ok => exact (undecided (.inl outcome)).elim
  | error failure => exact ⟨failure, rfl⟩

end Trial

def GitTask.endpoint : GitTask → String
  | .clone attempt => attempt.endpoint
  | .fetch endpoint _ => endpoint

namespace Operation

/-- The endpoint that is being tried. -/
def trying? (op : Operation) : Option String :=
  match op.phase with
  | .choosing | .over _ => none
  | .preparing endpoint _ => some endpoint
  | .launching task | .running task => some task.endpoint
  | .placing attempt | .inspecting attempt _ | .clearing attempt _ => some attempt.endpoint

/-- The endpoints whose trials have not come to an end. -/
def upcoming (op : Operation) : List String := op.trying?.toList ++ op.rest

/-- What a look at the library says of an endpoint, if that is all there is to its trial. -/
def seen? (config : LibraryConfig) (kind : JobKind) (present : Bool) : Option Fate :=
  match kind, present with
  | .download, false | .update, true => none
  | .download, true => if config.updateOnDownload then none else some .kept
  | .update, false => some .missing

def look? (config : LibraryConfig) (surroundings : Surroundings) (op : Operation) (files : Files)
    (endpoint : String) : Option Fate :=
  match clonePath? endpoint with
  | .error failure => some (.invalid failure)
  | .ok place =>
    match surroundings.allow (files.contains? place) with
    | .error fault => some (.unseen fault)
    | .ok present => seen? config op.kind present

/-- The trial that comes to its end with what a step is told. -/
def verdict? (config : LibraryConfig) (surroundings : Surroundings) (op : Operation)
    (files : Files) : Option Trial :=
  match op.phase with
  | .choosing =>
    op.rest.head?.bind fun endpoint =>
      (op.look? config surroundings files endpoint).map ({ endpoint, fate := · })
  | .preparing endpoint place =>
    match surroundings.allow (files.makeDirectories place.dropLast) with
    | .error fault => some { endpoint, fate := .cloned (.error (.io fault)) }
    | .ok _ => none
  | .launching (.fetch endpoint _) =>
    surroundings.fault.map fun fault => { endpoint, fate := .refreshed (.error (.io fault)) }
  | .running (.fetch endpoint place) =>
    (gitResult? config surroundings (.fetch endpoint place)).map fun result =>
      { endpoint, fate := .refreshed result }
  | .launching (.clone _) | .running (.clone _) => none
  | .placing attempt =>
    match surroundings.allow (files.rename attempt.staging attempt.place) with
    | .error _ => none
    | .ok _ => some { endpoint := attempt.endpoint, fate := .cloned (.ok ()) }
  | .inspecting attempt failure =>
    match surroundings.allow (files.contains? attempt.staging) with
    | .ok true => none
    | _ => some { endpoint := attempt.endpoint, fate := .cloned (.error failure) }
  | .clearing attempt failure =>
    some { endpoint := attempt.endpoint, fate := .cloned (.error failure) }
  | .over _ => none

/-- **What a step makes of the trial that it brings to an end, if it does.** -/
inductive Progress (op next : Operation) : Option Trial → Prop where
  /-- No endpoint is left. -/
  | exhausts (empty : op.upcoming = []) (left : next.upcoming = [])
      (now : next.phase = .over (.error op.exhausted)) : Progress op next none
  /-- A trial has begun or goes on. -/
  | tries (same : next.upcoming = op.upcoming) (last : next.last = op.last)
      (trying : next.result? = none) : Progress op next none
  /-- An endpoint has failed, and the operation comes to the next one. -/
  | fails {trial : Trial} {failure : LibraryError}
      (first : op.upcoming = trial.endpoint :: next.upcoming) (undecided : ¬ trial.Decides op.kind)
      (outcome : trial.outcome = .error failure) (now : next.phase = .choosing)
      (last : next.last = some failure) : Progress op next (some trial)
  /-- The job ends as the trial does. -/
  | decides {trial : Trial} (first : op.upcoming = trial.endpoint :: next.upcoming)
      (decided : trial.Decides op.kind) (now : next.phase = .over trial.outcome) :
      Progress op next (some trial)

variable {config : LibraryConfig} {surroundings : Surroundings} {op next : Operation}
  {files after : Files}

private theorem progress_finish {other : Operation} (trial : Trial)
    (first : op.upcoming = trial.endpoint :: other.rest) (decided : trial.Decides op.kind) :
    op.Progress (other.finish trial.outcome) (some trial) :=
  .decides first decided rfl

private theorem progress_failWith {other : Operation} (trial : Trial) {failure : LibraryError}
    (first : op.upcoming = trial.endpoint :: other.rest) (outcome : trial.outcome = .error failure)
    (patient : trial.fate.endsJob op.kind = false) :
    op.Progress (other.failWith failure) (some trial) := by
  by_cases cancelled : failure = .cancelled
  · subst cancelled
    have finished := progress_finish trial first (.inr (.inl outcome))
    rw [outcome] at finished
    exact finished
  · have undecided : ¬ trial.Decides op.kind := by
      rintro (ok | told | ends)
      · cases outcome.symm.trans ok
      · cases outcome.symm.trans told
        exact cancelled rfl
      · cases patient.symm.trans ends
    have same : other.failWith failure =
        { other with last := some failure, phase := .choosing } := by
      cases failure with
      | cancelled => exact (cancelled rfl).elim
      | _ => rfl
    rw [same]
    exact .fails first undecided outcome rfl rfl

private theorem progress_of_look {other : Operation} {endpoint : String} {place : Place}
    (present : Bool) (kind : other.kind = op.kind) (last : other.last = op.last)
    (upcoming : op.upcoming = endpoint :: other.rest) :
    op.Progress (other.afterLook config endpoint place present)
      ((seen? config op.kind present).map ({ endpoint, fate := · })) := by
  unfold afterLook seen?
  rw [kind]
  cases op.kind with
  | download =>
      cases present with
      | false => exact .tries upcoming.symm last rfl
      | true =>
          dsimp only
          split
          next => exact .tries upcoming.symm last rfl
          next => exact progress_finish ⟨endpoint, .kept⟩ upcoming (.inl rfl)
  | update =>
      cases present with
      | false => exact progress_failWith ⟨endpoint, .missing⟩ upcoming rfl rfl
      | true => exact .tries upcoming.symm last rfl

private theorem progress_of_choose (choosing : op.phase = .choosing) :
    op.Progress (op.choose config files surroundings) (op.verdict? config surroundings files) := by
  have upcoming : op.upcoming = op.rest := by rw [Operation.upcoming, trying?, choosing]; rfl
  unfold choose verdict?
  rw [choosing]
  cases split : op.rest with
  | nil => exact .exhausts (upcoming.trans split) split rfl
  | cons endpoint rest =>
      rw [split] at upcoming
      simp only [List.head?_cons, Option.bind_some, look?]
      cases clonePath? endpoint with
      | error failure => exact progress_failWith ⟨endpoint, .invalid failure⟩ upcoming rfl rfl
      | ok place =>
          dsimp only
          cases surroundings.allow (files.contains? place) with
          | error fault =>
              exact progress_finish ⟨endpoint, .unseen fault⟩ upcoming (.inr (.inr rfl))
          | ok present => exact progress_of_look present rfl rfl upcoming

private theorem progress_of_fetch {endpoint : String} {place : Place}
    (result : Except LibraryError Unit) (upcoming : op.upcoming = endpoint :: op.rest) :
    op.Progress (op.afterGit (.fetch endpoint place) result)
      (some { endpoint, fate := .refreshed result }) := by
  unfold afterGit
  cases result with
  | ok => exact progress_finish ⟨endpoint, .refreshed (.ok ())⟩ upcoming (.inl rfl)
  | error failure =>
      let trial : Trial := ⟨endpoint, .refreshed (.error failure)⟩
      dsimp only
      split
      next kind =>
        have ends : trial.fate.endsJob op.kind = true := by
          rw [kind]
          rfl
        exact progress_finish trial upcoming (.inr (.inr ends))
      next kind =>
        have patient : trial.fate.endsJob op.kind = false := by
          rw [kind]
          rfl
        exact progress_failWith trial upcoming rfl patient

private theorem progress_of_clone {attempt : CloneAttempt} (result : Except LibraryError Unit)
    (upcoming : op.upcoming = attempt.endpoint :: op.rest) :
    op.Progress (op.afterGit (.clone attempt) result) none := by
  cases result with
  | ok => exact .tries upcoming.symm rfl rfl
  | error failure => exact .tries upcoming.symm rfl rfl

private theorem upcoming_of_trying {endpoint : String} (trying : op.trying? = some endpoint) :
    op.upcoming = endpoint :: op.rest := by
  rw [Operation.upcoming, trying, Option.toList_some, List.singleton_append]

/-! Each phase makes of the trial what it should. -/

section Phases

variable {attempt : CloneAttempt} {task : GitTask} {failure : LibraryError}
  (stepped : op.step config surroundings files = some (next, after))

include stepped

private theorem progress_of_preparing {endpoint : String} {place : Place}
    (preparing : op.phase = .preparing endpoint place) :
    op.Progress next (op.verdict? config surroundings files) := by
  have upcoming : op.upcoming = endpoint :: op.rest :=
    upcoming_of_trying (by rw [trying?, preparing])
  unfold step at stepped
  unfold verdict?
  rw [preparing] at stepped ⊢
  dsimp only at stepped ⊢
  cases made : surroundings.allow (files.makeDirectories place.dropLast) with
  | error fault =>
      rw [made] at stepped
      cases stepped
      exact progress_failWith ⟨endpoint, .cloned (.error (.io fault))⟩ upcoming rfl rfl
  | ok directories =>
      rw [made] at stepped
      cases stepped
      exact .tries upcoming.symm rfl rfl

private theorem progress_of_launching (launching : op.phase = .launching task) :
    op.Progress next (op.verdict? config surroundings files) := by
  have upcoming : op.upcoming = task.endpoint :: op.rest :=
    upcoming_of_trying (by rw [trying?, launching])
  unfold step at stepped
  unfold verdict?
  rw [launching] at stepped ⊢
  dsimp only at stepped ⊢
  cases launched : surroundings.fault with
  | none =>
      rw [launched] at stepped
      cases stepped
      cases task with
      | clone attempt | fetch endpoint place => exact .tries upcoming.symm rfl rfl
  | some fault =>
      rw [launched] at stepped
      cases stepped
      cases task with
      | clone attempt => exact progress_of_clone _ upcoming
      | fetch endpoint place => exact progress_of_fetch _ upcoming

private theorem progress_of_running (running : op.phase = .running task) :
    op.Progress next (op.verdict? config surroundings files) := by
  have upcoming : op.upcoming = task.endpoint :: op.rest :=
    upcoming_of_trying (by rw [trying?, running])
  unfold step at stepped
  unfold verdict?
  rw [running] at stepped ⊢
  obtain ⟨result, told, same⟩ := Option.map_eq_some_iff.mp stepped
  cases same
  cases task with
  | clone attempt => exact progress_of_clone _ upcoming
  | fetch endpoint place =>
      dsimp only
      rw [told]
      exact progress_of_fetch _ upcoming

private theorem progress_of_placing (placing : op.phase = .placing attempt) :
    op.Progress next (op.verdict? config surroundings files) := by
  have upcoming : op.upcoming = attempt.endpoint :: op.rest :=
    upcoming_of_trying (by rw [trying?, placing])
  unfold step at stepped
  unfold verdict?
  rw [placing] at stepped ⊢
  dsimp only at stepped ⊢
  cases placed : surroundings.allow (files.rename attempt.staging attempt.place) with
  | error fault =>
      rw [placed] at stepped
      cases stepped
      exact .tries upcoming.symm rfl rfl
  | ok renamed =>
      rw [placed] at stepped
      cases stepped
      exact progress_finish ⟨attempt.endpoint, .cloned (.ok ())⟩ upcoming (.inl rfl)

private theorem progress_of_inspecting (inspecting : op.phase = .inspecting attempt failure) :
    op.Progress next (op.verdict? config surroundings files) := by
  have upcoming : op.upcoming = attempt.endpoint :: op.rest :=
    upcoming_of_trying (by rw [trying?, inspecting])
  have fails : op.Progress (op.failWith failure) _ :=
    progress_failWith ⟨attempt.endpoint, .cloned (.error failure)⟩ upcoming rfl rfl
  unfold step at stepped
  unfold verdict?
  rw [inspecting] at stepped ⊢
  dsimp only at stepped ⊢
  cases seen : surroundings.allow (files.contains? attempt.staging) with
  | error fault =>
      rw [seen] at stepped
      cases stepped
      exact fails
  | ok present =>
      rw [seen] at stepped
      cases present with
      | true =>
          cases stepped
          exact .tries upcoming.symm rfl rfl
      | false =>
          cases stepped
          exact fails

private theorem progress_of_clearing (clearing : op.phase = .clearing attempt failure) :
    op.Progress next (op.verdict? config surroundings files) := by
  have upcoming : op.upcoming = attempt.endpoint :: op.rest :=
    upcoming_of_trying (by rw [trying?, clearing])
  have fails : op.Progress (op.failWith failure) _ :=
    progress_failWith ⟨attempt.endpoint, .cloned (.error failure)⟩ upcoming rfl rfl
  unfold step at stepped
  unfold verdict?
  rw [clearing] at stepped ⊢
  dsimp only at stepped ⊢
  split at stepped
  next =>
    cases stepped
    exact fails
  next =>
    cases stepped
    exact fails

end Phases

/-- **Every step makes of a trial what it should.** -/
theorem progress_of_step (stepped : op.step config surroundings files = some (next, after)) :
    op.Progress next (op.verdict? config surroundings files) := by
  cases phase : op.phase with
  | choosing =>
      rw [step, phase] at stepped
      cases stepped
      exact progress_of_choose phase
  | preparing endpoint place => exact progress_of_preparing stepped phase
  | launching task => exact progress_of_launching stepped phase
  | running task => exact progress_of_running stepped phase
  | placing attempt => exact progress_of_placing stepped phase
  | inspecting attempt failure => exact progress_of_inspecting stepped phase
  | clearing attempt failure => exact progress_of_clearing stepped phase
  | _ =>
      rw [step, phase] at stepped
      cases stepped

/-! ## The way to the end -/

/-- How many steps are left at most before the next endpoint is looked at, with the look itself. -/
def phaseLeft : OperationPhase → Nat
  | .over _ => 0
  | .choosing => 1
  | .clearing _ _ => 2
  | .inspecting _ _ => 3
  | .placing _ => 4
  | .running _ => 5
  | .launching _ => 6
  | .preparing _ _ => 7

/-- How many steps an operation still makes at most. -/
def stepsLeft (op : Operation) : Nat := 7 * op.rest.length + phaseLeft op.phase

theorem stepsLeft_failWith (op : Operation) (failure : LibraryError) :
    (op.failWith failure).stepsLeft ≤ 7 * op.rest.length + 1 := by
  cases failure with
  | cancelled => exact Nat.le_succ _
  | _ => exact Nat.le_refl _

theorem stepsLeft_afterLook (op : Operation) (endpoint : String) (place : Place) (present : Bool) :
    (op.afterLook config endpoint place present).stepsLeft ≤ 7 * op.rest.length + 7 := by
  unfold afterLook
  split
  next => exact Nat.le_refl _
  next =>
    split
    next => exact Nat.le_succ _
    next => exact Nat.le_add_right _ _
  next => exact Nat.le_trans (op.stepsLeft_failWith _) (Nat.le_add_right _ 6)
  next => exact Nat.le_succ _

theorem stepsLeft_afterGit (op : Operation) (task : GitTask) (result : Except LibraryError Unit) :
    (op.afterGit task result).stepsLeft ≤ 7 * op.rest.length + 4 := by
  unfold afterGit
  split
  next => exact Nat.le_refl _
  next => exact Nat.le_succ _
  next => exact Nat.le_add_right _ _
  next =>
    split
    next => exact Nat.le_add_right _ _
    next => exact Nat.le_trans (op.stepsLeft_failWith _) (Nat.le_add_right _ 3)

private theorem stepsLeft_choose (choosing : op.phase = .choosing) :
    (op.choose config files surroundings).stepsLeft < op.stepsLeft := by
  have left : op.stepsLeft = 7 * op.rest.length + 1 := by rw [stepsLeft, choosing]; rfl
  rw [left]
  unfold choose
  split
  next none => exact Nat.lt_succ_self _
  next endpoint rest split =>
    rw [split, List.length_cons, Nat.mul_succ]
    apply Nat.lt_succ_of_le
    dsimp only
    split
    next => exact Nat.le_trans (stepsLeft_failWith _ _) (Nat.le_add_right _ 6)
    next =>
      split
      next => exact Nat.le_add_right _ _
      next => exact stepsLeft_afterLook _ _ _ _

/-- **An operation comes closer to its end with each step.** -/
theorem stepsLeft_step (stepped : op.step config surroundings files = some (next, after)) :
    next.stepsLeft < op.stepsLeft := by
  have left : op.stepsLeft = 7 * op.rest.length + phaseLeft op.phase := rfl
  have failed (failure : LibraryError) := op.stepsLeft_failWith failure
  unfold step at stepped
  split at stepped
  next choosing =>
    cases stepped
    exact stepsLeft_choose choosing
  next preparing =>
    rw [left, preparing]
    split at stepped
    next =>
      cases stepped
      exact Nat.lt_of_le_of_lt (failed _) (Nat.lt_add_of_pos_right (by decide) : _ < _ + 6)
    next =>
      cases stepped
      exact Nat.lt_succ_self _
  next task launching =>
    rw [left, launching]
    split at stepped
    next =>
      cases stepped
      exact Nat.lt_of_le_of_lt (op.stepsLeft_afterGit task _)
        (Nat.lt_add_of_pos_right (by decide) : _ < _ + 2)
    next =>
      cases stepped
      exact Nat.lt_succ_self _
  next task running =>
    rw [left, running]
    obtain ⟨result, _, same⟩ := Option.map_eq_some_iff.mp stepped
    cases same
    exact Nat.lt_succ_of_le (op.stepsLeft_afterGit task result)
  next placing =>
    rw [left, placing]
    split at stepped
    next =>
      cases stepped
      exact Nat.lt_succ_self _
    next =>
      cases stepped
      exact Nat.lt_add_of_pos_right (by decide : 0 < 4)
  next inspecting =>
    rw [left, inspecting]
    split at stepped
    next =>
      cases stepped
      exact Nat.lt_succ_self _
    next =>
      cases stepped
      exact Nat.lt_of_le_of_lt (failed _) (Nat.lt_add_of_pos_right (by decide) : _ < _ + 2)
  next clearing =>
    rw [left, clearing]
    split at stepped
    next =>
      cases stepped
      exact Nat.lt_succ_of_le (failed _)
    next =>
      cases stepped
      exact Nat.lt_succ_of_le (failed _)
  next => cases stepped

/-- Only git keeps an operation waiting. -/
theorem isSome_step (going : op.result? = none)
    (answered : op.running? = none ∨ surroundings.cancelled = true ∨
      surroundings.report.isSome = true) :
    (op.step config surroundings files).isSome = true := by
  unfold step
  split
  next => rfl
  next => split <;> rfl
  next => split <;> rfl
  next task running =>
    rw [Option.isSome_map]
    obtain idle | told | reported := answered
    · rw [running?, running] at idle
      cases idle
    · rw [gitResult?, if_pos told]
      rfl
    · obtain ⟨report, found⟩ := Option.isSome_iff_exists.mp reported
      unfold gitResult?
      rw [found]
      split <;> rfl
  next => split <;> rfl
  next => split <;> rfl
  next => split <;> rfl
  next ended =>
    rw [result?, ended] at going
    cases going

end Operation

/-! ## Rounds -/

/-- A job on its way around its endpoints, in a library that others use too. -/
structure Round where
  op : Operation
  files : Files := {}
  /-- The endpoints that were tried, the first one first. -/
  trials : List Trial := []

/-- What can happen during a round. -/
inductive RoundMove where
  /-- Git or others have changed the library, in any way. -/
  | others (files : Files)
  | step (surroundings : Surroundings)

def RoundMove.isStep : RoundMove → Bool
  | .others _ => false
  | .step _ => true

namespace Round

def start (kind : JobKind) (endpoints : List String) (files : Files) : Round :=
  { op := .start kind endpoints, files }

def act (config : LibraryConfig) (move : RoundMove) (r : Round) : Option Round :=
  match move with
  | .others files => some { r with files }
  | .step surroundings =>
    (r.op.step config surroundings r.files).map fun (op, files) =>
      { op, files, trials := r.trials ++ (r.op.verdict? config surroundings r.files).toList }

/-- How a job ends when its endpoints have all failed. -/
def exhaustion (endpoints : List String) (trials : List Trial) : LibraryError :=
  let repository := endpoints.head?.getD ""
  match trials.getLast?.bind Trial.failure? with
  | some last => .allEndpointsFailed repository endpoints.length last
  | none => .repositoryNotFound repository

/-- What holds of a round at every moment. -/
structure Sound (kind : JobKind) (endpoints : List String) (r : Round) : Prop where
  sort : r.op.kind = kind
  about : r.op.endpoints = endpoints
  order : r.trials.map Trial.endpoint ++ r.op.upcoming = endpoints
  going : r.op.result? = none →
    (∀ trial ∈ r.trials, ¬ trial.Decides kind) ∧ r.op.last = r.trials.getLast?.bind Trial.failure?
  ended : ∀ result, r.op.result? = some result →
    (r.trials.map Trial.endpoint = endpoints ∧ (∀ trial ∈ r.trials, ¬ trial.Decides kind) ∧
      result = .error (exhaustion endpoints r.trials)) ∨
    ∃ front trial, r.trials = front ++ [trial] ∧ (∀ earlier ∈ front, ¬ earlier.Decides kind) ∧
      trial.Decides kind ∧ result = trial.outcome

variable {config : LibraryConfig} {kind : JobKind} {endpoints : List String} {files : Files}
  {r s : Round}

theorem sound_start (kind : JobKind) (endpoints : List String) (files : Files) :
    (start kind endpoints files).Sound kind endpoints where
  sort := rfl
  about := rfl
  order := rfl
  going := fun _ => ⟨fun _ member => absurd member List.not_mem_nil, rfl⟩
  ended := fun _ ended => nomatch ended

theorem Sound.advance (sound : r.Sound kind endpoints) (going : r.op.result? = none)
    {op : Operation} {verdict : Option Trial} (sort : op.kind = r.op.kind)
    (about : op.endpoints = r.op.endpoints) (progress : r.op.Progress op verdict) (files : Files) :
    Sound kind endpoints { op, files, trials := r.trials ++ verdict.toList } := by
  obtain ⟨undecided, last⟩ := sound.going going
  have order := sound.order
  have ends {result : Except LibraryError Unit} (now : op.phase = .over result) :
      op.result? = some result := by rw [Operation.result?, now]
  refine ⟨sort.trans sound.sort, about.trans sound.about, ?_, ?_, ?_⟩
  · cases progress with
    | exhausts empty left =>
        rw [empty] at order
        rw [Option.toList_none, List.append_nil, left]
        exact order
    | tries same =>
        rw [Option.toList_none, List.append_nil, same]
        exact order
    | fails first | decides first =>
        rw [first] at order
        rw [Option.toList_some, List.map_append, List.append_assoc]
        exact order
  · intro goesOn
    cases progress with
    | exhausts _ _ now | decides _ _ now => cases (ends now).symm.trans goesOn
    | tries _ kept =>
        rw [Option.toList_none, List.append_nil]
        exact ⟨undecided, kept.trans last⟩
    | @fails trial failure _ failed outcome _ noted =>
        rw [sound.sort] at failed
        refine ⟨?_, ?_⟩
        · intro other member
          obtain before | same := List.mem_append.mp member
          · exact undecided other before
          · cases List.mem_singleton.mp same
            exact failed
        · rw [noted, Option.toList_some, List.getLast?_concat, Option.bind_some, Trial.failure?,
            outcome]
  · intro result ended
    cases progress with
    | exhausts empty _ now =>
        rw [empty, List.append_nil] at order
        rw [Option.toList_none, List.append_nil]
        refine .inl ⟨order, undecided, ?_⟩
        cases (ends now).symm.trans ended
        cases told : r.trials.getLast?.bind Trial.failure? with
        | none | some failure =>
            simp only [Operation.exhausted, exhaustion, sound.about, last, told]
    | tries _ _ trying => cases trying.symm.trans ended
    | fails _ _ _ now =>
        rw [Operation.result?, now] at ended
        cases ended
    | @decides trial _ decided now =>
        cases (ends now).symm.trans ended
        exact .inr ⟨r.trials, trial, rfl, undecided, sound.sort ▸ decided, rfl⟩

theorem Sound.act (sound : r.Sound kind endpoints) {move : RoundMove}
    (moved : act config move r = some s) : s.Sound kind endpoints := by
  cases move with
  | others files =>
      cases moved
      exact ⟨sound.sort, sound.about, sound.order, sound.going, sound.ended⟩
  | step surroundings =>
      obtain ⟨⟨op, files⟩, stepped, rfl⟩ := Option.map_eq_some_iff.mp moved
      have going : r.op.result? = none := by
        by_contra ended
        rw [Operation.step_of_result (Option.isSome_iff_ne_none.mpr ended)] at stepped
        cases stepped
      obtain ⟨sort, about, _⟩ := Operation.step_keeps stepped
      exact sound.advance going sort about (Operation.progress_of_step stepped) files

theorem sound_of_play {moves : List RoundMove}
    (played : play (act config) moves (start kind endpoints files) = some r) :
    r.Sound kind endpoints :=
  play_keeps (fun _ _ _ (_ : True) held moved => held.act moved) (fun _ _ => trivial)
    (sound_start kind endpoints files) played

theorem stepsLeft_play {moves : List RoundMove} (played : play (act config) moves r = some s) :
    moves.countP RoundMove.isStep + s.op.stepsLeft ≤ r.op.stepsLeft := by
  induction moves generalizing r with
  | nil =>
      cases played
      exact Nat.le_of_eq (Nat.zero_add _)
  | cons move moves ih =>
      obtain ⟨middle, moved, rest⟩ := play_cons played
      cases move with
      | others files =>
          cases moved
          have later := ih rest
          exact later
      | step surroundings =>
          obtain ⟨⟨op, files⟩, stepped, rfl⟩ := Option.map_eq_some_iff.mp moved
          have closer := Operation.stepsLeft_step stepped
          have later : moves.countP RoundMove.isStep + s.op.stepsLeft ≤ op.stepsLeft := ih rest
          rw [List.countP_cons_of_pos rfl]
          omega

/-- A trial that keeps the job from its other endpoints is the last one. -/
theorem Sound.hasty (sound : r.Sound kind endpoints) {trial : Trial} (member : trial ∈ r.trials)
    (hasty : trial.IsHasty kind) :
    r.trials.getLast? = some trial ∧ r.op.result? = some trial.outcome := by
  have decided : trial.Decides kind := .inr (.inr hasty.1)
  cases ended : r.op.result? with
  | none => exact ((sound.going ended).1 trial member decided).elim
  | some result =>
      obtain ⟨_, undecided, _⟩ | ⟨front, last, shape, undecided, _, ends⟩ :=
        sound.ended result ended
      · exact (undecided trial member decided).elim
      · rw [shape] at member ⊢
        obtain before | same := List.mem_append.mp member
        · exact (undecided trial before decided).elim
        · cases List.mem_singleton.mp same
          exact ⟨List.getLast?_concat, congrArg some ends⟩

/-- Without such a trial the job ends well, or is told to give up, or has tried everything. -/
theorem Sound.patient (sound : r.Sound kind endpoints) {result : Except LibraryError Unit}
    (ended : r.op.result? = some result) (told : result ≠ .error .cancelled)
    (patient : ∀ trial ∈ r.trials, ¬ trial.IsHasty kind) :
    (result = .ok () ∧ ∃ trial ∈ r.trials, trial.outcome = .ok ()) ∨
      (∃ failure, result = .error failure) ∧ r.trials.map Trial.endpoint = endpoints ∧
        ∀ trial ∈ r.trials, ∃ failure, trial.outcome = .error failure := by
  obtain ⟨all, undecided, rfl⟩ | ⟨front, last, shape, _, decided, rfl⟩ := sound.ended result ended
  · exact .inr ⟨⟨_, rfl⟩, all, fun trial member =>
      Trial.exists_failure_of_not_decides (undecided trial member)⟩
  · left
    have member : last ∈ r.trials := shape ▸ List.mem_append_right front List.mem_cons_self
    have fine : last.outcome = .ok () := by
      obtain fine | cancelled | ends := decided
      · exact fine
      · exact (told cancelled).elim
      · by_contra failed
        exact patient last member ⟨ends, failed⟩
    exact ⟨fine, last, member, fine⟩

/-- **A job fails only when all its endpoints fail, unless a trial ends it at once.**  Whatever the
library is like, what others do to it meanwhile, and whatever the file system and git answer:

* the job comes to its end: its steps are bounded, and it waits for nothing but git;
* unless it was told to give up or one of its trials has failed at once, it succeeds exactly if an
  endpoint has succeeded, and fails exactly if every endpoint was tried, in order, and has failed;
* a trial that fails at once, by a look at the library that fails or by a fetch that stands for a
  download, is the last one, and the job ends as the trial does. -/
theorem fails_after_all_or_at_once {moves : List RoundMove}
    (played : play (act config) moves (start kind endpoints files) = some r) :
    moves.countP RoundMove.isStep ≤ (Operation.start kind endpoints).stepBound ∧
    (∀ surroundings, r.op.result? = none →
      (r.op.running? = none ∨ surroundings.cancelled = true ∨ surroundings.report.isSome = true) →
      (act config (.step surroundings) r).isSome = true) ∧
    (∀ result, r.op.result? = some result → result ≠ .error .cancelled →
      (∀ trial ∈ r.trials, ¬ trial.IsHasty kind) →
      (result = .ok () ↔ ∃ trial ∈ r.trials, trial.outcome = .ok ()) ∧
      ((∃ failure, result = .error failure) ↔ r.trials.map Trial.endpoint = endpoints ∧
        ∀ trial ∈ r.trials, ∃ failure, trial.outcome = .error failure)) ∧
    (∀ trial ∈ r.trials, trial.IsHasty kind →
      r.trials.getLast? = some trial ∧ r.op.result? = some trial.outcome) := by
  have sound := sound_of_play played
  refine ⟨?_, ?_, ?_, fun _ => sound.hasty⟩
  · have bound := stepsLeft_play played
    have start : (Operation.start kind endpoints).stepsLeft = 7 * endpoints.length + 1 := rfl
    have stepBound : (Operation.start kind endpoints).stepBound =
        7 * (endpoints.length + 1) + 1 := rfl
    simp only [Round.start] at bound
    omega
  · intro surroundings going answered
    rw [act, Option.isSome_map]
    exact Operation.isSome_step going answered
  · intro result ended told patient
    obtain ⟨fine, served⟩ | ⟨⟨failure, failed⟩, all, failures⟩ := sound.patient ended told patient
    · refine ⟨iff_of_true fine served, iff_of_false ?_ ?_⟩
      · rintro ⟨failure, failed⟩
        cases fine.symm.trans failed
      · rintro ⟨_, failures⟩
        obtain ⟨trial, member, good⟩ := served
        obtain ⟨failure, bad⟩ := failures trial member
        cases good.symm.trans bad
    · refine ⟨iff_of_false ?_ ?_, iff_of_true ⟨failure, failed⟩ ⟨all, failures⟩⟩
      · intro fine
        cases fine.symm.trans failed
      · rintro ⟨trial, member, good⟩
        obtain ⟨failure, bad⟩ := failures trial member
        cases good.symm.trans bad

/-- A library with a clone of one repository, and a file where the host of another would be. -/
def cramped : Files :=
  { entries := [([], .directory), ([['f']], .file ""), ([['h']], .directory),
      ([['h'], ['a', '.', 'g', 'i', 't']], .directory)] }

/-- The same library when git has cloned a third repository. -/
def crampedAfter : Files :=
  { entries := ([['g']], .directory) :: ([['g'], ['b', '.', 't', 'm', 'p', '-']], .directory) ::
      cramped.entries }

/-- Git fails to fetch into the clone of the second endpoint, and the first one has none. -/
def fruitless : List RoundMove :=
  [.step {}, .step {}, .step {}, .step { report := some { exit := 1, stderr := "gone" } }, .step {}]

theorem fruitless_account :
    (play (act {}) fruitless (start .update ["https://g/b", "https://h/a"] cramped)).map (fun r =>
      (r.op.result?, r.trials.any (·.fate.endsJob .update))) =
      some (some (.error (.allEndpointsFailed "https://g/b" 2
        (.git "remote update" "https://h/a" "gone"))), false) := by
  decide +kernel

/-- An update fails, and so both of its endpoints were tried and have failed. -/
theorem fails_after_all_or_at_once_fruitless :
    ∃ r, play (act {}) fruitless (start .update ["https://g/b", "https://h/a"] cramped) = some r ∧
      r.trials.map Trial.endpoint = ["https://g/b", "https://h/a"] ∧
      ∀ trial ∈ r.trials, ∃ failure, trial.outcome = .error failure := by
  obtain ⟨r, played, account⟩ := Option.map_eq_some_iff.mp fruitless_account
  injection account with ended patient
  obtain ⟨_, _, fair, _⟩ := fails_after_all_or_at_once played
  have calm : ∀ trial ∈ r.trials, ¬ trial.IsHasty .update := fun trial member hasty =>
    List.any_eq_false.mp patient trial member hasty.1
  exact ⟨r, played, (fair _ ended nofun calm).2.mp ⟨_, rfl⟩⟩

/-- A file stands in the way to the clone. -/
def blocked : List RoundMove := [.step {}]

/-- Git fails to fetch into the clone that is there. -/
def refused : List RoundMove :=
  [.step {}, .step {}, .step { report := some { exit := 1, stderr := "gone" } }]

/-- Git makes a clone. -/
def fruitful : List RoundMove :=
  [.step {}, .step {}, .step {}, .others crampedAfter, .step { report := some {} }, .step {}]

theorem blocked_account :
    (play (act {}) blocked (start .download ["https://f/a", "https://g/b"] cramped)).map (fun r =>
      (r.op.result?, r.trials.map Trial.endpoint)) =
      some (some (.error (.io .notDirectory)), ["https://f/a"]) := by
  decide +kernel

theorem refused_account :
    (play (act { updateOnDownload := true }) refused
      (start .download ["https://h/a", "https://g/b"] cramped)).map (fun r =>
        (r.op.result?, r.trials.map Trial.endpoint)) =
      some (some (.error (.git "remote update" "https://h/a" "gone")), ["https://h/a"]) := by
  decide +kernel

theorem fruitful_account : ∀ updates : Bool,
    (play (act { updateOnDownload := updates }) fruitful
      (start .download ["https://g/b"] cramped)).map (·.op.result?) = some (some (.ok ())) := by
  decide +kernel

/-- **A job can fail although it has an endpoint that would succeed.**  One download ends with its
first endpoint because the look at the library fails, and another one because git fails to fetch
into the clone that is there.  The endpoint that comes next is not tried; a download from it alone
succeeds. -/
theorem skips_what_would_succeed :
    (∃ r, play (act {}) blocked (start .download ["https://f/a", "https://g/b"] cramped) = some r ∧
      r.op.result? = some (.error (.io .notDirectory)) ∧
      r.trials.map Trial.endpoint = ["https://f/a"]) ∧
    (∃ r, play (act { updateOnDownload := true }) refused
        (start .download ["https://h/a", "https://g/b"] cramped) = some r ∧
      r.op.result? = some (.error (.git "remote update" "https://h/a" "gone")) ∧
      r.trials.map Trial.endpoint = ["https://h/a"]) ∧
    ∀ updates, ∃ r, play (act { updateOnDownload := updates }) fruitful
        (start .download ["https://g/b"] cramped) = some r ∧ r.op.result? = some (.ok ()) := by
  refine ⟨?_, ?_, fun updates => ?_⟩
  · obtain ⟨r, played, account⟩ := Option.map_eq_some_iff.mp blocked_account
    injection account with ended tried
    exact ⟨r, played, ended, tried⟩
  · obtain ⟨r, played, account⟩ := Option.map_eq_some_iff.mp refused_account
    injection account with ended tried
    exact ⟨r, played, ended, tried⟩
  · exact Option.map_eq_some_iff.mp (fruitful_account updates)

end Round

end RepoCollector
