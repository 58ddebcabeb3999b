import RepoCollector.Proofs.Firsts
import RepoCollector.Proofs.Library.Shelves

/-! # Downloads one after the other

A host runs the operations of a library.  It answers for the file system, where every operation that
can succeed does, and for git, which may do anything that keeps to its documentation
(`RepoCollector.Host.Obeys`).

A download finds the clone of its repository, or makes one: it prepares the way, lets git clone into
a staging directory, and renames that.  So downloads of plain endpoints leave the library in order,
with a clone for each repository (`RepoCollector.Host.shelved_downloads`).
-/

namespace RepoCollector

open Endpoint

/-- What a library works with. -/
structure Host where
  config : LibraryConfig
  /-- What git answers, after a number of other commands, and the files that it leaves. -/
  git : Nat → GitAction → Files → GitReport × Files
  /-- The tags of the staging directories. -/
  tag : Nat → String

/-- The files of a library, with an account of what was done to them. -/
structure Site where
  files : Files := {}
  /-- The answers of git, the first one first. -/
  log : List (GitAction × GitReport) := []
  /-- How the downloads ended; none for one that has not ended. -/
  outcomes : List (Option (Except LibraryError Unit)) := []

namespace Host

def ask (host : Host) (action : GitAction) (site : Site) : GitReport × Site :=
  let answer := host.git site.log.length action site.files
  (answer.1, { site with files := answer.2, log := site.log ++ [(action, answer.1)] })

/-- One step of an operation. -/
def operate (host : Host) (op : Operation) (site : Site) : Option (Operation × Site) :=
  match op.running? with
  | some task =>
    let (report, site) := host.ask task.action site
    (op.step host.config { report } site.files).map fun (op, files) => (op, { site with files })
  | none =>
    (op.step host.config { tag := host.tag site.log.length } site.files).map fun (op, files) =>
      (op, { site with files })

def work (host : Host) : Nat → Operation → Site → Operation × Site
  | 0, op, site => (op, site)
  | fuel + 1, op, site =>
    match host.operate op site with
    | some (op, site) => work host fuel op site
    | none => (op, site)

/-- Downloads a repository from one endpoint. -/
def download (host : Host) (site : Site) (endpoint : String) : Site :=
  let op := Operation.start .download [endpoint]
  let ended := host.work op.stepBound op site
  { ended.2 with outcomes := ended.2.outcomes ++ [ended.1.result?] }

/-- Downloads one repository after the other into an empty library. -/
def downloads (host : Host) (endpoints : List String) : Site :=
  endpoints.foldl host.download {}

/-- Git does what is asked of it, as far as a library can tell.  A clone is only made where nothing
is, an action leaves everything outside its directory alone, fetching keeps the origin of a clone,
and reading the origin of a clone succeeds. -/
structure Obeys (host : Host) (mirrors : Files → Place → String → Prop) : Prop
    extends IsLocal mirrors where
  distinct : ∀ count action files, files.Distinct → (host.git count action files).2.Distinct
  cloned : ∀ count endpoint target files,
    (host.git count (.clone endpoint target) files).1.exit = 0 →
      files.obstacle? target = none → files.isOccupied target = false ∧
        mirrors (host.git count (.clone endpoint target) files).2 target endpoint
  clone_elsewhere : ∀ count endpoint target files place, files.obstacle? target = none →
    ¬target <+: place →
      (host.git count (.clone endpoint target) files).2.at? place = files.at? place
  fetched : ∀ count endpoint place files origin, mirrors files place origin →
    mirrors (host.git count (.refresh endpoint place) files).2 place origin
  fetch_elsewhere : ∀ count endpoint place files other, ¬place <+: other →
    (host.git count (.refresh endpoint place) files).2.at? other = files.at? other
  read : ∀ count place files origin, mirrors files place origin →
    (host.git count (.readOrigin place) files).1.exit = 0 ∧
      (host.git count (.readOrigin place) files).1.stdout = origin ++ "\n" ∧
      (host.git count (.readOrigin place) files).2 = files

variable {host : Host} {mirrors : Files → Place → String → Prop} {made : List String}

/-! ## Downloads -/

theorem work_of_operate {op next : Operation} {site after : Site}
    (stepped : host.operate op site = some (next, after)) (fuel : Nat) :
    host.work (fuel + 1) op site = host.work fuel next after := by
  rw [work, stepped]

theorem log_operate {op next : Operation} {site after : Site}
    (stepped : host.operate op site = some (next, after)) : site.log <+: after.log := by
  unfold operate at stepped
  split at stepped
  next task _ =>
    obtain ⟨_, _, same⟩ := Option.map_eq_some_iff.mp stepped
    cases same
    exact List.prefix_append _ _
  next =>
    obtain ⟨_, _, same⟩ := Option.map_eq_some_iff.mp stepped
    cases same
    exact List.prefix_rfl

theorem log_work (fuel : Nat) (op : Operation) (site : Site) :
    site.log <+: (host.work fuel op site).2.log := by
  induction fuel generalizing op site with
  | zero => exact List.prefix_rfl
  | succ fuel ih =>
      rw [work]
      split
      next stepped => exact (log_operate stepped).trans (ih _ _)
      next => exact List.prefix_rfl

theorem log_download (site : Site) (endpoint : String) :
    site.log <+: (host.download site endpoint).log :=
  log_work 15 (Operation.start .download [endpoint]) site

/-- A download that has come to its end stays there. -/
theorem work_of_result {op : Operation} {result : Except LibraryError Unit}
    (ended : op.phase = .over result) (fuel : Nat) (site : Site) :
    host.work fuel op site = (op, site) := by
  cases fuel with
  | zero => rfl
  | succ fuel =>
      simp only [work, operate, Operation.running?, Operation.step, ended, Option.map_none]

/-- A download that looks at its only endpoint. -/
def begun (endpoint : String) : Operation :=
  { kind := .download, endpoints := [endpoint], rest := [] }

theorem operate_start {endpoint : String} {place : Place} {present : Bool} {site : Site}
    (found : clonePath? endpoint = .ok place) (looked : site.files.contains? place = .ok present) :
    host.operate (.start .download [endpoint]) site =
      some ((begun endpoint).afterLook host.config endpoint place present, site) := by
  simp only [operate, Operation.running?, Operation.start, Operation.step, Operation.choose, found,
    Surroundings.allow, looked, Option.map_some]
  rfl

theorem operate_preparing {op : Operation} {endpoint : String} {place : Place} {site : Site}
    {made : Files} (makes : site.files.makeDirectories place.dropLast = .ok made) :
    host.operate (op.goTo (.preparing endpoint place)) site =
      some ((op.goTo (.launching (.clone
        { endpoint, place, staging := place.staging (host.tag site.log.length) }))),
        { site with files := made }) := by
  simp only [operate, Operation.running?, Operation.goTo, Operation.step, Surroundings.allow, makes,
    Option.map_some]

theorem operate_launching (host : Host) (op : Operation) (task : GitTask) (site : Site) :
    host.operate (op.goTo (.launching task)) site = some (op.goTo (.running task), site) := rfl

theorem operate_running (host : Host) (op : Operation) (task : GitTask) (site : Site) :
    host.operate (op.goTo (.running task)) site =
      some ((op.goTo (.running task)).afterGit task
        (((host.ask task.action site).1.result host.config task.action).map fun _ => ()),
        (host.ask task.action site).2) := rfl

theorem operate_placing (op : Operation) (attempt : CloneAttempt) (site : Site) {placed : Files}
    (renamed : site.files.rename attempt.staging attempt.place = .ok placed) :
    host.operate (op.goTo (.placing attempt)) site =
      some (op.finish (.ok ()), { site with files := placed }) := by
  simp only [operate, Operation.running?, Operation.goTo, Operation.step, Surroundings.allow,
    renamed, Option.map_some]
  rfl

theorem download_of_work {endpoint : String} {site after : Site} {op : Operation}
    (ended : host.work 15 (.start .download [endpoint]) site = (op, after)) :
    host.download site endpoint = { after with outcomes := after.outcomes ++ [op.result?] } := by
  have bound : (Operation.start .download [endpoint]).stepBound = 15 := rfl
  simp only [download, bound, ended]

theorem work_fetch (host : Host) (endpoint : String) (place : Place) (site : Site) (fuel : Nat) :
    ∃ outcome, host.work (fuel + 2)
        ((begun endpoint).goTo (.launching (.fetch endpoint place))) site =
      ((begun endpoint).finish outcome, (host.ask (.refresh endpoint place) site).2) := by
  rw [work_of_operate (operate_launching ..), work_of_operate (operate_running ..)]
  cases (host.ask (GitTask.fetch endpoint place).action site).1.result host.config
      (GitTask.fetch endpoint place).action with
  | ok _ => exact ⟨.ok (), work_of_result rfl fuel _⟩
  | error failure => exact ⟨.error failure, work_of_result rfl fuel _⟩

/-- What comes of the download of a repository that the library has. -/
theorem download_known (obeys : host.Obeys mirrors) {site : Site} {endpoint other : String}
    (shelved : Shelved mirrors made site.files) (plain : IsPlain endpoint) (member : other ∈ made)
    (same : placeOf other = placeOf endpoint) :
    Shelved mirrors made (host.download site endpoint).files ∧
      ∃ outcome, (host.download site endpoint).outcomes = site.outcomes ++ [some outcome] ∧
        (outcome = .ok () ∨ host.config.updateOnDownload = true) := by
  have looked : site.files.contains? (placeOf endpoint) = .ok true := by
    rw [Files.contains?, ← same, shelved.way other member,
      obeys.directory (shelved.mirror other member)]
    rfl
  have started : host.operate _ site = _ := operate_start plain.clonePath?_eq looked
  cases refreshes : host.config.updateOnDownload with
  | false =>
      have look : (begun endpoint).afterLook host.config endpoint (placeOf endpoint) true =
          (begun endpoint).finish (.ok ()) := by
        simp only [Operation.afterLook, begun, refreshes, Bool.false_eq_true, ↓reduceIte]
      rw [look] at started
      rw [download_of_work ((work_of_operate started 14).trans (work_of_result rfl 14 site))]
      exact ⟨shelved, .ok (), rfl, .inl rfl⟩
  | true =>
      have look : (begun endpoint).afterLook host.config endpoint (placeOf endpoint) true =
          (begun endpoint).goTo (.launching (.fetch endpoint (placeOf endpoint))) := by
        simp only [Operation.afterLook, begun, refreshes, ↓reduceIte]
      rw [look] at started
      obtain ⟨outcome, fetched⟩ := work_fetch host endpoint (placeOf endpoint) site 12
      rw [download_of_work ((work_of_operate started 14).trans fetched)]
      refine ⟨?_, outcome, rfl, .inr rfl⟩
      have distinct := obeys.distinct site.log.length (.refresh endpoint (placeOf endpoint)) _
        shelved.distinct
      rw [← same] at distinct ⊢
      apply shelved.fetch obeys.toIsLocal member distinct
      · intro origin mirror
        exact obeys.fetched _ _ _ _ origin mirror
      · intro place outside
        exact obeys.fetch_elsewhere _ _ _ _ place outside

theorem staging_concat (front : Place) (name : List Char) (tag : String) :
    Place.staging (front ++ [name]) tag =
      front ++ [Text.withoutTail gitSuffix name ++ ".tmp-".toList ++ tag.toList] := by
  rw [Place.staging, List.dropLast_concat, List.getLast?_concat]
  rfl

/-- Git clones into a directory that is ready for it. -/
theorem staged_of_clone (obeys : host.Obeys mirrors) {files ready : Files} {front : Place}
    (distinct : files.Distinct) (free : ∀ directory, directory <+: front →
      files.at? directory = none ∨ files.at? directory = some .directory)
    (makes : files.makeDirectories front = .ok ready) {endpoint : String} {stage : List Char}
    {count : Nat}
    (succeeded : (host.git count (.clone endpoint (front ++ [stage])) ready).1.exit = 0) :
    Staged mirrors files front stage endpoint
      (host.git count (.clone endpoint (front ++ [stage])) ready).2 := by
  have made := Files.at?_of_makeDirectories makes
  have readyDistinct := distinct.makeDirectories makes
  have way : ∀ directory, directory <+: front → ready.at? directory = some .directory := by
    intro directory leads
    obtain absent | present := free directory leads
    · rw [made, if_pos ⟨leads, absent⟩]
    · rw [made, present, if_neg (fun both => nomatch both.2)]
  have clear : ready.obstacle? (front ++ [stage]) = none :=
    Files.obstacle?_concat_eq_none_iff.mpr way
  have elsewhere (place : Place) :=
    obeys.clone_elsewhere count endpoint (front ++ [stage]) ready place clear
  obtain ⟨vacant, mirror⟩ := obeys.cloned count endpoint (front ++ [stage]) ready succeeded clear
  refine ⟨obeys.distinct _ _ _ readyDistinct, mirror, ?_, ?_, ?_⟩
  · intro directory leads
    rw [elsewhere directory (Place.not_concat_leads leads stage), way directory leads]
  · intro place outside apart
    rw [elsewhere place outside, made, if_neg (apart ·.1)]
  · intro place within differs
    have gone := readyDistinct.at?_of_not_isOccupied vacant within differs
    rw [made] at gone
    split at gone
    next => cases gone
    next => exact gone

/-- A download of what is not there comes to the point where git has answered. -/
theorem work_to_clone {endpoint : String} {place staging : Place} {site : Site} {ready : Files}
    (named : clonePath? endpoint = .ok place) (looked : site.files.contains? place = .ok false)
    (makes : site.files.makeDirectories place.dropLast = .ok ready)
    (beside : place.staging (host.tag site.log.length) = staging) :
    host.work 15 (.start .download [endpoint]) site =
      host.work 11 ((begun endpoint).afterGit (.clone { endpoint, place, staging })
        (((host.ask (.clone endpoint staging) { site with files := ready }).1.result host.config
          (.clone endpoint staging)).map fun _ => ()))
        (host.ask (.clone endpoint staging) { site with files := ready }).2 := by
  subst beside
  have started : host.operate (.start .download [endpoint]) site =
      some ((begun endpoint).goTo (.preparing endpoint place), site) :=
    operate_start named looked
  rw [work_of_operate started, work_of_operate (operate_preparing makes),
    work_of_operate (operate_launching ..), work_of_operate (operate_running ..)]
  rfl

/-- What comes of the download of a repository that the library does not have. -/
theorem download_new (obeys : host.Obeys mirrors) {site : Site} {endpoint : String}
    (shelved : Shelved mirrors made site.files) (plain : IsPlain endpoint)
    (new : ∀ other ∈ made, placeOf other ≠ placeOf endpoint)
    (undotted : ∀ count, '.' ∉ (host.tag count).toList)
    (succeeded : ∀ origin target report,
      (.clone origin target, report) ∈ (host.download site endpoint).log → report.exit = 0) :
    Shelved mirrors (made ++ [endpoint]) (host.download site endpoint).files ∧
      (host.download site endpoint).outcomes = site.outcomes ++ [some (.ok ())] := by
  obtain ⟨front, name, stands, _, bare⟩ := Files.isClonePlace_iff.mp plain.isClonePlace
  have free : ∀ directory, directory <+: front →
      site.files.at? directory = none ∨ site.files.at? directory = some .directory := by
    intro directory leads
    apply shelved.at?_of_bare
    apply List.any_eq_false.mpr
    intro segment member
    exact List.any_eq_false.mp bare segment (leads.subset member)
  have looked : site.files.contains? (placeOf endpoint) = .ok false := by
    have absent := shelved.vacant plain new
    have way : site.files.obstacle? (placeOf endpoint) = none ∨
        site.files.obstacle? (placeOf endpoint) = some .notFound := by
      apply Files.obstacle?_of_no_file
      intro directory leads differs
      rw [stands] at leads differs
      exact free directory ((List.prefix_concat_iff.mp leads).resolve_left differs)
    obtain way | way := way
    · rw [Files.contains?, way, absent]
      rfl
    · rw [Files.contains?, way]
  obtain ⟨ready, makes⟩ := Files.makeDirectories_of_no_file free
  obtain ⟨stage, unlike, beside⟩ : ∃ stage, Files.isCloneName stage = false ∧
      (placeOf endpoint).staging (host.tag site.log.length) = front ++ [stage] := by
    rw [stands, staging_concat]
    exact ⟨_, isCloneName_staging _ (undotted _), rfl⟩
  have ran : host.work 15 _ site = _ := work_to_clone plain.clonePath?_eq looked
    (by rw [stands, List.dropLast_concat, makes]) beside
  -- what git answered is in the account of the whole run, and so it is a success
  have exit : (host.git site.log.length (.clone endpoint (front ++ [stage])) ready).1.exit = 0 := by
    apply succeeded endpoint (front ++ [stage])
    change _ ∈ (host.work 15 (.start .download [endpoint]) site).2.log
    rw [ran]
    exact (log_work 11 _ _).subset (List.mem_append_right _ List.mem_cons_self)
  have staged := staged_of_clone obeys shelved.distinct free makes exit
  obtain ⟨placed, renamed, after⟩ := staged.rename obeys.toIsLocal shelved plain new stands unlike
  have told : (host.ask (.clone endpoint (front ++ [stage])) { site with files := ready }).1.result
      host.config (.clone endpoint (front ++ [stage])) = .ok _ := if_pos exit
  rw [told] at ran
  have placing : host.operate _ _ = _ := operate_placing (begun endpoint)
    { endpoint, place := placeOf endpoint, staging := front ++ [stage] }
    (host.ask (.clone endpoint (front ++ [stage])) { site with files := ready }).2 renamed
  rw [download_of_work (ran.trans ((work_of_operate placing 10).trans (work_of_result rfl 10 _)))]
  exact ⟨after, rfl⟩

/-- **One download.**  It leaves the library in order, with a clone of its repository. -/
theorem download_keeps (obeys : host.Obeys mirrors) {site : Site} {before : List String}
    (shelved : Shelved mirrors (firstsBy idOf before) site.files) {endpoint : String}
    (plain : IsPlain endpoint) (undotted : ∀ count, '.' ∉ (host.tag count).toList)
    (succeeded : ∀ origin target report,
      (.clone origin target, report) ∈ (host.download site endpoint).log → report.exit = 0) :
    Shelved mirrors (firstsBy idOf (before ++ [endpoint])) (host.download site endpoint).files ∧
      ∃ outcome, (host.download site endpoint).outcomes = site.outcomes ++ [some outcome] ∧
        (outcome = .ok () ∨ host.config.updateOnDownload = true) := by
  rw [firstsBy_concat]
  by_cases known : idOf endpoint ∈ before.map idOf
  · rw [if_pos known, List.append_nil]
    obtain ⟨other, member, same⟩ := List.mem_map.mp ((keys_firstsBy before _).mpr known)
    have places := ((shelved.plain other member).placeOf_eq_iff plain).mpr same
    exact download_known obeys shelved plain member places
  · rw [if_neg known]
    have new : ∀ other ∈ firstsBy idOf before, placeOf other ≠ placeOf endpoint := by
      intro other member same
      have ids := ((shelved.plain other member).placeOf_eq_iff plain).mp same
      exact known ((keys_firstsBy before _).mp (List.mem_map.mpr ⟨other, member, ids⟩))
    obtain ⟨after, ended⟩ := download_new obeys shelved plain new undotted succeeded
    exact ⟨after, .ok (), ended, .inl rfl⟩

/-- **Downloads in a row.**  The library holds a clone for each repository, made from the first
endpoint that named it. -/
theorem shelved_downloads (obeys : host.Obeys mirrors) {endpoints : List String}
    (plain : ∀ endpoint ∈ endpoints, IsPlain endpoint)
    (undotted : ∀ count, '.' ∉ (host.tag count).toList)
    (succeeded : ∀ origin target report,
      (.clone origin target, report) ∈ (host.downloads endpoints).log → report.exit = 0) :
    Shelved mirrors (firstsBy idOf endpoints) (host.downloads endpoints).files ∧
      ∃ outcomes : List (Except LibraryError Unit),
        (host.downloads endpoints).outcomes = outcomes.map some ∧
        outcomes.length = endpoints.length ∧
        ∀ outcome ∈ outcomes, outcome = .ok () ∨ host.config.updateOnDownload = true := by
  induction endpoints using List.reverseRecOn with
  | nil => exact ⟨.empty, [], rfl, rfl, fun _ member => absurd member List.not_mem_nil⟩
  | append_singleton front last ih =>
      have run : host.downloads (front ++ [last]) = host.download (host.downloads front) last := by
        rw [downloads, List.foldl_concat]
        rfl
      rw [run] at succeeded ⊢
      obtain ⟨before, outcomes, recorded, count, settled⟩ := ih
        (fun endpoint member => plain endpoint (List.mem_append_left _ member))
        (fun origin target report member =>
          succeeded origin target report ((log_download _ last).subset member))
      have lastPlain := plain last (List.mem_append_right _ List.mem_cons_self)
      obtain ⟨after, outcome, ended, kind⟩ :=
        download_keeps obeys before lastPlain undotted succeeded
      refine ⟨after, outcomes ++ [outcome], ?_, ?_, ?_⟩
      · rw [ended, recorded, List.map_append, List.map_singleton]
      · rw [List.length_append, List.length_append, count]
        rfl
      · intro other member
        obtain member | member := List.mem_append.mp member
        · exact settled other member
        · rwa [List.mem_singleton.mp member]

end Host

end RepoCollector
