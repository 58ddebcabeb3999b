import Mathlib.Data.Set.Function
import RepoCollector.Library.Inventory
import RepoCollector.Proofs.Library.Downloads
import RepoCollector.Simulation.GitScript

/-! # What the inventory lists

After downloads of plain endpoints the inventory lists one URL for each repository
(`RepoCollector.Host.lists_every_clone`).  An endpoint with the extension of clones in front of its
last segment has its place where the inventory never looks
(`RepoCollector.Host.nested_not_mem_clones`), so its clone is missing from the list
(`RepoCollector.Host.misses_nested_clone`).
-/

namespace RepoCollector

open Endpoint

namespace Host

/-- One step of an inventory. -/
def inspect (host : Host) (inventory : Inventory) (site : Site) : Option (Inventory × Site) :=
  match inventory.running? with
  | some place =>
    let (report, site) := host.ask (.readOrigin place) site
    (inventory.step host.config { report } site.files).map (·, site)
  | none => (inventory.step host.config {} site.files).map (·, site)

def look (host : Host) : Nat → Inventory → Site → Inventory × Site
  | 0, inventory, site => (inventory, site)
  | fuel + 1, inventory, site =>
    match host.inspect inventory site with
    | some (inventory, site) => look host fuel inventory site
    | none => (inventory, site)

/-- What the inventory of a library lists. -/
def repositories (host : Host) (site : Site) : Option (Except LibraryError (List String)) :=
  (host.look (2 * site.files.entries.length + 2) {} site).1.result?

variable {host : Host} {mirrors : Files → Place → String → Prop} {made : List String}

/-! ## Asking git -/

theorem originOf_newline (origin : String) : originOf (origin ++ "\n") = originOf origin := by
  have blank : Text.trim (origin ++ "\n").toList = Text.trim origin.toList := by
    rw [String.toList_append]
    exact Text.trimWhere_concat (by decide) origin.toList
  rw [originOf, originOf, blank]

theorem look_of_inspect {inventory next : Inventory} {site after : Site}
    (stepped : host.inspect inventory site = some (next, after)) (fuel : Nat) :
    host.look (fuel + 1) inventory site = host.look fuel next after := by
  rw [look, stepped]

theorem look_of_result {inventory : Inventory} {result : Except LibraryError (List String)}
    (ended : inventory.phase = .over result) (fuel : Nat) (site : Site) :
    host.look fuel inventory site = (inventory, site) := by
  cases fuel with
  | zero => rfl
  | succ fuel =>
      simp only [look, inspect, Inventory.running?, Inventory.step, ended, Option.map_none]

/-- Git is asked about one clone after the other. -/
theorem look_launching (obeys : host.Obeys mirrors) {origin : Place → String} {places : List Place}
    {site : Site} (stands : ∀ place ∈ places, mirrors site.files place (origin place))
    (found : List String) {fuel : Nat} (enough : 2 * places.length + 1 ≤ fuel) :
    (host.look fuel { phase := .launching places, found } site).1.result? =
      some (.ok (((places.map fun place => originOf (origin place)).reverse ++ found).mergeSort
        (· ≤ ·))) := by
  induction places generalizing site found fuel with
  | nil =>
      obtain ⟨fuel, rfl⟩ : ∃ less, fuel = less + 1 := ⟨fuel - 1, by omega⟩
      have ends : host.inspect { phase := .launching [], found } site = some _ := rfl
      rw [look_of_inspect ends, look_of_result rfl]
      rfl
  | cons place places ih =>
      rw [List.length_cons] at enough
      obtain ⟨fuel, rfl⟩ : ∃ less, fuel = less + 2 := ⟨fuel - 2, by omega⟩
      obtain ⟨exit, printed, same⟩ := obeys.read site.log.length place site.files (origin place)
        (stands place List.mem_cons_self)
      have launched : host.inspect { phase := .launching (place :: places), found } site =
        some ({ phase := .running place places, found }, site) := rfl
      have answered : host.inspect { phase := .running place places, found } site =
          some ({ phase := .launching places, found := originOf (origin place) :: found },
            (host.ask (.readOrigin place) site).2) := by
        have told : (host.ask (.readOrigin place) site).1.result host.config (.readOrigin place) =
            .ok (origin place ++ "\n") := by
          rw [← printed]
          exact if_pos exit
        simp only [inspect, Inventory.running?, Inventory.step, told, Inventory.afterGit,
          originOf_newline, Option.map_some]
      rw [look_of_inspect launched, look_of_inspect answered, ih _ _ (by omega)]
      · rw [List.map_cons, List.reverse_cons, List.append_assoc]
        rfl
      · intro other member
        have files : (host.ask (.readOrigin place) site).2.files = site.files := same
        rw [files]
        exact stands other (List.mem_cons_of_mem _ member)

/-- The places where the inventory looks. -/
theorem clones_of_shelved {files : Files} (shelved : Shelved mirrors made files)
    (localTo : IsLocal mirrors) (different : (made.map placeOf).Nodup) :
    ∃ places, files.clones = .ok places ∧ places.length ≤ files.entries.length ∧
      places.Perm (made.map placeOf) := by
  cases made with
  | nil =>
      have absent : files.at? [] = none := by
        by_contra found
        obtain ⟨_, member, _⟩ := shelved.only [] found
        cases member
      refine ⟨[], ?_, Nat.zero_le _, List.Perm.nil⟩
      rw [Files.clones, absent]
  | cons first rest =>
      have root : files.at? [] = some .directory := by
        have way := Files.obstacle?_eq_none_iff.mp (shelved.way first List.mem_cons_self)
        apply way [] List.nil_prefix
        intro same
        have isClone := (shelved.plain first List.mem_cons_self).isClonePlace
        rw [← same] at isClone
        cases isClone
      refine ⟨_, by rw [Files.clones, root], ?_, ?_⟩
      · rw [List.length_map]
        exact List.length_filter_le _ _
      · rw [List.perm_ext_iff_of_nodup
          (shelved.distinct.sublist (List.filter_sublist.map _)) different]
        intro place
        rw [List.mem_map, List.mem_map]
        constructor
        · rintro ⟨⟨_, entry⟩, member, rfl⟩
          obtain ⟨member, kind⟩ := List.mem_filter.mp member
          obtain ⟨_, isClone⟩ := Bool.and_eq_true_iff.mp kind
          have found := shelved.distinct.mem_entries_iff.mp member
          apply shelved.exists_of_at? isClone
          rw [found]
          exact Option.some_ne_none _
        · rintro ⟨endpoint, member, rfl⟩
          have found := localTo.directory (shelved.mirror endpoint member)
          have isClone := (shelved.plain endpoint member).isClonePlace
          refine ⟨(placeOf endpoint, .directory), List.mem_filter.mpr ⟨?_, ?_⟩, rfl⟩
          · exact shelved.distinct.mem_entries_iff.mpr found
          · exact Bool.and_eq_true_iff.mpr ⟨decide_eq_true rfl, isClone⟩

theorem repositories_of_clones (obeys : host.Obeys mirrors) {site : Site} {places : List Place}
    (clones : site.files.clones = .ok places) (few : places.length ≤ site.files.entries.length)
    {origin : Place → String} (stands : ∀ place ∈ places, mirrors site.files place (origin place)) :
    host.repositories site =
      some (.ok ((places.map fun place => originOf (origin place)).reverse.mergeSort (· ≤ ·))) := by
  have read : host.inspect {} site = some ({ phase := .launching places }, site) := by
    simp only [inspect, Inventory.running?, Inventory.step, Surroundings.allow, clones,
      Option.map_some]
  rw [repositories, look_of_inspect read, look_launching obeys stands [] (by omega),
    List.append_nil]

theorem pairwise_mergeSort (urls : List String) : (urls.mergeSort (· ≤ ·)).Pairwise (· ≤ ·) := by
  have sorted : (urls.mergeSort (· ≤ ·)).Pairwise fun first second => decide (first ≤ second) := by
    apply List.pairwise_mergeSort
    · intro first second third lower upper
      exact decide_eq_true (String.le_trans (of_decide_eq_true lower) (of_decide_eq_true upper))
    · intro first second
      rw [Bool.or_eq_true, decide_eq_true_iff, decide_eq_true_iff]
      exact String.le_total first second
  exact sorted.imp of_decide_eq_true

/-- **Every clone is listed.**  After downloads of plain endpoints the library has a clone for each
of their repositories, and the inventory lists the URL that each one was made from, without
credentials. -/
theorem lists_every_clone (obeys : host.Obeys mirrors) {endpoints : List String}
    (plain : ∀ endpoint ∈ endpoints, IsPlain endpoint)
    (undotted : ∀ count, '.' ∉ (host.tag count).toList)
    (succeeded : ∀ origin target report,
      (.clone origin target, report) ∈ (host.downloads endpoints).log → report.exit = 0) :
    (∃ urls, host.repositories (host.downloads endpoints) = some (.ok urls) ∧
      urls.Pairwise (· ≤ ·) ∧ urls.Perm ((firstsBy idOf endpoints).map originOf)) ∧
    (∀ endpoint ∈ endpoints, ∃ origin ∈ firstsBy idOf endpoints, idOf origin = idOf endpoint ∧
      mirrors (host.downloads endpoints).files (placeOf endpoint) origin) ∧
    ∃ outcomes : List (Except LibraryError Unit),
      (host.downloads endpoints).outcomes = outcomes.map some ∧
      outcomes.length = endpoints.length ∧
      ∀ outcome ∈ outcomes, outcome = .ok () ∨ host.config.updateOnDownload = true := by
  obtain ⟨shelved, outcomes⟩ := shelved_downloads obeys plain undotted succeeded
  refine ⟨?_, ?_, outcomes⟩
  · have ids : ((firstsBy idOf endpoints).map idOf).Nodup := nodup_keys_firstsBy endpoints
    have apart : Set.InjOn placeOf {endpoint | endpoint ∈ firstsBy idOf endpoints} := by
      intro endpoint member other otherMember same
      have same := ((shelved.plain endpoint member).placeOf_eq_iff
        (shelved.plain other otherMember)).mp same
      exact List.inj_on_of_nodup_map ids member otherMember same
    have different : ((firstsBy idOf endpoints).map placeOf).Nodup := by
      apply List.Nodup.map_on _ ids.of_map
      intro endpoint member other otherMember same
      exact apart member otherMember same
    obtain ⟨places, clones, few, all⟩ := clones_of_shelved shelved obeys.toIsLocal different
    -- the endpoint that the clone at a place was made from
    have back := apart.leftInvOn_invFunOn
    generalize Function.invFunOn placeOf _ = origin at back
    have stands : ∀ place ∈ places,
        mirrors (host.downloads endpoints).files place (origin place) := by
      intro place member
      obtain ⟨endpoint, first, rfl⟩ := List.mem_map.mp (all.mem_iff.mp member)
      rw [back first]
      exact shelved.mirror endpoint first
    refine ⟨_, repositories_of_clones obeys clones few stands, pairwise_mergeSort _, ?_⟩
    have urls : ((firstsBy idOf endpoints).map placeOf).map (fun place => originOf (origin place)) =
        (firstsBy idOf endpoints).map originOf := by
      rw [List.map_map]
      apply List.map_congr_left
      intro endpoint member
      exact congrArg originOf (back member)
    rw [← urls]
    exact (List.mergeSort_perm _ _).trans ((List.reverse_perm _).trans (all.map _))
  · intro endpoint member
    have known : idOf endpoint ∈ (firstsBy idOf endpoints).map idOf :=
      (keys_firstsBy endpoints _).mpr (List.mem_map_of_mem member)
    obtain ⟨origin, first, same⟩ := List.mem_map.mp known
    have places := ((shelved.plain origin first).placeOf_eq_iff (plain endpoint member)).mpr same
    exact ⟨origin, first, same, places ▸ shelved.mirror origin first⟩

/-! ## A git that keeps to its documentation -/

/-- Git as far as a library sees it.  A clone keeps its origin in a file. -/
def simpleGit (action : GitAction) (files : Files) : GitReport × Files :=
  match action with
  | .clone endpoint target =>
    if files.isOccupied target = false ∧
        (files.at? target = none ∨ files.at? target = some .directory) then
      ({}, GitScript.makeClone files endpoint target)
    else ({ exit := 128, stderr := "fatal: destination path already exists" }, files)
  | .refresh _ _ => ({}, files)
  | .readOrigin place => (GitScript.readOrigin files place, files)

theorem simpleGit_clone (endpoint : String) (target : Place) (files : Files) :
    ((simpleGit (.clone endpoint target) files).1.exit ≠ 0 ∧
      (simpleGit (.clone endpoint target) files).2 = files) ∨
    (files.isOccupied target = false ∧
      (files.at? target = none ∨ files.at? target = some .directory) ∧
      (simpleGit (.clone endpoint target) files).2 =
        GitScript.makeClone files endpoint target) := by
  unfold simpleGit
  dsimp only
  split
  next free => exact .inr ⟨free.1, free.2, rfl⟩
  next => exact .inl ⟨Nat.succ_ne_zero 127, rfl⟩

theorem makeClone_of_way {files : Files} {target : Place} (clear : files.obstacle? target = none)
    (vacant : files.at? target = none ∨ files.at? target = some .directory) (endpoint : String) :
    ∃ made, files.makeDirectories target = .ok made ∧ GitScript.makeClone files endpoint target =
      made.put (GitScript.originFile target) (.file endpoint) := by
  obtain ⟨made, makes⟩ : ∃ made, files.makeDirectories target = .ok made := by
    apply Files.makeDirectories_of_no_file
    intro directory leads
    by_cases same : directory = target
    · rwa [same]
    · exact .inr (Files.obstacle?_eq_none_iff.mp clear directory leads same)
  exact ⟨made, makes, by rw [GitScript.makeClone, makes]⟩

/-- A host with this git.  One tag is enough for it, because nothing is left in staging. -/
def simpleHost : Host := { config := {}, git := fun _ => simpleGit, tag := fun _ => "5d41" }

def simpleMirrors (files : Files) (place : Place) (endpoint : String) : Prop :=
  files.at? place = some .directory ∧
    files.at? (GitScript.originFile place) = some (.file endpoint)

theorem simpleHost_obeys : simpleHost.Obeys simpleMirrors where
  directory := And.left
  copied := by
    rintro files others place other endpoint same ⟨here, origin⟩
    have root := same []
    rw [List.append_nil, List.append_nil] at root
    exact ⟨root.symm.trans here, (same _).symm.trans origin⟩
  distinct := by
    intro _ action files distinct
    cases action with
    | clone endpoint target =>
        change (simpleGit (.clone endpoint target) files).2.Distinct
        obtain ⟨_, same⟩ | ⟨_, _, same⟩ := simpleGit_clone endpoint target files
        · rwa [same]
        · rw [same, GitScript.makeClone]
          split
          next made makes => exact (distinct.makeDirectories makes).put _ _
          next => exact distinct
    | refresh => exact distinct
    | readOrigin => exact distinct
  cloned := by
    intro _ endpoint target files exit clear
    change (simpleGit (.clone endpoint target) files).1.exit = 0 at exit
    change _ ∧ simpleMirrors (simpleGit (.clone endpoint target) files).2 target endpoint
    obtain ⟨failed, _⟩ | ⟨free, vacant, same⟩ := simpleGit_clone endpoint target files
    · exact absurd exit failed
    · obtain ⟨made, makes, cloned⟩ := makeClone_of_way clear vacant endpoint
      rw [same, cloned]
      refine ⟨free, ?_, ?_⟩
      · have here : made.at? target = some .directory := by
          rw [Files.at?_of_makeDirectories makes]
          obtain absent | present := vacant
          · rw [if_pos ⟨List.prefix_rfl, absent⟩]
          · rw [present, ite_self]
        rw [Files.at?_put, if_neg, here]
        intro same
        have lengths := congrArg List.length same
        rw [GitScript.originFile, List.length_append, List.length_singleton] at lengths
        omega
      · rw [Files.at?_put, if_pos rfl]
  clone_elsewhere := by
    intro _ endpoint target files place clear outside
    change (simpleGit (.clone endpoint target) files).2.at? place = _
    obtain ⟨_, same⟩ | ⟨_, vacant, same⟩ := simpleGit_clone endpoint target files
    · rw [same]
    · obtain ⟨made, makes, cloned⟩ := makeClone_of_way clear vacant endpoint
      rw [same, cloned, Files.at?_put, if_neg, Files.at?_of_makeDirectories makes, if_neg]
      · rintro ⟨leads, absent⟩
        have present := Files.obstacle?_eq_none_iff.mp clear place leads
        rw [absent] at present
        cases present fun same => outside (same ▸ List.prefix_rfl)
      · rintro rfl
        exact outside (List.prefix_append _ _)
  fetched := fun _ _ _ _ _ mirror => mirror
  fetch_elsewhere := fun _ _ _ _ _ _ => rfl
  read := by
    rintro _ place files endpoint ⟨_, origin⟩
    have told : GitScript.readOrigin files place = { stdout := endpoint ++ "\n" } := by
      rw [GitScript.readOrigin, origin]
    change (GitScript.readOrigin files place).exit = 0 ∧
      (GitScript.readOrigin files place).stdout = endpoint ++ "\n" ∧ files = files
    rw [told]
    exact ⟨rfl, rfl, rfl⟩

/-- Two endpoints of one repository, and one of a repository below its name. -/
def neighbours : List String :=
  ["https://me:secret@h/o/a.git", "git@h:o/a", "https://h/o/a/b"]

theorem lists_every_clone_neighbours :
    ∃ urls, simpleHost.repositories (simpleHost.downloads neighbours) = some (.ok urls) ∧
      urls.Perm ["https://h/o/a.git", "https://h/o/a/b"] := by
  have plain : ∀ endpoint ∈ neighbours, IsPlain endpoint := by
    intro endpoint member
    simp only [neighbours, List.mem_cons, List.not_mem_nil, or_false] at member
    rcases member with rfl | rfl | rfl
    · exact ⟨[['h'], ['o'], ['a']], by cbv, by decide⟩
    · exact ⟨[['h'], ['o'], ['a']], by cbv, by decide⟩
    · exact ⟨[['h'], ['o'], ['a'], ['b']], by cbv, by decide⟩
  have log : (simpleHost.downloads neighbours).log.all (fun entry => entry.2.exit = 0) = true := by
    decide +kernel
  have undotted : '.' ∉ "5d41".toList := by decide
  have listed := (lists_every_clone simpleHost_obeys plain (fun _ => undotted)
    (fun _ _ _ member => of_decide_eq_true (List.all_eq_true.mp log _ member))).1
  obtain ⟨urls, listed, _, all⟩ := listed
  have origins : (firstsBy idOf neighbours).map originOf =
      ["https://h/o/a.git", "https://h/o/a/b"] := by cbv
  exact ⟨urls, listed, origins ▸ all⟩

/-! ## What the inventory misses -/

/-- A clone below a name with the extension of clones is never listed. -/
theorem nested_not_mem_clones {endpoint : String} {segments : List (List Char)}
    (found : segments? endpoint.toList = some segments) (nested : ¬IsPlain endpoint) {files : Files}
    {places : List Place} (clones : files.clones = .ok places) : placeOf endpoint ∉ places := by
  intro member
  have isClone := Files.isClonePlace_of_mem_clones clones member
  obtain ⟨front, name, stands, _, bare⟩ := Files.isClonePlace_iff.mp isClone
  rw [placeOf_eq found, clonePath] at stands
  obtain ⟨rfl, _⟩ := List.append_inj' stands rfl
  exact nested ⟨segments, found, by simpa using bare⟩

/-- The download succeeds and leaves its clone, and the inventory of the library is empty. -/
theorem misses_nested_clone :
    repositoryId "https://h/a.git/b" = .ok "h/a.git/b" ∧
      (simpleHost.downloads ["https://h/a.git/b"]).outcomes = [some (.ok ())] ∧
      simpleMirrors (simpleHost.downloads ["https://h/a.git/b"]).files
        (placeOf "https://h/a.git/b") "https://h/a.git/b" ∧
      simpleHost.repositories (simpleHost.downloads ["https://h/a.git/b"]) = some (.ok []) := by
  refine ⟨by cbv, ?_, ⟨?_, ?_⟩, ?_⟩ <;> decide +kernel

end Host

end RepoCollector
