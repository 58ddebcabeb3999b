import RepoCollector.Proofs.Library.Workshop

/-! # What becomes of staging directories

In a workshop whose git commands end when they are told to, a staging directory stands only while
its call is at the attempt that it was made for: git makes it then, and the call leaves the attempt
when it has given the directory another name, has removed it or has not found it.  The exceptions
are those in the account, that the file system failed when the directory was looked for or removed
(`RepoCollector.Workshop.Tidy`).

A call that is dropped stays at its attempt for good.
-/

namespace RepoCollector

open Endpoint

namespace Workshop

variable {config : LibraryConfig} {w after : Workshop} {move : WorkshopMove}

/-- A staging directory is a directory and holds nothing that has its own name; it stands only while
its call is at the attempt, unless the file system failed. -/
structure Tidy (w : Workshop) : Prop extends Sound w where
  named : ∀ entry ∈ w.attempts, ∀ place, w.files.at? place ≠ none →
    entry.2.staging.name ∈ place → ∃ below, place = entry.2.staging ++ below ∧
      entry.2.staging.name ∉ below
  directory : ∀ entry ∈ w.attempts, w.files.at? entry.2.staging = none ∨
    w.files.at? entry.2.staging = some .directory
  tried : ∀ entry ∈ w.attempts, w.files.at? entry.2.staging ≠ none →
    entry.2 ∈ w.overlooked ∨ entry.2 ∈ w.stuck ∨
      ∃ errand : Errand, w.calls[entry.1]? = some errand ∧ errand.op.attempt? = some entry.2
  working : ∀ index attempt, (index, .clone attempt) ∈ w.gits →
    ∃ errand : Errand, w.calls[index]? = some errand ∧ errand.dropped = false ∧
      errand.op.phase = .running (.clone attempt)

theorem tidy_start {files : Files} (tree : files.IsTree) : Tidy { files } where
  toSound := sound_start tree
  named := nofun
  directory := nofun
  tried := nofun
  working := nofun

namespace Tidy

variable (tidy : w.Tidy)

include tidy

/-- The place of a clone, and what is in it, has no name of a staging directory when the clone is
put into its place. -/
theorem name_not_mem_moved {entry busy : Nat × CloneAttempt} (member : entry ∈ w.attempts)
    (busyMember : busy ∈ w.attempts) {below : Place}
    (stands : w.files.at? (busy.2.staging ++ below) ≠ none) :
    entry.2.staging.name ∉ busy.2.place ++ below := by
  intro found
  obtain ⟨aim, _⟩ := tidy.staged _ _ busyMember
  obtain above | inside := List.mem_append.mp found
  · exact tidy.apart _ (name_mem_drawn member) _ aim above
  · obtain ⟨rest, split, free⟩ :=
      tidy.named entry member _ stands (List.mem_append_right _ inside)
    by_cases same : entry = busy
    · subst same
      rw [← List.append_cancel_left split] at free
      exact free inside
    · exact tidy.staging_apart member busyMember same below ⟨rest, split.symm⟩

/-- Where git makes something that has the name of a staging directory, it works in it. -/
theorem eq_of_name_mem_made {entry : Nat × CloneAttempt} (member : entry ∈ w.attempts) {index : Nat}
    {task : GitTask} (working : (index, task) ∈ w.gits) {below : Place}
    (plain : ∀ name ∈ w.drawn, name ∉ below)
    (inside : entry.2.staging.name ∈ task.directory ++ below) :
    (index, task) = (entry.1, .clone entry.2) ∧ entry.2.staging.name ∉ below := by
  have free := plain _ (name_mem_drawn member)
  refine ⟨?_, free⟩
  obtain inside | inside := List.mem_append.mp inside
  · have lends := tidy.lent index task working
    cases task with
    | clone attempt =>
        cases tidy.eq_of_name_mem member lends inside
        rfl
    | fetch endpoint place => exact absurd inside (tidy.apart _ (name_mem_drawn member) _ lends)
  · exact absurd inside free

/-- No way to a clone has the name of a staging directory. -/
theorem name_not_mem_way {entry : Nat × CloneAttempt} (member : entry ∈ w.attempts) {index : Nat}
    {errand : Errand} {endpoint : String} {place part : Place}
    (here : w.calls[index]? = some errand) (preparing : errand.op.phase = .preparing endpoint place)
    (leads : part <+: place.dropLast) : entry.2.staging.name ∉ part := by
  have aim := tidy.mem_places_of_preparing here preparing
  intro inside
  exact tidy.apart _ (name_mem_drawn member) place aim
    (List.mem_of_mem_dropLast (leads.subset inside))

theorem named_of_change {files : Files} (change : w.Change files) {entry : Nat × CloneAttempt}
    (member : entry ∈ w.attempts) {place : Place} (stands : files.at? place ≠ none)
    (inside : entry.2.staging.name ∈ place) :
    ∃ below, place = entry.2.staging ++ below ∧ entry.2.staging.name ∉ below := by
  cases change with
  | same => exact tidy.named entry member place stands inside
  | @paves index errand endpoint aim part _ here preparing leads makes =>
      rw [Files.at?_of_makeDirectories makes] at stands
      split at stands
      next new =>
        exact absurd inside (tidy.name_not_mem_way member here preparing (new.1.trans leads))
      next => exact tidy.named entry member place stands inside
  | @makes index task part made working clear free own plain =>
      rw [Files.at?_put] at stands
      split at stands
      next same =>
        subst same
        obtain ⟨same, outside⟩ := tidy.eq_of_name_mem_made member working plain inside
        cases same
        exact ⟨part, rfl, outside⟩
      next => exact tidy.named entry member place stands inside
  | erases _ | clears _ _ =>
      rw [Files.at?_without_of_stands stands] at stands
      exact tidy.named entry member place stands inside
  | @places index errand busy _ here placing renames =>
      obtain ⟨rfl, _⟩ := Files.rename_eq_ok renames
      have busyMember := tidy.mem_attempts_of_placing here placing
      by_cases leads : busy.place <+: place
      · obtain ⟨below, rfl⟩ := leads
        rw [tidy.tree.distinct.at?_relocate_append (tidy.place_apart busyMember below)] at stands
        exact absurd inside (tidy.name_not_mem_moved member busyMember stands)
      · by_cases carried : busy.staging <+: place
        · exact absurd (tidy.tree.distinct.at?_relocate_of_carried leads carried) stands
        · rw [tidy.tree.distinct.at?_relocate_elsewhere leads carried] at stands
          exact tidy.named entry member place stands inside

/-- A staging directory appears only when git makes it. -/
theorem staging_of_change {files : Files} (change : w.Change files) {entry : Nat × CloneAttempt}
    (member : entry ∈ w.attempts) (stands : files.at? entry.2.staging ≠ none) :
    files.at? entry.2.staging = w.files.at? entry.2.staging ∨
      files.at? entry.2.staging = some .directory ∧ (entry.1, .clone entry.2) ∈ w.gits := by
  have inside := tidy.name_mem_staging member
  cases change with
  | same => exact .inl rfl
  | @paves index errand endpoint aim part _ here preparing leads makes =>
      left
      apply Files.at?_makeDirectories_elsewhere makes
      exact fun within => tidy.name_not_mem_way member here preparing (within.trans leads) inside
  | @makes index task part made working clear free own plain =>
      rw [Files.at?_put]
      split
      next here =>
        obtain ⟨same, _⟩ := tidy.eq_of_name_mem_made member working plain (here ▸ inside)
        cases same
        have whole : part = [] := List.self_eq_append_right.mp here
        exact .inr ⟨congrArg some (own whole), working⟩
      next => exact .inl rfl
  | erases _ | clears _ _ => exact .inl (Files.at?_without_of_stands stands)
  | @places index errand busy _ here placing renames =>
      obtain ⟨rfl, _⟩ := Files.rename_eq_ok renames
      have busyMember := tidy.mem_attempts_of_placing here placing
      by_cases leads : busy.place <+: entry.2.staging
      · obtain ⟨below, split⟩ := leads
        rw [← split, tidy.tree.distinct.at?_relocate_append (tidy.place_apart busyMember below)]
          at stands
        exact absurd (split ▸ inside) (tidy.name_not_mem_moved member busyMember stands)
      · by_cases carried : busy.staging <+: entry.2.staging
        · exact absurd (tidy.tree.distinct.at?_relocate_of_carried leads carried) stands
        · exact .inl (tidy.tree.distinct.at?_relocate_elsewhere leads carried)

/-- A call that leaves an attempt leaves no staging directory behind, unless the file system fails.
-/
theorem gone_of_step {index : Nat} {errand : Errand} {surroundings : Surroundings}
    {next : Operation} {files : Files} {attempt : CloneAttempt}
    (here : w.calls[index]? = some errand) (trying : errand.op.attempt? = some attempt)
    (stepped : errand.op.step config surroundings w.files = some (next, files)) :
    files.at? attempt.staging = none ∨ attempt ∈ w.overlookedAfter surroundings errand.op ∨
      attempt ∈ w.stuckAfter surroundings errand.op ∨ next.attempt? = some attempt := by
  have member := tidy.held _ _ _ here trying
  cases Operation.turn_of_step stepped with
  | goesOn idle _ => cases idle.symm.trans trying
  | prepares choosing | refreshes choosing =>
      rw [Operation.attempt?, choosing] at trying
      cases trying
  | draws preparing _ _ =>
      rw [Operation.attempt?, preparing] at trying
      cases trying
  | @starts task launching now =>
      rw [Operation.attempt?, launching] at trying
      cases task with
      | clone busy => exact .inr (.inr (.inr (by rw [Operation.attempt?, now]; exact trying)))
      | fetch endpoint place => cases trying
  | succeeds running _ _ _ now =>
      rw [Operation.attempt?, running] at trying
      exact .inr (.inr (.inr (by rw [Operation.attempt?, now]; exact trying)))
  | givesUp phases now =>
      right; right; right
      rw [Operation.attempt?, now]
      obtain phase | phase | phase := phases <;>
        rw [Operation.attempt?, phase] at trying <;> exact trying
  | finds inspecting now =>
      rw [Operation.attempt?, inspecting] at trying
      exact .inr (.inr (.inr (by rw [Operation.attempt?, now]; exact trying)))
  | places placing renames _ =>
      rw [Operation.attempt?, placing] at trying
      cases trying
      obtain ⟨rfl, _⟩ := Files.rename_eq_ok renames
      left
      exact tidy.tree.distinct.at?_relocate_of_carried (tidy.place_not_leads member)
        List.prefix_rfl
  | leaves inspecting unseen _ =>
      rw [Operation.attempt?, inspecting] at trying
      cases trying
      obtain failed | unseen := unseen
      · obtain ⟨fault, found⟩ := Option.ne_none_iff_exists'.mp failed
        right; left
        rw [overlookedAfter, inspecting, found]
        exact List.mem_cons_self
      · left
        by_contra stands
        exact unseen (tidy.tree.contains?_of_stands stands)
  | clears clearing removes _ =>
      rw [Operation.attempt?, clearing] at trying
      cases trying
      left
      rw [removeTree_eq_ok removes, Files.at?_without,
        if_pos (Place.isWithin_iff.mpr List.prefix_rfl)]
  | abandons clearing blocked _ =>
      rw [Operation.attempt?, clearing] at trying
      cases trying
      obtain failed | ⟨fault, refused⟩ := blocked
      · obtain ⟨fault, found⟩ := Option.ne_none_iff_exists'.mp failed
        right; right; left
        rw [stuckAfter, clearing, found]
        exact List.mem_cons_self
      · obtain gone | stands := tidy.directory _ member
        · exact .inl gone
        · rw [tidy.tree.removeTree_of_directory stands] at refused
          cases refused

/-- What stands in the directory of an attempt is there because its call is at the attempt, or
because the file system failed before. -/
theorem busy_of_change {files : Files} (change : w.Change files) {entry : Nat × CloneAttempt}
    (member : entry ∈ w.attempts) (stands : files.at? entry.2.staging ≠ none) :
    entry.2 ∈ w.overlooked ∨ entry.2 ∈ w.stuck ∨
      ∃ errand : Errand, w.calls[entry.1]? = some errand ∧ errand.op.attempt? = some entry.2 := by
  obtain same | ⟨_, working⟩ := tidy.staging_of_change change member stands
  · exact tidy.tried entry member (same ▸ stands)
  · obtain ⟨errand, here, _, running⟩ := tidy.working _ _ working
    exact .inr (.inr ⟨errand, here, by rw [Operation.attempt?, running]⟩)

theorem tried_of_act (acted : act config false move w = some after) {entry : Nat × CloneAttempt}
    (member : entry ∈ w.attempts) (stands : after.files.at? entry.2.staging ≠ none) :
    entry.2 ∈ after.overlooked ∨ entry.2 ∈ after.stuck ∨
      ∃ errand : Errand, after.calls[entry.1]? = some errand ∧
        errand.op.attempt? = some entry.2 := by
  have continues := continues_of_act acted
  obtain overlooked | stuck | ⟨errand, here, trying⟩ :=
    tidy.busy_of_change (change_of_act acted) member stands
  · exact .inl (continues.overlooked overlooked)
  · exact .inr (.inl (continues.stuck stuck))
  obtain ⟨standing, found⟩ := continues.exists_call here
  cases comes_of_act acted found with
  | stays there | drops there =>
      cases here.symm.trans there
      exact .inr (.inr ⟨_, found, trying⟩)
  | begins _ fresh => cases here.symm.trans fresh
  | steps there _ stepped _ _ _ overlooked stuck =>
      cases here.symm.trans there
      obtain gone | missed | failed | trying := tidy.gone_of_step here trying stepped
      · exact absurd gone stands
      · exact .inl (overlooked ▸ missed)
      · exact .inr (.inl (stuck ▸ failed))
      · exact .inr (.inr ⟨_, found, trying⟩)

/-- Git that goes on working belongs to a call that goes on waiting for it. -/
theorem working_of_act (acted : act config false move w = some after) {index : Nat}
    {attempt : CloneAttempt} (before : (index, .clone attempt) ∈ w.gits)
    (member : (index, .clone attempt) ∈ after.gits) :
    ∃ errand : Errand, after.calls[index]? = some errand ∧ errand.dropped = false ∧
      errand.op.phase = .running (.clone attempt) := by
  obtain ⟨errand, here, going, running⟩ := tidy.working index attempt before
  obtain ⟨standing, found⟩ := (continues_of_act acted).exists_call here
  cases comes_of_act acted found with
  | stays there =>
      cases here.symm.trans there
      exact ⟨_, found, going, running⟩
  | drops _ ended => exact absurd member (ended rfl _)
  | begins _ fresh => cases here.symm.trans fresh
  | steps there _ stepped kept gits =>
      cases here.symm.trans there
      exfalso
      obtain ⟨rest, _⟩ | ⟨task, phase, _⟩ := account_gits kept
      · have busy : errand.op.running? = some (.clone attempt) := by
          rw [Operation.running?, running]
        rw [gits, rest, gitsAfter, busy] at member
        exact of_decide_eq_true (List.mem_filter.mp member).2 rfl
      · cases running.symm.trans ((Operation.turn_of_step stepped).of_running phase)

end Tidy

/-- The names of new staging directories are nowhere when the way to a clone is made. -/
theorem IsNew.not_mem_of_makeDirectories {attempt : CloneAttempt}
    (new : w.IsNew attempt.staging.name) (distinct : w.files.Distinct)
    (aim : attempt.place ∈ w.places) {made : Files}
    (makes : w.files.makeDirectories attempt.place.dropLast = .ok made) {place : Place}
    (stands : made.at? place ≠ none) : attempt.staging.name ∉ place := by
  rw [Files.at?_of_makeDirectories makes] at stands
  split at stands
  next fresh =>
    intro inside
    exact new.2.2 _ aim (List.mem_of_mem_dropLast (fresh.1.subset inside))
  next =>
    obtain ⟨entry, found⟩ := Option.ne_none_iff_exists'.mp stands
    exact new.2.1 _ (distinct.mem_entries_iff.mpr found)

/-- **Every move keeps a workshop tidy**, if git commands end when they are told to. -/
theorem Tidy.act (tidy : w.Tidy) (acted : act config false move w = some after) : after.Tidy := by
  have change := change_of_act acted
  have continues := continues_of_act acted
  have sound := tidy.toSound.act acted
  have fresh {entry : Nat × CloneAttempt} (new : w.IsNew entry.2.staging.name)
      (makes : w.files.makeDirectories entry.2.place.dropLast = .ok after.files)
      (begins : ∃ errand : Errand, w.calls[entry.1]? = some errand ∧
        errand.op.phase = .preparing entry.2.endpoint entry.2.place) {place : Place}
      (stands : after.files.at? place ≠ none) : entry.2.staging.name ∉ place := by
    obtain ⟨errand, here, preparing⟩ := begins
    have aim := tidy.mem_places_of_preparing here preparing
    exact new.not_mem_of_makeDirectories tidy.tree.distinct aim makes stands
  refine { sound with named := ?_, directory := ?_, tried := ?_, working := ?_ }
  · intro entry member place stands inside
    obtain before | ⟨new, makes, begins⟩ := continues.attempts entry member
    · exact tidy.named_of_change change before stands inside
    · exact absurd inside (fresh new makes begins stands)
  · intro entry member
    by_cases stands : after.files.at? entry.2.staging = none
    · exact .inl stands
    obtain before | ⟨new, makes, begins⟩ := continues.attempts entry member
    · obtain same | ⟨made, _⟩ := tidy.staging_of_change change before stands
      · rw [same]
        exact tidy.directory entry before
      · exact .inr made
    · exact absurd (sound.name_mem_staging member) (fresh new makes begins stands)
  · intro entry member stands
    obtain before | ⟨new, makes, begins⟩ := continues.attempts entry member
    · exact tidy.tried_of_act acted before stands
    · exact absurd (sound.name_mem_staging member) (fresh new makes begins stands)
  · intro index attempt member
    obtain before | ⟨_, started⟩ := continues.gits _ member
    · exact tidy.working_of_act acted before member
    · exact started

end Workshop

end RepoCollector
