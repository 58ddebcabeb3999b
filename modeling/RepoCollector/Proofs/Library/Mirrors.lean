import RepoCollector.Proofs.Library.Workshop

/-! # Clones appear as a whole

Downloads on one library are under way in any number and order.  Each git clones into a directory of
its own, and what it leaves there reaches the place of the clone by one renaming, which succeeds
only where nothing stands: a download goes on to clone only if it has found nothing, and what has
come to the place since then is a clone that another download has put there, with something in it
(`RepoCollector.Workshop.Guarded`).

So a clone that was not there at the beginning is what a git that succeeded has made, as it made it,
and a clone that is there stays as it is (`RepoCollector.Workshop.clones_appear_whole`).
-/

namespace RepoCollector

open Endpoint

/-- If the move is a call, it is a download, and no directory on the way to a clone that it asks for
has the name of a clone. -/
def WorkshopMove.IsDownload : WorkshopMove → Prop
  | .call kind endpoints =>
    kind = .download ∧ ∀ endpoint ∈ endpoints, idOf endpoint ≠ none → IsPlain endpoint
  | _ => True

/-- Nothing stands at a place, or a directory with something in it. -/
def Files.IsSettled (files : Files) (place : Place) : Prop :=
  files.at? place = none ∨ files.isOccupied place = true

namespace Workshop

variable {config : LibraryConfig} {lingers : Bool} {w after : Workshop} {move : WorkshopMove}

/-- The place is not in a staging directory. -/
def IsOutside (w : Workshop) (place : Place) : Prop :=
  ∀ entry ∈ w.attempts, ¬entry.2.staging <+: place

/-- What git has made for an attempt is in the staging directory, if that still stands. -/
def IsPacked (w : Workshop) (attempt : CloneAttempt) : Prop :=
  w.files.at? attempt.staging = none ∨ ∃ done ∈ w.finished, done.attempt = attempt ∧
    w.files.isOccupied attempt.staging = true ∧
    ∀ below, w.files.at? (attempt.staging ++ below) = done.content below

/-- Only downloads are under way, and none will put its clone into a place where something stands.
-/
structure Guarded (w : Workshop) : Prop extends Sound w where
  plain : ∀ place ∈ w.places, Files.isClonePlace place = true
  downloads : ∀ (index : Nat) (errand : Errand), w.calls[index]? = some errand →
    errand.op.kind = .download
  cloning : ∀ (index : Nat) (errand : Errand) endpoint place, w.calls[index]? = some errand →
    errand.op.task? ≠ some (.fetch endpoint place)
  clones : ∀ index endpoint place, (index, .fetch endpoint place) ∉ w.gits
  ready : ∀ (index : Nat) (errand : Errand) endpoint place, w.calls[index]? = some errand →
    errand.op.phase = .preparing endpoint place → w.files.IsSettled place
  settled : ∀ entry ∈ w.attempts, w.files.IsSettled entry.2.place
  packed : ∀ (index : Nat) (errand : Errand) attempt, w.calls[index]? = some errand →
    errand.op.phase = .placing attempt →
    (index, .clone attempt) ∉ w.gits ∧ w.IsPacked attempt

theorem isCloneName_of_isClonePlace {mirror : Place} (isClone : Files.isClonePlace mirror = true) :
    Files.isCloneName mirror.name = true := by
  obtain ⟨front, name, rfl, named, _⟩ := Files.isClonePlace_iff.mp isClone
  rwa [Place.name_concat]

namespace Guarded

theorem not_leads_of_named {place mirror : Place} (plain : Files.isClonePlace place = true)
    (named : Files.isCloneName mirror.name = true) : ¬mirror <+: place.dropLast := by
  intro leads
  obtain ⟨front, name, rfl, _, bare⟩ := Files.isClonePlace_iff.mp plain
  rw [List.dropLast_concat] at leads
  obtain rfl | ⟨above, own, rfl⟩ := mirror.eq_nil_or_concat'
  · cases named
  · rw [Place.name_concat] at named
    have member : own ∈ front := leads.subset (List.mem_append_right _ List.mem_cons_self)
    exact List.any_eq_false.mp bare own member named

variable (guarded : w.Guarded)

include guarded

/-- A clone does not lead to a staging directory that it is not in. -/
theorem mirror_apart {index : Nat} {attempt : CloneAttempt} (member : (index, attempt) ∈ w.attempts)
    {mirror : Place} (named : Files.isCloneName mirror.name = true) (outside : w.IsOutside mirror)
    (below : Place) : ¬attempt.staging <+: mirror ++ below := by
  intro leads
  obtain inside | inside := List.prefix_or_prefix_of_prefix leads (List.prefix_append mirror below)
  · exact outside _ member inside
  · obtain ⟨aim, shape⟩ := guarded.staged index attempt member
    rw [shape] at inside
    obtain same | inside := List.prefix_concat_iff.mp inside
    · exact outside _ member (by rw [same, ← shape])
    · exact not_leads_of_named (guarded.plain _ aim) named inside

/-- A place for a clone does not lead to a staging directory, or into one. -/
theorem aim_apart {index : Nat} {attempt : CloneAttempt} (member : (index, attempt) ∈ w.attempts)
    {place : Place} (aim : place ∈ w.places) (below : Place) :
    ¬place <+: attempt.staging ++ below := by
  intro leads
  obtain within | within := List.prefix_or_prefix_of_prefix leads (List.prefix_append _ below)
  · obtain ⟨own, shape⟩ := guarded.staged _ _ member
    rw [shape] at within
    obtain same | within := List.prefix_concat_iff.mp within
    · exact guarded.staging_not_leads member aim (by rw [same, ← shape])
    · have named := isCloneName_of_isClonePlace (guarded.plain _ aim)
      exact not_leads_of_named (guarded.plain _ own) named within
  · exact guarded.staging_not_leads member aim within

/-- A free place for a clone does not lead to a clone, or into one. -/
theorem vacant_apart {place mirror : Place} (aim : place ∈ w.places)
    (vacant : w.files.at? place = none) (named : Files.isCloneName mirror.name = true)
    (stands : w.files.at? mirror ≠ none) (below : Place) : ¬place <+: mirror ++ below := by
  intro leads
  -- what leads to something stands, so the place is not above the clone, nor is it the clone
  obtain within | within := List.prefix_or_prefix_of_prefix leads (List.prefix_append mirror below)
  · exact guarded.tree.stands_above stands within vacant
  · obtain ⟨front, name, split, _⟩ := concat_of_mem_places aim
    rw [split] at within
    obtain same | within := List.prefix_concat_iff.mp within
    · rw [same, ← split] at stands
      exact stands vacant
    · apply not_leads_of_named (guarded.plain _ aim) named
      rwa [split, List.dropLast_concat]

theorem mem_attempts_of_git {index : Nat} {task : GitTask} (working : (index, task) ∈ w.gits) :
    ∃ attempt, task = .clone attempt ∧ (index, attempt) ∈ w.attempts := by
  have lends := guarded.lent index task working
  cases task with
  | clone attempt => exact ⟨attempt, rfl, lends⟩
  | fetch endpoint place => exact absurd working (guarded.clones index endpoint place)

/-- A clone is put into its place only where nothing stands. -/
theorem vacant {index : Nat} {errand : Errand} {attempt : CloneAttempt} {placed : Files}
    (here : w.calls[index]? = some errand) (placing : errand.op.phase = .placing attempt)
    (renames : w.files.rename attempt.staging attempt.place = .ok placed) :
    placed = w.files.relocate attempt.staging attempt.place ∧
      (index, attempt) ∈ w.attempts ∧ w.files.at? attempt.place = none ∧
      ∃ done ∈ w.finished, done.attempt = attempt ∧ w.files.isOccupied attempt.staging = true ∧
        ∀ below, w.files.at? (attempt.staging ++ below) = done.content below := by
  obtain ⟨same, stands, _, free⟩ := Files.rename_eq_ok renames
  have member := guarded.mem_attempts_of_placing here placing
  obtain gone | packed := (guarded.packed index errand attempt here placing).2
  · exact absurd gone stands
  have occupied := packed.choose_spec.2.2.1
  refine ⟨same, member, ?_, packed⟩
  obtain vacant | ⟨_, empty⟩ := free (guarded.tree.directory_of_isOccupied occupied)
  · exact vacant
  · obtain vacant | full := guarded.settled _ member
    · exact vacant
    · cases full.symm.trans empty

/-- **Clones stay as they are.** -/
theorem at?_of_change {files : Files} (change : w.Change files) {mirror : Place}
    (named : Files.isCloneName mirror.name = true)
    (stands : w.files.at? mirror = some .directory) (outside : w.IsOutside mirror)
    (below : Place) : files.at? (mirror ++ below) = w.files.at? (mirror ++ below) := by
  have inside : mirror <+: mirror ++ below := List.prefix_append _ _
  cases change with
  | same => rfl
  | @paves index errand endpoint place part _ here preparing leads makes =>
      have aim := guarded.mem_places_of_preparing here preparing
      apply Files.at?_makeDirectories_elsewhere makes
      intro within
      exact not_leads_of_named (guarded.plain _ aim) named (inside.trans (within.trans leads))
  | @makes index task part entry working =>
      obtain ⟨attempt, rfl, member⟩ := guarded.mem_attempts_of_git working
      rw [Files.at?_put, if_neg]
      intro same
      exact guarded.mirror_apart member named outside below (same ▸ List.prefix_append _ part)
  | @erases index task part working =>
      obtain ⟨attempt, rfl, member⟩ := guarded.mem_attempts_of_git working
      apply Files.at?_without_elsewhere
      intro leads
      exact guarded.mirror_apart member named outside below
        ((List.prefix_append _ part).trans leads)
  | @clears index errand attempt failure part here clearing =>
      have member := guarded.mem_attempts_of_clearing here clearing
      apply Files.at?_without_elsewhere
      intro leads
      exact guarded.mirror_apart member named outside below
        ((List.prefix_append _ part).trans leads)
  | @places index errand attempt _ here placing renames =>
      obtain ⟨rfl, member, vacant, _⟩ := guarded.vacant here placing renames
      obtain ⟨aim, _⟩ := guarded.staged _ _ member
      have present : w.files.at? mirror ≠ none := stands ▸ Option.some_ne_none _
      exact guarded.tree.distinct.at?_relocate_elsewhere
        (guarded.vacant_apart aim vacant named present below)
        (guarded.mirror_apart member named outside below)

/-- **Clones come by a renaming.** -/
theorem placing_of_change {files : Files} (change : w.Change files) {mirror : Place}
    (isClone : Files.isClonePlace mirror = true) (outside : w.IsOutside mirror)
    (stands : files.at? mirror ≠ none) (new : files.at? mirror ≠ w.files.at? mirror) :
    ∃ done ∈ w.finished, done.attempt.place = mirror ∧
      (∀ below, files.at? (mirror ++ below) = done.content below) ∧
      files.isOccupied mirror = true := by
  have named := isCloneName_of_isClonePlace isClone
  have after := guarded.tree_of_change change
  cases change with
  | same => exact absurd rfl new
  | @paves index errand endpoint place part _ here preparing leads makes =>
      exfalso
      apply new
      have aim := guarded.mem_places_of_preparing here preparing
      apply Files.at?_makeDirectories_elsewhere makes
      exact fun within => not_leads_of_named (guarded.plain _ aim) named (within.trans leads)
  | @makes index task part entry working =>
      exfalso
      apply new
      obtain ⟨attempt, rfl, member⟩ := guarded.mem_attempts_of_git working
      rw [Files.at?_put, if_neg]
      intro same
      exact outside _ member (same ▸ List.prefix_append _ part)
  | erases _ | clears _ _ => exact absurd (Files.at?_without_of_stands stands) new
  | @places index errand attempt _ here placing renames =>
      obtain ⟨rfl, member, vacant, done, found, same, occupied, content⟩ :=
        guarded.vacant here placing renames
      obtain ⟨aim, _⟩ := guarded.staged _ _ member
      by_cases leads : attempt.place <+: mirror
      · have here := Files.eq_of_isClonePlace (guarded.plain _ aim) isClone leads
        have carried (below : Place) :
            (w.files.relocate attempt.staging attempt.place).at? (mirror ++ below) =
              w.files.at? (attempt.staging ++ below) := by
          rw [← here]
          exact guarded.tree.distinct.at?_relocate_append (guarded.place_apart member below)
        refine ⟨done, found, by rw [same, here], ?_, ?_⟩
        · intro below
          rw [carried, content]
        · rwa [Files.isOccupied_congr after.distinct guarded.tree.distinct carried]
      · exact absurd (guarded.tree.distinct.at?_relocate_elsewhere leads (outside _ member)) new

/-- A place for a clone stays settled. -/
theorem isSettled_of_change {files : Files} (change : w.Change files) {place : Place}
    (aim : place ∈ w.places) (settled : w.files.IsSettled place) : files.IsSettled place := by
  have isClone := guarded.plain place aim
  have outside : w.IsOutside place := fun _ member => guarded.staging_not_leads member aim
  have tree := guarded.tree_of_change change
  obtain vacant | occupied := settled
  · by_cases stands : files.at? place = none
    · exact .inl stands
    · have new : files.at? place ≠ w.files.at? place := by rwa [vacant]
      obtain ⟨_, _, _, _, full⟩ := guarded.placing_of_change change isClone outside stands new
      exact .inr full
  · right
    have stands := guarded.tree.directory_of_isOccupied occupied
    rwa [Files.isOccupied_congr tree.distinct guarded.tree.distinct
      (guarded.at?_of_change change (isCloneName_of_isClonePlace isClone) stands outside)]

/-- What git has made for an attempt stays in the staging directory as long as that is neither given
away nor removed. -/
theorem staging_of_change {files : Files} (change : w.Change files) {index : Nat}
    {attempt : CloneAttempt} (member : (index, attempt) ∈ w.attempts)
    (quiet : (index, .clone attempt) ∉ w.gits)
    (kept : ∀ (errand : Errand) failure, w.calls[index]? = some errand →
      errand.op.phase ≠ .clearing attempt failure) :
    files.at? attempt.staging = none ∨
      ∀ below, files.at? (attempt.staging ++ below) = w.files.at? (attempt.staging ++ below) := by
  have inside (below : Place) : attempt.staging <+: attempt.staging ++ below :=
    List.prefix_append _ _
  cases change with
  | same => exact .inr fun _ => rfl
  | @paves other errand endpoint place part _ here preparing leads makes =>
      have aim := guarded.mem_places_of_preparing here preparing
      right
      intro below
      apply Files.at?_makeDirectories_elsewhere makes
      intro within
      exact guarded.staging_not_leads member aim
        ((inside below).trans (within.trans (leads.trans (List.dropLast_prefix _))))
  | @makes other task part entry working =>
      obtain ⟨busy, rfl, busyMember⟩ := guarded.mem_attempts_of_git working
      right
      intro below
      rw [Files.at?_put, if_neg]
      intro same
      apply guarded.staging_apart member busyMember _ part (same ▸ inside below)
      rintro ⟨⟩
      exact quiet working
  | @erases other task part working =>
      obtain ⟨busy, rfl, busyMember⟩ := guarded.mem_attempts_of_git working
      right
      intro below
      apply Files.at?_without_elsewhere
      intro leads
      apply guarded.staging_apart busyMember member _ below
        ((List.prefix_append _ part).trans leads)
      rintro ⟨⟩
      exact quiet working
  | @clears other errand busy failure part here clearing =>
      have busyMember := guarded.mem_attempts_of_clearing here clearing
      right
      intro below
      apply Files.at?_without_elsewhere
      intro leads
      apply guarded.staging_apart busyMember member _ below
        ((List.prefix_append _ part).trans leads)
      rintro ⟨⟩
      exact kept errand failure here clearing
  | @places other errand busy _ here placing renames =>
      obtain ⟨rfl, busyMember, _⟩ := guarded.vacant here placing renames
      obtain ⟨aim, _⟩ := guarded.staged _ _ busyMember
      have distinct := guarded.tree.distinct
      by_cases own : (other, busy) = (index, attempt)
      · cases own
        left
        exact distinct.at?_relocate_of_carried (guarded.place_not_leads member) List.prefix_rfl
      · right
        intro below
        exact distinct.at?_relocate_elsewhere (guarded.aim_apart member aim below)
          (guarded.staging_apart busyMember member own below)

theorem isPacked_of_change (change : w.Change after.files) {index : Nat} {errand : Errand}
    {attempt : CloneAttempt} (here : w.calls[index]? = some errand)
    (placing : errand.op.phase = .placing attempt) (older : w.finished ⊆ after.finished) :
    after.IsPacked attempt := by
  have member := guarded.mem_attempts_of_placing here placing
  obtain ⟨quiet, packed⟩ := guarded.packed index errand attempt here placing
  have kept (other : Errand) (failure : LibraryError) (found : w.calls[index]? = some other) :
      other.op.phase ≠ .clearing attempt failure := by
    cases here.symm.trans found
    rw [placing]
    nofun
  obtain gone | same := guarded.staging_of_change change member quiet kept
  · exact .inl gone
  have tree := guarded.tree_of_change change
  obtain gone | ⟨done, found, own, occupied, content⟩ := packed
  · left
    have here := same []
    rw [List.append_nil] at here
    exact here.trans gone
  · refine .inr ⟨done, older found, own, ?_, ?_⟩
    · rwa [Files.isOccupied_congr tree.distinct guarded.tree.distinct same]
    · intro below
      rw [← content below]
      exact same below

end Guarded

/-- The place of a clone that a download asks for. -/
theorem isClonePlace_of_isDownload {kind : JobKind} {endpoints : List String}
    (download : (WorkshopMove.call kind endpoints).IsDownload) {place : Place}
    (aim : place ∈ (Errand.start kind endpoints).op.places) :
    Files.isClonePlace place = true := by
  obtain ⟨endpoint, member, named⟩ := Operation.mem_places.mp aim
  have found := named
  unfold clonePath? at found
  split at found
  next segments split =>
    have known : idOf endpoint ≠ none := idOf_eq split ▸ Option.some_ne_none _
    have plain := download.2 endpoint member known
    cases named.symm.trans plain.clonePath?_eq
    exact plain.isClonePlace
  next => cases found

/-- A download takes up a finished clone when git is no longer at work on it. -/
theorem packed_of_step {index : Nat} {op next : Operation} {surroundings : Surroundings}
    {noted : Workshop} (stepped : op.step config surroundings w.files = some (next, after.files))
    (kept : w.account lingers index surroundings op next = some noted)
    (gits : after.gits = noted.gits) (finished : after.finished = noted.finished)
    {attempt : CloneAttempt} (placing : next.phase = .placing attempt) :
    (index, .clone attempt) ∉ after.gits ∧ after.IsPacked attempt := by
  obtain ⟨running, reports, same⟩ := (Operation.turn_of_step stepped).of_placing placing
  constructor
  · obtain ⟨rest, _⟩ | ⟨task, phase, _⟩ := account_gits kept
    · have busy : op.running? = some (.clone attempt) := by rw [Operation.running?, running]
      rw [gits, rest, gitsAfter, busy]
      dsimp only
      rw [reports, Bool.not_true, Bool.and_false, if_neg Bool.false_ne_true]
      intro member
      exact of_decide_eq_true (List.mem_filter.mp member).2 rfl
    · cases placing.symm.trans phase
  · obtain ⟨_, never⟩ | ⟨_, phase, occupied, list⟩ := account_finished kept
    · exact absurd placing (never attempt)
    · cases placing.symm.trans phase
      right
      rw [finished, list, same]
      exact ⟨_, List.mem_cons_self, rfl, occupied, fun _ => rfl⟩

/-- **Every move keeps a workshop guarded.** -/
theorem Guarded.act (guarded : w.Guarded) (leave : config.updateOnDownload = false)
    (download : move.IsDownload) (acted : act config lingers move w = some after) :
    after.Guarded := by
  have change := change_of_act acted
  have continues := continues_of_act acted
  have comes {index : Nat} {errand : Errand} (found : after.calls[index]? = some errand) :=
    comes_of_act acted found
  refine { guarded.toSound.act acted with
    plain := ?_, downloads := ?_, cloning := ?_, clones := ?_, ready := ?_, settled := ?_,
    packed := ?_ }
  · intro place aim
    obtain ⟨index, errand, found, named⟩ := mem_places.mp aim
    cases comes found with
    | stays here | drops here =>
        exact guarded.plain place (mem_places.mpr ⟨index, _, here, named⟩)
    | begins asked =>
        subst asked
        exact isClonePlace_of_isDownload download named
    | steps here _ stepped =>
        rw [Operation.places, (Operation.step_keeps stepped).2.1] at named
        exact guarded.plain place (mem_places.mpr ⟨index, _, here, named⟩)
  · intro index errand found
    cases comes found with
    | stays here | drops here =>
        have kind := guarded.downloads index _ here
        exact kind
    | begins asked =>
        subst asked
        exact download.1
    | steps here _ stepped =>
        exact (Operation.step_keeps stepped).1.trans (guarded.downloads index _ here)
  · intro index errand endpoint place found fetching
    cases comes found with
    | stays here | drops here => exact guarded.cloning index _ endpoint place here fetching
    | begins => cases fetching
    | steps here _ stepped =>
        obtain before | ⟨_, _, updates | refreshes⟩ :=
          (Operation.turn_of_step stepped).of_fetch fetching
        · exact guarded.cloning index _ endpoint place here before
        · cases (guarded.downloads index _ here).symm.trans updates
        · cases leave.symm.trans refreshes
  · intro index endpoint place member
    obtain before | ⟨⟨errand, here, launching⟩, _⟩ := continues.gits _ member
    · exact guarded.clones index endpoint place before
    · exact guarded.cloning index errand endpoint place here
        (by rw [Operation.task?, launching])
  · intro index errand endpoint place found preparing
    cases comes found with
    | stays here | drops here =>
        exact guarded.isSettled_of_change change (guarded.mem_places_of_preparing here preparing)
          (guarded.ready index _ endpoint place here preparing)
    | begins => cases preparing
    | steps here _ stepped =>
        obtain ⟨_, _, absent, same⟩ := (Operation.turn_of_step stepped).of_preparing preparing
        left
        rw [same]
        exact guarded.tree.at?_of_contains? absent
  · intro entry member
    obtain before | ⟨_, _, errand, here, preparing⟩ := continues.attempts entry member
    · have aim := (guarded.staged entry.1 entry.2 before).1
      exact guarded.isSettled_of_change change aim (guarded.settled entry before)
    · exact guarded.isSettled_of_change change (guarded.mem_places_of_preparing here preparing)
        (guarded.ready _ _ _ _ here preparing)
  · intro index errand attempt found placing
    cases comes found with
    | stays here | drops here =>
        constructor
        · intro member
          obtain before | ⟨⟨_, there, launching⟩, _⟩ := continues.gits _ member
          · exact (guarded.packed index _ attempt here placing).1 before
          · cases here.symm.trans there
            cases placing.symm.trans launching
        · exact guarded.isPacked_of_change change here placing continues.finished
    | begins => cases placing
    | steps here _ stepped kept gits finished =>
        exact packed_of_step stepped kept gits finished placing

/-! ## Runs -/

/-- Every clone that was not there at the beginning is one that git has finished. -/
structure Born (initial : Files) (w : Workshop) : Prop extends Guarded w where
  born : ∀ mirror, Files.isClonePlace mirror = true → w.IsOutside mirror →
    initial.at? mirror ≠ some .directory → w.files.at? mirror = some .directory →
    ∃ done ∈ w.finished, done.attempt.place = mirror ∧
      ∀ below, w.files.at? (mirror ++ below) = done.content below

theorem Born.act {initial : Files} (held : w.Born initial)
    (leave : config.updateOnDownload = false) (download : move.IsDownload)
    (acted : act config lingers move w = some after) : after.Born initial := by
  have change := change_of_act acted
  have continues := continues_of_act acted
  refine { held.toGuarded.act leave download acted with born := ?_ }
  intro mirror isClone outside new stands
  have outsideBefore : w.IsOutside mirror :=
    fun entry member => outside entry (continues.older member)
  by_cases stood : w.files.at? mirror = some .directory
  · obtain ⟨done, found, own, content⟩ := held.born mirror isClone outsideBefore new stood
    refine ⟨done, continues.finished found, own, ?_⟩
    intro below
    rw [held.at?_of_change change (isCloneName_of_isClonePlace isClone) stood outsideBefore,
      content]
  · have present : after.files.at? mirror ≠ none := stands ▸ Option.some_ne_none _
    have changed : after.files.at? mirror ≠ w.files.at? mirror :=
      fun same => stood (same.symm.trans stands)
    obtain ⟨done, found, own, content, _⟩ :=
      held.placing_of_change change isClone outsideBefore present changed
    exact ⟨done, continues.finished found, own, content⟩

/-- A clone is as it was, and no attempt is made in it. -/
structure Keeps (earlier : Files) (mirror : Place) (w : Workshop) : Prop extends Guarded w where
  outside : w.IsOutside mirror
  same : ∀ below, w.files.at? (mirror ++ below) = earlier.at? (mirror ++ below)

theorem Keeps.act {earlier : Files} {mirror : Place} (held : w.Keeps earlier mirror)
    (named : Files.isCloneName mirror.name = true)
    (stands : earlier.at? mirror = some .directory) (leave : config.updateOnDownload = false)
    (download : move.IsDownload) (acted : act config lingers move w = some after) :
    after.Keeps earlier mirror := by
  have guarded := held.toGuarded.act leave download acted
  have here := held.same []
  rw [List.append_nil, stands] at here
  refine { guarded with outside := ?_, same := ?_ }
  · intro entry member leads
    obtain before | ⟨new, _⟩ := (continues_of_act acted).attempts entry member
    · exact held.outside entry before leads
    · have inside := leads.subset (guarded.name_mem_staging member)
      exact new.2.1 _ (held.tree.distinct.mem_entries_iff.mpr here) inside
  · intro below
    rw [held.at?_of_change (change_of_act acted) named here held.outside, held.same]

end Workshop

end RepoCollector
