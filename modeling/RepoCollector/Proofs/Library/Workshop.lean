import Mathlib.Data.List.Nodup
import RepoCollector.Proofs.Library.Tree
import RepoCollector.Proofs.Library.Turn
import RepoCollector.Proofs.Play

/-! # Many calls on one library

A workshop is a library on which any number of downloads and updates are under way.  It is played
through moves in any order: a call comes, makes a step or is dropped, git makes or erases something
in the directory that it was given.  What the file system was asked to do for a dropped call may be
done after all, and making directories or removing one may have got no further than a part.

Some things the world around a library never does, and then a move is not possible: the name of a
staging directory is new, and neither an endpoint nor git uses it for anything else; git says that a
clone is done only when it has put something into the new directory.

The workshop keeps account of the attempts to clone, of the git commands that may be at work and of
the clones that git has finished.  Every call works at its own attempts
(`RepoCollector.Workshop.Sound`), and the files change in one of six ways
(`RepoCollector.Workshop.Change`).
-/

namespace RepoCollector

open Endpoint

/-- The own name of what is at a place. -/
def Place.name (place : Place) : List Char := place.getLast?.getD []

theorem Place.name_concat (front : Place) (name : List Char) :
    Place.name (front ++ [name]) = name := by
  rw [Place.name, List.getLast?_concat]
  rfl

theorem Place.staging_eq (place : Place) (tag : String) :
    place.staging tag = place.dropLast ++ [(place.staging tag).name] := by
  unfold Place.staging
  dsimp only
  rw [Place.name_concat]

/-- What the file system may have done so far for an operation: a part of the way to a clone is
made, or a part of a staging directory is gone. -/
def Operation.partly? (part : Place) (op : Operation) (files : Files) : Option Files :=
  match op.phase with
  | .preparing _ place =>
    if part.isWithin place.dropLast then (files.makeDirectories part).toOption else none
  | .clearing attempt _ => some (files.without (attempt.staging ++ part))
  | _ => none

/-- A call on a library. -/
structure Errand where
  op : Operation
  /-- Whether nobody waits for it any more. -/
  dropped : Bool := false

/-- A call that comes. -/
def Errand.start (kind : JobKind) (endpoints : List String) : Errand :=
  { op := .start kind endpoints }

/-- A clone that git has finished. -/
structure FinishedClone where
  attempt : CloneAttempt
  /-- What stood in the staging directory then. -/
  content : Place → Option Entry

/-- A library with calls under way. -/
structure Workshop where
  files : Files := {}
  calls : List Errand := []
  /-- The attempts to clone, each with the number of its call, the last one first. -/
  attempts : List (Nat × CloneAttempt) := []
  /-- The git commands that may be at work, each with the number of its call. -/
  gits : List (Nat × GitTask) := []
  finished : List FinishedClone := []
  /-- The attempts whose staging directories were overlooked because the file system failed. -/
  overlooked : List CloneAttempt := []
  /-- The attempts whose staging directories could not be removed. -/
  stuck : List CloneAttempt := []

/-- What can happen in a workshop. -/
inductive WorkshopMove where
  | call (kind : JobKind) (endpoints : List String)
  | step (index : Nat) (surroundings : Surroundings)
  | drop (index : Nat)
  /-- What the file system was asked to do for a dropped call is done after all. -/
  | late (index : Nat) (surroundings : Surroundings)
  /-- What the file system was asked to do for a call is done in part. -/
  | partly (index : Nat) (part : Place)
  /-- Git makes something below the directory that it was given. -/
  | make (index : Nat) (task : GitTask) (below : Place) (entry : Entry)
  /-- Git erases something below the directory that it was given. -/
  | erase (index : Nat) (task : GitTask) (below : Place)

namespace Workshop

/-- The names of the staging directories. -/
def drawn (w : Workshop) : List (List Char) := w.attempts.map (·.2.staging.name)

/-- The places of the clones that the calls are about. -/
def places (w : Workshop) : List Place := w.calls.flatMap (·.op.places)

/-- A name that occurs nowhere. -/
def IsNew (w : Workshop) (name : List Char) : Prop :=
  name ∉ w.drawn ∧ (∀ entry ∈ w.files.entries, name ∉ entry.1) ∧ ∀ place ∈ w.places, name ∉ place

instance (w : Workshop) (name : List Char) : Decidable (w.IsNew name) :=
  inferInstanceAs (Decidable (_ ∧ _ ∧ _))

/-- The git commands that may be at work when a call goes on.  One that has ended is not, and one
that was told to end is not unless such commands linger. -/
def gitsAfter (lingers : Bool) (index : Nat) (surroundings : Surroundings) (op : Operation)
    (w : Workshop) : List (Nat × GitTask) :=
  match op.running? with
  | some task =>
    if lingers && !surroundings.reports then w.gits else w.gits.filter (· ≠ (index, task))
  | none => w.gits

/-- The account when a call goes on. -/
def account (lingers : Bool) (index : Nat) (surroundings : Surroundings) (op next : Operation)
    (w : Workshop) : Option Workshop :=
  let gits := w.gitsAfter lingers index surroundings op
  match next.phase with
  | .launching (.clone attempt) =>
    if w.IsNew attempt.staging.name then
      some { w with gits, attempts := (index, attempt) :: w.attempts }
    else none
  | .running task => some { w with gits := (index, task) :: gits }
  | .placing attempt =>
    if w.files.isOccupied attempt.staging then
      let content := fun below => w.files.at? (attempt.staging ++ below)
      some { w with gits, finished := { attempt, content } :: w.finished }
    else none
  | _ => some { w with gits }

def overlookedAfter (surroundings : Surroundings) (op : Operation) (w : Workshop) :
    List CloneAttempt :=
  match op.phase, surroundings.fault with
  | .inspecting attempt _, some _ => attempt :: w.overlooked
  | _, _ => w.overlooked

def stuckAfter (surroundings : Surroundings) (op : Operation) (w : Workshop) : List CloneAttempt :=
  match op.phase, surroundings.fault with
  | .clearing attempt _, some _ => attempt :: w.stuck
  | _, _ => w.stuck

/-- A call goes on. -/
def step (config : LibraryConfig) (lingers : Bool) (index : Nat) (surroundings : Surroundings)
    (w : Workshop) : Option Workshop :=
  match w.calls[index]? with
  | none => none
  | some errand =>
    if errand.dropped then none
    else
      match errand.op.step config surroundings w.files with
      | none => none
      | some (next, files) =>
        (w.account lingers index surroundings errand.op next).map fun noted =>
          { noted with
            files
            calls := w.calls.set index { errand with op := next }
            overlooked := w.overlookedAfter surroundings errand.op
            stuck := w.stuckAfter surroundings errand.op }

/-- Nobody waits for a call any more. -/
def drop (lingers : Bool) (index : Nat) (w : Workshop) : Option Workshop :=
  match w.calls[index]? with
  | none => none
  | some errand =>
    let gits := if lingers then w.gits else w.gits.filter (·.1 ≠ index)
    some { w with gits, calls := w.calls.set index { errand with dropped := true } }

/-- The files when what was asked for a dropped call is done. -/
def late (config : LibraryConfig) (index : Nat) (surroundings : Surroundings) (w : Workshop) :
    Option Files :=
  match w.calls[index]? with
  | none => none
  | some errand =>
    if errand.dropped then (errand.op.step config surroundings w.files).map (·.2) else none

/-- One move. -/
def act (config : LibraryConfig) (lingers : Bool) (move : WorkshopMove) (w : Workshop) :
    Option Workshop :=
  match move with
  | .call kind endpoints =>
    let errand := Errand.start kind endpoints
    if ∀ name ∈ w.drawn, ∀ place ∈ errand.op.places, name ∉ place then
      some { w with calls := w.calls ++ [errand] }
    else none
  | .step index surroundings => w.step config lingers index surroundings
  | .drop index => w.drop lingers index
  | .late index surroundings =>
    (w.late config index surroundings).map fun files => { w with files }
  | .partly index part =>
    (w.calls[index]?.bind fun errand => errand.op.partly? part w.files).map fun files =>
      { w with files }
  | .make index task below entry =>
    let place := task.directory ++ below
    if (index, task) ∈ w.gits ∧ w.files.obstacle? place = none ∧
        w.files.at? place ≠ some .directory ∧ (below = [] → entry = .directory) ∧
        ∀ name ∈ w.drawn, name ∉ below then
      some { w with files := w.files.put place entry }
    else none
  | .erase index task below =>
    if (index, task) ∈ w.gits then
      some { w with files := w.files.without (task.directory ++ below) }
    else none

variable {config : LibraryConfig} {lingers : Bool} {w after : Workshop} {move : WorkshopMove}

/-! ## The files -/

/-- **What a move may do to the files.** -/
inductive Change (w : Workshop) : Files → Prop where
  | same : Change w w.files
  /-- A part of the way to a clone is made. -/
  | paves {index : Nat} {errand : Errand} {endpoint : String} {place part : Place} {made : Files}
      (here : w.calls[index]? = some errand)
      (preparing : errand.op.phase = .preparing endpoint place)
      (leads : part <+: place.dropLast) (makes : w.files.makeDirectories part = .ok made) :
      Change w made
  | makes {index : Nat} {task : GitTask} {below : Place} {entry : Entry}
      (working : (index, task) ∈ w.gits)
      (clear : w.files.obstacle? (task.directory ++ below) = none)
      (free : w.files.at? (task.directory ++ below) ≠ some .directory)
      (own : below = [] → entry = .directory) (plain : ∀ name ∈ w.drawn, name ∉ below) :
      Change w (w.files.put (task.directory ++ below) entry)
  | erases {index : Nat} {task : GitTask} {below : Place} (working : (index, task) ∈ w.gits) :
      Change w (w.files.without (task.directory ++ below))
  /-- A part of a staging directory is removed. -/
  | clears {index : Nat} {errand : Errand} {attempt : CloneAttempt} {failure : LibraryError}
      {part : Place} (here : w.calls[index]? = some errand)
      (clearing : errand.op.phase = .clearing attempt failure) :
      Change w (w.files.without (attempt.staging ++ part))
  /-- A finished clone is put into its place. -/
  | places {index : Nat} {errand : Errand} {attempt : CloneAttempt} {placed : Files}
      (here : w.calls[index]? = some errand) (placing : errand.op.phase = .placing attempt)
      (renames : w.files.rename attempt.staging attempt.place = .ok placed) :
      Change w placed

theorem removeTree_eq_ok {files cleared : Files} {place : Place}
    (removes : files.removeTree place = .ok cleared) : cleared = files.without place := by
  unfold Files.removeTree at removes
  split at removes <;> cases removes
  rfl

theorem change_of_step {index : Nat} {errand : Errand} {surroundings : Surroundings}
    {next : Operation} {files : Files} (here : w.calls[index]? = some errand)
    (stepped : errand.op.step config surroundings w.files = some (next, files)) :
    w.Change files := by
  cases Operation.turn_of_step stepped with
  | draws preparing makes => exact .paves here preparing List.prefix_rfl makes
  | places placing renames => exact .places here placing renames
  | clears clearing removes =>
      have cleared : w.Change (w.files.without (_ ++ [])) := .clears here clearing
      rwa [List.append_nil, ← removeTree_eq_ok removes] at cleared
  | goesOn | prepares | refreshes | starts | succeeds | givesUp | finds | leaves | abandons =>
      exact .same

theorem step_eq_some {index : Nat} {surroundings : Surroundings}
    (stepped : w.step config lingers index surroundings = some after) :
    ∃ errand next files noted, w.calls[index]? = some errand ∧ errand.dropped = false ∧
      errand.op.step config surroundings w.files = some (next, files) ∧
      w.account lingers index surroundings errand.op next = some noted ∧
      after = { noted with
        files
        calls := w.calls.set index { errand with op := next }
        overlooked := w.overlookedAfter surroundings errand.op
        stuck := w.stuckAfter surroundings errand.op } := by
  unfold step at stepped
  split at stepped
  next => cases stepped
  next errand here =>
    split at stepped
    next => cases stepped
    next going =>
      split at stepped
      next => cases stepped
      next next files moved =>
        obtain ⟨noted, kept, rfl⟩ := Option.map_eq_some_iff.mp stepped
        exact ⟨errand, next, files, noted, here, Bool.not_eq_true _ ▸ going, moved, kept, rfl⟩

/-- Every move changes the files in one of these ways. -/
theorem change_of_act (acted : act config lingers move w = some after) : w.Change after.files := by
  cases move with
  | call kind endpoints =>
      dsimp only [act] at acted
      split at acted <;> cases acted
      exact .same
  | step index surroundings =>
      obtain ⟨errand, next, files, noted, here, _, stepped, _, rfl⟩ := step_eq_some acted
      exact change_of_step here stepped
  | drop index =>
      dsimp only [act, drop] at acted
      split at acted <;> cases acted
      exact .same
  | late index surroundings =>
      obtain ⟨files, moved, rfl⟩ := Option.map_eq_some_iff.mp acted
      unfold late at moved
      split at moved
      next => cases moved
      next errand here =>
        split at moved
        next =>
          obtain ⟨⟨next, _⟩, stepped, rfl⟩ := Option.map_eq_some_iff.mp moved
          exact change_of_step here stepped
        next => cases moved
  | partly index part =>
      obtain ⟨files, moved, rfl⟩ := Option.map_eq_some_iff.mp acted
      obtain ⟨errand, here, done⟩ := Option.bind_eq_some_iff.mp moved
      unfold Operation.partly? at done
      split at done
      next endpoint place preparing =>
        split at done
        next leads =>
          have leads := Place.isWithin_iff.mp leads
          cases makes : w.files.makeDirectories part with
          | error fault =>
              rw [makes] at done
              cases done
          | ok made =>
              rw [makes] at done
              cases done
              exact .paves here preparing leads makes
        next => cases done
      next attempt failure clearing =>
        cases done
        exact .clears here clearing
      next => cases done
  | make index task below entry =>
      dsimp only [act] at acted
      split at acted
      next allowed =>
        cases acted
        obtain ⟨working, clear, free, own, plain⟩ := allowed
        exact .makes working clear free own plain
      next => cases acted
  | erase index task below =>
      dsimp only [act] at acted
      split at acted
      next working =>
        cases acted
        exact .erases working
      next => cases acted

/-! ## The account -/

section Account

variable {index : Nat} {surroundings : Surroundings} {op next : Operation} {noted : Workshop}

theorem account_attempts (kept : w.account lingers index surroundings op next = some noted) :
    noted.attempts = w.attempts ∧ (∀ attempt, next.phase ≠ .launching (.clone attempt)) ∨
      ∃ attempt, next.phase = .launching (.clone attempt) ∧ w.IsNew attempt.staging.name ∧
        noted.attempts = (index, attempt) :: w.attempts := by
  unfold account at kept
  dsimp only at kept
  split at kept
  next attempt phase =>
    split at kept
    next new =>
      cases kept
      exact .inr ⟨attempt, phase, new, rfl⟩
    next => cases kept
  next phase =>
    cases kept
    exact .inl ⟨rfl, fun _ => phase ▸ nofun⟩
  next phase =>
    split at kept <;> cases kept
    exact .inl ⟨rfl, fun _ => phase ▸ nofun⟩
  next unlike _ _ =>
    cases kept
    exact .inl ⟨rfl, unlike⟩

theorem account_gits (kept : w.account lingers index surroundings op next = some noted) :
    noted.gits = w.gitsAfter lingers index surroundings op ∧ (∀ task, next.phase ≠ .running task) ∨
      ∃ task, next.phase = .running task ∧
        noted.gits = (index, task) :: w.gitsAfter lingers index surroundings op := by
  unfold account at kept
  dsimp only at kept
  split at kept
  next phase =>
    split at kept <;> cases kept
    exact .inl ⟨rfl, fun _ => phase ▸ nofun⟩
  next task phase =>
    cases kept
    exact .inr ⟨task, phase, rfl⟩
  next phase =>
    split at kept <;> cases kept
    exact .inl ⟨rfl, fun _ => phase ▸ nofun⟩
  next _ unlike _ =>
    cases kept
    exact .inl ⟨rfl, unlike⟩

theorem account_finished (kept : w.account lingers index surroundings op next = some noted) :
    noted.finished = w.finished ∧ (∀ attempt, next.phase ≠ .placing attempt) ∨
      ∃ attempt, next.phase = .placing attempt ∧ w.files.isOccupied attempt.staging = true ∧
        noted.finished =
          { attempt, content := fun below => w.files.at? (attempt.staging ++ below) } ::
            w.finished := by
  unfold account at kept
  dsimp only at kept
  split at kept
  next phase =>
    split at kept <;> cases kept
    exact .inl ⟨rfl, fun _ => phase ▸ nofun⟩
  next phase =>
    cases kept
    exact .inl ⟨rfl, fun _ => phase ▸ nofun⟩
  next attempt phase =>
    split at kept
    next occupied =>
      cases kept
      exact .inr ⟨attempt, phase, occupied, rfl⟩
    next => cases kept
  next _ _ unlike =>
    cases kept
    exact .inl ⟨rfl, unlike⟩

theorem gitsAfter_subset (lingers : Bool) (index : Nat) (surroundings : Surroundings)
    (op : Operation) (w : Workshop) : w.gitsAfter lingers index surroundings op ⊆ w.gits := by
  unfold gitsAfter
  split
  next =>
    split
    next => exact List.Subset.refl _
    next => exact List.filter_subset_self _
  next => exact List.Subset.refl _

end Account

/-! ## One call among the others -/

theorem getElem?_set_eq_some {calls : List Errand} {index other : Nat} {changed errand : Errand}
    (found : (calls.set index changed)[other]? = some errand) :
    other = index ∧ errand = changed ∨ other ≠ index ∧ calls[other]? = some errand := by
  rw [List.getElem?_set] at found
  split at found
  next same =>
    split at found <;> cases found
    exact .inl ⟨same.symm, rfl⟩
  next differs => exact .inr ⟨fun same => differs same.symm, found⟩

theorem mem_places {place : Place} :
    place ∈ w.places ↔
      ∃ (index : Nat) (errand : Errand), w.calls[index]? = some errand ∧
        place ∈ errand.op.places := by
  rw [places, List.mem_flatMap]
  constructor
  · rintro ⟨errand, member, named⟩
    obtain ⟨index, here⟩ := List.mem_iff_getElem?.mp member
    exact ⟨index, errand, here, named⟩
  · rintro ⟨index, errand, here, named⟩
    exact ⟨errand, List.mem_of_getElem? here, named⟩

/-- The places depend only on the endpoints of the calls. -/
theorem flatMap_places_set {calls : List Errand} {index : Nat} {errand changed : Errand}
    (here : calls[index]? = some errand) (same : changed.op.endpoints = errand.op.endpoints) :
    (calls.set index changed).flatMap (·.op.places) = calls.flatMap (·.op.places) := by
  have placed : changed.op.places = errand.op.places := by
    rw [Operation.places, Operation.places, same]
  rw [List.flatMap_def, List.flatMap_def, List.map_set]
  congr 1
  apply List.ext_getElem?
  intro other
  rw [List.getElem?_set]
  split
  next found =>
    subst found
    rw [List.getElem?_map, here, List.length_map,
      if_pos (List.getElem?_eq_some_iff.mp here).1, placed, Option.map_some]
  next => rfl

/-! ## Sound workshops -/

/-- What git may be at work on for a call. -/
def Lends (w : Workshop) (index : Nat) : GitTask → Prop
  | .clone attempt => (index, attempt) ∈ w.attempts
  | .fetch _ place => place ∈ w.places

/-- Every call works at attempts of its own, whose staging directories have names that nothing else
has. -/
structure Sound (w : Workshop) : Prop where
  tree : w.files.IsTree
  nodup : w.drawn.Nodup
  staged : ∀ index attempt, (index, attempt) ∈ w.attempts → attempt.place ∈ w.places ∧
    attempt.staging = attempt.place.dropLast ++ [attempt.staging.name]
  apart : ∀ name ∈ w.drawn, ∀ place ∈ w.places, name ∉ place
  aimed : ∀ (index : Nat) (errand : Errand), w.calls[index]? = some errand → errand.op.IsAimed
  held : ∀ (index : Nat) (errand : Errand) attempt, w.calls[index]? = some errand →
    errand.op.attempt? = some attempt → (index, attempt) ∈ w.attempts
  lent : ∀ index task, (index, task) ∈ w.gits → w.Lends index task

/-- A library with nothing under way. -/
theorem sound_start {files : Files} (tree : files.IsTree) : Sound { files } where
  tree := tree
  nodup := List.nodup_nil
  staged := nofun
  apart := nofun
  aimed := nofun
  held := nofun
  lent := nofun

theorem concat_of_mem_places {place : Place} (member : place ∈ w.places) :
    ∃ front name, place = front ++ [name] ∧ Files.isCloneName name = true := by
  obtain ⟨_, _, _, named⟩ := mem_places.mp member
  obtain ⟨_, _, found⟩ := Operation.mem_places.mp named
  exact clonePath?_eq_ok found

theorem name_mem_drawn {entry : Nat × CloneAttempt} (member : entry ∈ w.attempts) :
    entry.2.staging.name ∈ w.drawn := List.mem_map.mpr ⟨entry, member, rfl⟩

namespace Sound

variable (sound : w.Sound)

include sound

/-- The name of a staging directory belongs to one attempt only. -/
theorem eq_of_name_mem {entry other : Nat × CloneAttempt} (member : entry ∈ w.attempts)
    (otherMember : other ∈ w.attempts) (inside : entry.2.staging.name ∈ other.2.staging) :
    entry = other := by
  obtain ⟨aim, shape⟩ := sound.staged other.1 other.2 otherMember
  have drawn := name_mem_drawn member
  rw [shape, List.mem_append, List.mem_singleton] at inside
  obtain above | same := inside
  · exact absurd (List.mem_of_mem_dropLast above) (sound.apart _ drawn _ aim)
  · exact List.inj_on_of_nodup_map sound.nodup member otherMember same

theorem name_mem_staging {index : Nat} {attempt : CloneAttempt}
    (member : (index, attempt) ∈ w.attempts) : attempt.staging.name ∈ attempt.staging := by
  obtain ⟨_, shape⟩ := sound.staged index attempt member
  have last : attempt.staging.name ∈ attempt.place.dropLast ++ [attempt.staging.name] :=
    List.mem_append_right _ List.mem_cons_self
  rwa [← shape] at last

/-- A staging directory is on no way to a clone. -/
theorem staging_not_leads {index : Nat} {attempt : CloneAttempt}
    (member : (index, attempt) ∈ w.attempts) {place : Place} (aim : place ∈ w.places) :
    ¬attempt.staging <+: place := by
  intro leads
  have inside := leads.subset (sound.name_mem_staging member)
  exact sound.apart _ (name_mem_drawn member) place aim inside

/-- No staging directory is in another one. -/
theorem staging_apart {entry other : Nat × CloneAttempt} (member : entry ∈ w.attempts)
    (otherMember : other ∈ w.attempts) (differs : entry ≠ other) (below : Place) :
    ¬entry.2.staging <+: other.2.staging ++ below := by
  intro leads
  obtain inside | inside := List.prefix_or_prefix_of_prefix leads (List.prefix_append _ below)
  · have named := inside.subset (sound.name_mem_staging member)
    exact differs (sound.eq_of_name_mem member otherMember named)
  · have named := inside.subset (sound.name_mem_staging otherMember)
    exact differs (sound.eq_of_name_mem otherMember member named).symm

/-- The place of a clone does not lead to the staging directory beside it. -/
theorem place_not_leads {index : Nat} {attempt : CloneAttempt}
    (member : (index, attempt) ∈ w.attempts) : ¬attempt.place <+: attempt.staging := by
  intro leads
  obtain ⟨aim, shape⟩ := sound.staged index attempt member
  obtain ⟨front, name, split, _⟩ := concat_of_mem_places aim
  rw [split, List.dropLast_concat] at shape
  have same : attempt.place = attempt.staging := by
    apply leads.eq_of_length
    rw [split, shape, List.length_append, List.length_append]
    rfl
  exact sound.staging_not_leads member aim (same ▸ List.prefix_rfl)

theorem place_apart {index : Nat} {attempt : CloneAttempt} (member : (index, attempt) ∈ w.attempts)
    (below : Place) : ¬attempt.place <+: attempt.staging ++ below := by
  intro leads
  obtain inside | inside := List.prefix_or_prefix_of_prefix leads (List.prefix_append _ below)
  · exact sound.place_not_leads member inside
  · exact sound.staging_not_leads member (sound.staged _ _ member).1 inside

theorem mem_places_of_preparing {index : Nat} {errand : Errand} {endpoint : String} {place : Place}
    (here : w.calls[index]? = some errand)
    (preparing : errand.op.phase = .preparing endpoint place) :
    place ∈ w.places :=
  mem_places.mpr ⟨index, errand, here, (sound.aimed _ _ here).preparing _ _ preparing⟩

theorem mem_attempts_of_placing {index : Nat} {errand : Errand} {attempt : CloneAttempt}
    (here : w.calls[index]? = some errand) (placing : errand.op.phase = .placing attempt) :
    (index, attempt) ∈ w.attempts :=
  sound.held _ _ _ here (by rw [Operation.attempt?, placing])

theorem mem_attempts_of_clearing {index : Nat} {errand : Errand} {attempt : CloneAttempt}
    {failure : LibraryError} (here : w.calls[index]? = some errand)
    (clearing : errand.op.phase = .clearing attempt failure) : (index, attempt) ∈ w.attempts :=
  sound.held _ _ _ here (by rw [Operation.attempt?, clearing])

theorem tree_of_change {files : Files} (change : w.Change files) : files.IsTree := by
  cases change with
  | same => exact sound.tree
  | paves _ _ _ makes => exact sound.tree.makeDirectories makes
  | makes _ clear free _ _ => exact sound.tree.put clear free _
  | erases _ => exact sound.tree.without _
  | clears _ _ => exact sound.tree.without _
  | places here placing renames =>
      obtain ⟨rfl, _, clear, _⟩ := Files.rename_eq_ok renames
      have member := sound.mem_attempts_of_placing here placing
      have aim := (sound.staged _ _ member).1
      exact sound.tree.relocate clear (sound.staging_not_leads member aim)
        (sound.place_not_leads member)

end Sound

/-- What one call does keeps a workshop sound. -/
theorem Sound.set (sound : w.Sound) {index : Nat} {errand changed : Errand}
    (here : w.calls[index]? = some errand) (calls : after.calls = w.calls.set index changed)
    (tree : after.files.IsTree) (endpoints : changed.op.endpoints = errand.op.endpoints)
    (aimed : changed.op.IsAimed) (tried : after.attempts = w.attempts ∨
      ∃ attempt, w.IsNew attempt.staging.name ∧ after.attempts = (index, attempt) :: w.attempts ∧
        attempt.place ∈ w.places ∧
        attempt.staging = attempt.place.dropLast ++ [attempt.staging.name])
    (held : ∀ attempt, changed.op.attempt? = some attempt → (index, attempt) ∈ after.attempts)
    (lent : ∀ entry ∈ after.gits, entry ∈ w.gits ∨
      entry.1 = index ∧ errand.op.task? = some entry.2) :
    after.Sound := by
  have places : after.places = w.places := by
    rw [Workshop.places, calls]
    exact flatMap_places_set here endpoints
  have older : w.attempts ⊆ after.attempts := by
    obtain same | ⟨attempt, _, same, _⟩ := tried
    · exact same ▸ List.Subset.refl _
    · exact same ▸ List.subset_cons_self _ _
  have found {other : Nat} {standing : Errand} (there : after.calls[other]? = some standing) :
      other = index ∧ standing = changed ∨ w.calls[other]? = some standing := by
    rw [calls] at there
    exact (getElem?_set_eq_some there).imp_right And.right
  refine ⟨tree, ?_, ?_, ?_, ?_, ?_, ?_⟩
  · rw [drawn]
    obtain same | ⟨attempt, new, same, _⟩ := tried
    · rw [same]
      exact sound.nodup
    · rw [same]
      exact List.nodup_cons.mpr ⟨new.1, sound.nodup⟩
  · intro other attempt member
    rw [places]
    obtain same | ⟨_, _, same, aim, shape⟩ := tried
    · exact sound.staged other attempt (same ▸ member)
    · rw [same, List.mem_cons] at member
      obtain own | member := member
      · cases own
        exact ⟨aim, shape⟩
      · exact sound.staged other attempt member
  · intro name member place aim
    rw [places] at aim
    rw [drawn] at member
    obtain same | ⟨attempt, new, same, _⟩ := tried
    · rw [same] at member
      exact sound.apart name member place aim
    · rw [same, List.map_cons, List.mem_cons] at member
      obtain rfl | member := member
      · exact new.2.2 place aim
      · exact sound.apart name member place aim
  · intro other standing there
    obtain ⟨rfl, rfl⟩ | before := found there
    · exact aimed
    · exact sound.aimed other standing before
  · intro other standing attempt there trying
    obtain ⟨rfl, rfl⟩ | before := found there
    · exact held attempt trying
    · exact older (sound.held other standing attempt before trying)
  · intro other task member
    obtain before | ⟨rfl, running⟩ := lent (other, task) member
    · have lends := sound.lent other task before
      cases task with
      | clone attempt => exact older lends
      | fetch endpoint place =>
          rw [Lends, places]
          exact lends
    · cases task with
      | clone attempt =>
          exact older (sound.held _ errand attempt here (Operation.attempt?_of_task? running))
      | fetch endpoint place =>
          rw [Lends, places]
          exact mem_places.mpr ⟨_, errand, here, (sound.aimed _ errand here).fetching _ _ running⟩

/-- A call comes. -/
theorem Sound.receive (sound : w.Sound) {kind : JobKind} {endpoints : List String}
    (apart : ∀ name ∈ w.drawn, ∀ place ∈ (Errand.start kind endpoints).op.places, name ∉ place) :
    Sound { w with calls := w.calls ++ [Errand.start kind endpoints] } := by
  have places : (w.calls ++ [Errand.start kind endpoints]).flatMap (·.op.places) =
      w.places ++ (Errand.start kind endpoints).op.places := by
    rw [List.flatMap_append, List.flatMap_singleton, Workshop.places]
  have found {index : Nat} {errand : Errand}
      (here : (w.calls ++ [Errand.start kind endpoints])[index]? = some errand) :
      w.calls[index]? = some errand ∨ errand = .start kind endpoints := by
    rw [List.getElem?_append] at here
    split at here
    next => exact .inl here
    next =>
      have member := List.mem_of_getElem? here
      exact .inr (List.mem_singleton.mp member)
  refine ⟨sound.tree, sound.nodup, ?_, ?_, ?_, ?_, ?_⟩
  · intro index attempt member
    obtain ⟨aim, shape⟩ := sound.staged index attempt member
    rw [Workshop.places, places]
    exact ⟨List.mem_append_left _ aim, shape⟩
  · intro name member place aim
    rw [Workshop.places, places, List.mem_append] at aim
    obtain aim | aim := aim
    · exact sound.apart name member place aim
    · exact apart name member place aim
  · intro index errand here
    obtain here | rfl := found here
    · exact sound.aimed index errand here
    · exact Operation.isAimed_start kind endpoints
  · intro index errand attempt here trying
    obtain here | rfl := found here
    · exact sound.held index errand attempt here trying
    · cases trying
  · intro index task member
    have lends := sound.lent index task member
    cases task with
    | clone attempt => exact lends
    | fetch endpoint place =>
        change place ∈ (w.calls ++ [Errand.start kind endpoints]).flatMap (·.op.places)
        rw [places]
        exact List.mem_append_left _ lends

/-- Only files change. -/
theorem Sound.of_files (sound : w.Sound) {files : Files} (tree : files.IsTree) :
    Sound { w with files } :=
  { sound with tree }

theorem Sound.step (sound : w.Sound) {index : Nat} {surroundings : Surroundings}
    (stepped : w.step config lingers index surroundings = some after) : after.Sound := by
  obtain ⟨errand, next, files, noted, here, _, moved, kept, rfl⟩ := step_eq_some stepped
  have turn := Operation.turn_of_step moved
  have aimed := sound.aimed index errand here
  have tree := sound.tree_of_change (change_of_step here moved)
  refine sound.set here rfl tree (Operation.step_keeps moved).2.1 (aimed.step moved) ?_ ?_ ?_
  · obtain ⟨same, _⟩ | ⟨attempt, launching, new, same⟩ := account_attempts kept
    · exact .inl same
    · obtain ⟨preparing, shape, _⟩ := turn.of_launching_clone launching
      refine .inr ⟨attempt, new, same, ?_, ?_⟩
      · exact sound.mem_places_of_preparing here preparing
      · rw [shape]
        exact Place.staging_eq _ _
  · intro attempt trying
    obtain before | launching := turn.attempt?_eq_some trying
    · have member := sound.held index errand attempt here before
      obtain ⟨same, _⟩ | ⟨_, _, _, same⟩ := account_attempts kept
      · exact same ▸ member
      · exact same ▸ List.mem_cons_of_mem _ member
    · obtain ⟨_, never⟩ | ⟨_, phase, _, same⟩ := account_attempts kept
      · exact absurd launching (never attempt)
      · cases launching.symm.trans phase
        exact same ▸ List.mem_cons_self
  · intro entry member
    have older := gitsAfter_subset lingers index surroundings errand.op w
    obtain ⟨same, _⟩ | ⟨task, running, same⟩ := account_gits kept
    · exact .inl (older (same ▸ member))
    · rw [same, List.mem_cons] at member
      obtain rfl | member := member
      · right
        exact ⟨rfl, by rw [Operation.task?, turn.of_running running]⟩
      · exact .inl (older member)

theorem Sound.drop (sound : w.Sound) {index : Nat} (dropped : w.drop lingers index = some after) :
    after.Sound := by
  unfold Workshop.drop at dropped
  split at dropped
  next => cases dropped
  next errand here =>
    cases dropped
    refine sound.set here rfl sound.tree rfl (sound.aimed index errand here) (.inl rfl) ?_ ?_
    · intro attempt trying
      exact sound.held index errand attempt here trying
    · intro entry member
      split at member
      next => exact .inl member
      next => exact .inl (List.mem_filter.mp member).1

/-- **Every move keeps a workshop sound.** -/
theorem Sound.act (sound : w.Sound) (acted : act config lingers move w = some after) :
    after.Sound := by
  have tree := sound.tree_of_change (change_of_act acted)
  cases move with
  | call kind endpoints =>
      dsimp only [Workshop.act] at acted
      split at acted
      next apart =>
        cases acted
        exact sound.receive apart
      next => cases acted
  | step index surroundings => exact sound.step acted
  | drop index => exact sound.drop acted
  | late index surroundings =>
      obtain ⟨files, _, rfl⟩ := Option.map_eq_some_iff.mp acted
      exact sound.of_files tree
  | partly index part =>
      obtain ⟨files, _, rfl⟩ := Option.map_eq_some_iff.mp acted
      exact sound.of_files tree
  | make index task below entry =>
      dsimp only [Workshop.act] at acted
      split at acted <;> cases acted
      exact sound.of_files tree
  | erase index task below =>
      dsimp only [Workshop.act] at acted
      split at acted <;> cases acted
      exact sound.of_files tree

/-! ## What a move leaves -/

/-- How a call has come to where it is after a move. -/
inductive Comes (config : LibraryConfig) (lingers : Bool) (move : WorkshopMove)
    (w after : Workshop) (index : Nat) : Errand → Prop where
  | stays {errand : Errand} (here : w.calls[index]? = some errand) :
      Comes config lingers move w after index errand
  | drops {errand : Errand} (here : w.calls[index]? = some errand)
      (ended : lingers = false → ∀ task, (index, task) ∉ after.gits) :
      Comes config lingers move w after index { errand with dropped := true }
  | begins {kind : JobKind} {endpoints : List String} (asked : move = .call kind endpoints)
      (fresh : w.calls[index]? = none) :
      Comes config lingers move w after index (.start kind endpoints)
  | steps {errand : Errand} {surroundings : Surroundings} {next : Operation} {noted : Workshop}
      (here : w.calls[index]? = some errand) (going : errand.dropped = false)
      (stepped : errand.op.step config surroundings w.files = some (next, after.files))
      (kept : w.account lingers index surroundings errand.op next = some noted)
      (gits : after.gits = noted.gits) (finished : after.finished = noted.finished)
      (overlooked : after.overlooked = w.overlookedAfter surroundings errand.op)
      (stuck : after.stuck = w.stuckAfter surroundings errand.op) :
      Comes config lingers move w after index { errand with op := next }

theorem comes_of_act (acted : act config lingers move w = some after) {index : Nat}
    {errand : Errand} (found : after.calls[index]? = some errand) :
    Comes config lingers move w after index errand := by
  cases move with
  | call kind endpoints =>
      dsimp only [act] at acted
      split at acted <;> cases acted
      rw [List.getElem?_append] at found
      split at found
      next => exact .stays found
      next beyond =>
        rw [List.mem_singleton.mp (List.mem_of_getElem? found)]
        exact .begins rfl (List.getElem?_eq_none (Nat.le_of_not_lt beyond))
  | step other surroundings =>
      obtain ⟨_, next, files, noted, here, going, stepped, kept, rfl⟩ := step_eq_some acted
      obtain ⟨rfl, rfl⟩ | ⟨_, found⟩ := getElem?_set_eq_some found
      · exact .steps here going stepped kept rfl rfl rfl rfl
      · exact .stays found
  | drop other =>
      dsimp only [act, drop] at acted
      split at acted
      next => cases acted
      next here =>
        cases acted
        obtain ⟨rfl, rfl⟩ | ⟨_, found⟩ := getElem?_set_eq_some found
        · refine .drops here fun ends task member => ?_
          rw [ends, if_neg Bool.false_ne_true] at member
          exact of_decide_eq_true (List.mem_filter.mp member).2 rfl
        · exact .stays found
  | late other surroundings =>
      obtain ⟨files, _, rfl⟩ := Option.map_eq_some_iff.mp acted
      exact .stays found
  | partly other part =>
      obtain ⟨files, _, rfl⟩ := Option.map_eq_some_iff.mp acted
      exact .stays found
  | make other task below entry =>
      dsimp only [act] at acted
      split at acted <;> cases acted
      exact .stays found
  | erase other task below =>
      dsimp only [act] at acted
      split at acted <;> cases acted
      exact .stays found

/-- What a move leaves of the account: a new attempt is made, and git is started, for a call that
was about to do so. -/
structure Continues (w after : Workshop) : Prop where
  attempts : ∀ entry ∈ after.attempts, entry ∈ w.attempts ∨
    w.IsNew entry.2.staging.name ∧
      w.files.makeDirectories entry.2.place.dropLast = .ok after.files ∧
      ∃ errand : Errand, w.calls[entry.1]? = some errand ∧
        errand.op.phase = .preparing entry.2.endpoint entry.2.place
  gits : ∀ entry ∈ after.gits, entry ∈ w.gits ∨
    (∃ errand : Errand, w.calls[entry.1]? = some errand ∧ errand.op.phase = .launching entry.2) ∧
      ∃ errand : Errand, after.calls[entry.1]? = some errand ∧ errand.dropped = false ∧
        errand.op.phase = .running entry.2
  calls : w.calls.length ≤ after.calls.length
  older : w.attempts ⊆ after.attempts
  finished : w.finished ⊆ after.finished
  overlooked : w.overlooked ⊆ after.overlooked
  stuck : w.stuck ⊆ after.stuck

theorem Continues.of_gits {gits : List (Nat × GitTask)} (fewer : gits ⊆ w.gits) (files : Files)
    {calls : List Errand} (longer : w.calls.length ≤ calls.length) :
    w.Continues { w with files, calls, gits } where
  attempts := fun _ member => .inl member
  gits := fun _ member => .inl (fewer member)
  calls := longer
  older := List.Subset.refl _
  finished := List.Subset.refl _
  overlooked := List.Subset.refl _
  stuck := List.Subset.refl _

theorem overlookedAfter_subset (surroundings : Surroundings) (op : Operation) (w : Workshop) :
    w.overlooked ⊆ w.overlookedAfter surroundings op := by
  unfold overlookedAfter
  split
  next => exact List.subset_cons_self _ _
  next => exact List.Subset.refl _

theorem stuckAfter_subset (surroundings : Surroundings) (op : Operation) (w : Workshop) :
    w.stuck ⊆ w.stuckAfter surroundings op := by
  unfold stuckAfter
  split
  next => exact List.subset_cons_self _ _
  next => exact List.Subset.refl _

theorem continues_of_step {index : Nat} {surroundings : Surroundings}
    (stepped : w.step config lingers index surroundings = some after) : w.Continues after := by
  obtain ⟨errand, next, files, noted, here, going, moved, kept, rfl⟩ := step_eq_some stepped
  have turn := Operation.turn_of_step moved
  have within := (List.getElem?_eq_some_iff.mp here).1
  refine ⟨?_, ?_, ?_, ?_, ?_, overlookedAfter_subset _ _ w, stuckAfter_subset _ _ w⟩
  · intro entry member
    obtain ⟨same, _⟩ | ⟨attempt, launching, new, same⟩ := account_attempts kept
    · exact .inl (same ▸ member)
    · rw [same, List.mem_cons] at member
      obtain rfl | member := member
      · obtain ⟨preparing, _, makes⟩ := turn.of_launching_clone launching
        exact .inr ⟨new, makes, errand, here, preparing⟩
      · exact .inl member
  · intro entry member
    have older := gitsAfter_subset lingers index surroundings errand.op w
    obtain ⟨same, _⟩ | ⟨task, running, same⟩ := account_gits kept
    · exact .inl (older (same ▸ member))
    · rw [same, List.mem_cons] at member
      obtain rfl | member := member
      · exact .inr ⟨⟨errand, here, turn.of_running running⟩, { errand with op := next },
          List.getElem?_set_self within, going, running⟩
      · exact .inl (older member)
  · exact (List.length_set ..).ge
  · obtain ⟨same, _⟩ | ⟨_, _, _, same⟩ := account_attempts kept
    · exact same ▸ List.Subset.refl _
    · exact same ▸ List.subset_cons_self _ _
  · obtain ⟨same, _⟩ | ⟨_, _, _, same⟩ := account_finished kept
    · exact same ▸ List.Subset.refl _
    · exact same ▸ List.subset_cons_self _ _

theorem continues_of_act (acted : act config lingers move w = some after) : w.Continues after := by
  have all : w.gits ⊆ w.gits := List.Subset.refl _
  cases move with
  | call kind endpoints =>
      dsimp only [act] at acted
      split at acted <;> cases acted
      exact .of_gits all _ (List.length_append ▸ Nat.le_add_right _ _)
  | step index surroundings => exact continues_of_step acted
  | drop index =>
      dsimp only [act, drop] at acted
      split at acted <;> cases acted
      refine .of_gits ?_ _ (List.length_set ..).ge
      split
      · exact all
      · exact List.filter_subset_self _
  | late index surroundings =>
      obtain ⟨files, _, rfl⟩ := Option.map_eq_some_iff.mp acted
      exact .of_gits all _ le_rfl
  | partly index part =>
      obtain ⟨files, _, rfl⟩ := Option.map_eq_some_iff.mp acted
      exact .of_gits all _ le_rfl
  | make index task below entry =>
      dsimp only [act] at acted
      split at acted <;> cases acted
      exact .of_gits all _ le_rfl
  | erase index task below =>
      dsimp only [act] at acted
      split at acted <;> cases acted
      exact .of_gits all _ le_rfl

/-- Calls do not get lost. -/
theorem Continues.exists_call (continues : w.Continues after) {index : Nat} {errand : Errand}
    (here : w.calls[index]? = some errand) : ∃ next, after.calls[index]? = some next := by
  have within := (List.getElem?_eq_some_iff.mp here).1
  exact ⟨_, List.getElem?_eq_getElem (within.trans_le continues.calls)⟩

theorem exists_call_of_drop {index : Nat}
    (acted : act config lingers (.drop index) w = some after) :
    ∃ errand, after.calls[index]? = some errand := by
  cases here : w.calls[index]? with
  | none =>
      dsimp only [act, drop] at acted
      rw [here] at acted
      cases acted
  | some errand => exact (continues_of_act acted).exists_call here

end Workshop

end RepoCollector
