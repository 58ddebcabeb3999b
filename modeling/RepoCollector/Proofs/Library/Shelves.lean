import RepoCollector.Library.Operation
import RepoCollector.Proofs.Endpoint.Identifiers
import RepoCollector.Proofs.Library.Files

/-! # Clones on their shelves

A library in good order holds a clone for each of some endpoints, at the place of the endpoint, and
nothing else but the directories that lead there (`RepoCollector.Shelved`).  The places of plain
endpoints keep apart: none lies in or on the way to another one, and a staging directory lies in
none of them.  So a clone that is made beside its place and then renamed disturbs no other one
(`RepoCollector.Shelved.add`), nor does what git does inside a clone
(`RepoCollector.Shelved.fetch`).
-/

namespace RepoCollector

open Endpoint

/-! ## Names of clones on a way -/

namespace Files

theorem isClonePlace_iff {place : Place} : isClonePlace place = true ↔
    ∃ front name, place = front ++ [name] ∧ isCloneName name = true ∧
      front.any isCloneName = false := by
  rw [isClonePlace, Bool.and_eq_true, Bool.not_eq_true']
  constructor
  · rintro ⟨named, bare⟩
    obtain rfl | ⟨front, name, rfl⟩ := place.eq_nil_or_concat'
    · cases named
    · rw [List.getLast?_concat] at named
      rw [List.dropLast_concat] at bare
      exact ⟨front, name, rfl, named, bare⟩
  · rintro ⟨front, name, rfl, named, bare⟩
    rw [List.getLast?_concat, List.dropLast_concat]
    exact ⟨named, bare⟩

theorem isClonePlace_of_mem_clones {files : Files} {places : List Place}
    (clones : files.clones = .ok places) {place : Place} (member : place ∈ places) :
    isClonePlace place = true := by
  unfold Files.clones at clones
  split at clones
  next =>
    cases clones
    cases member
  next => cases clones
  next =>
    cases clones
    obtain ⟨_, kept, rfl⟩ := List.mem_map.mp member
    exact (Bool.and_eq_true_iff.mp (List.mem_filter.mp kept).2).2

/-- No clone stands on a way without the name of a clone. -/
theorem not_prefix_of_bare {clone place : Place} (isClone : isClonePlace clone = true)
    (bare : place.any isCloneName = false) : ¬clone <+: place := by
  obtain ⟨front, name, rfl, named, _⟩ := isClonePlace_iff.mp isClone
  intro leads
  have member : name ∈ place := leads.subset (List.mem_append_right _ List.mem_cons_self)
  exact List.any_eq_false.mp bare name member named

/-- No clone stands in another one. -/
theorem eq_of_isClonePlace {clone other : Place} (isClone : isClonePlace clone = true)
    (otherIsClone : isClonePlace other = true) (leads : clone <+: other) : clone = other := by
  obtain ⟨front, name, rfl, _, bare⟩ := isClonePlace_iff.mp otherIsClone
  obtain same | leads := List.prefix_concat_iff.mp leads
  · exact same
  · exact absurd leads (not_prefix_of_bare isClone bare)

theorem Distinct.at?_of_not_isOccupied {files : Files} (distinct : files.Distinct) {place : Place}
    (free : files.isOccupied place = false) {inside : Place} (leads : place <+: inside)
    (differs : inside ≠ place) : files.at? inside = none := by
  rw [Option.eq_none_iff_forall_ne_some]
  intro entry found
  have member := distinct.mem_entries_iff.mpr found
  have apart := List.any_eq_false.mp free _ member
  simp only [Place.isWithin_iff.mpr leads, Bool.true_and, decide_eq_true_eq] at apart
  exact apart differs

end Files

/-- A staging directory does not have the name of a clone: the mark in front of its tag is no part
of the extension, and there is no dot behind it. -/
theorem isCloneName_staging (stem : List Char) {tag : List Char} (plain : '.' ∉ tag) :
    Files.isCloneName (stem ++ ".tmp-".toList ++ tag) = false := by
  have apart : ¬gitSuffix <:+ stem ++ ".tmp-".toList ++ tag := by
    intro ends
    have shape : stem ++ ".tmp-".toList ++ tag = (stem ++ ['.', 't', 'm', 'p']) ++ '-' :: tag := by
      simp
    rw [shape] at ends
    have marked : '-' :: tag <:+ (stem ++ ['.', 't', 'm', 'p']) ++ '-' :: tag :=
      List.suffix_append _ _
    -- the extension ends behind the mark or begins in front of it
    obtain short | long := List.suffix_or_suffix_of_suffix ends marked
    · obtain same | short := List.suffix_cons_iff.mp short
      · cases same
      · exact plain (short.subset List.mem_cons_self)
    · have absent : '-' ∉ gitSuffix := by decide
      exact absent (long.subset List.mem_cons_self)
  rw [Files.isCloneName, Bool.and_eq_false_iff]
  left
  rw [← Bool.not_eq_true, List.isSuffixOf_iff_suffix]
  exact apart

/-! ## Order in the library -/

/-- Whether a clone of an endpoint is at a place shows in the directory there. -/
structure IsLocal (mirrors : Files → Place → String → Prop) : Prop where
  directory : ∀ {files place endpoint}, mirrors files place endpoint →
    files.at? place = some .directory
  copied : ∀ {files others place other endpoint},
    (∀ below, files.at? (place ++ below) = others.at? (other ++ below)) →
      mirrors files place endpoint → mirrors others other endpoint

/-- A library that holds the clones of some endpoints, and nothing else. -/
structure Shelved (mirrors : Files → Place → String → Prop) (made : List String) (files : Files) :
    Prop where
  distinct : files.Distinct
  plain : ∀ endpoint ∈ made, IsPlain endpoint
  mirror : ∀ endpoint ∈ made, mirrors files (placeOf endpoint) endpoint
  way : ∀ endpoint ∈ made, files.obstacle? (placeOf endpoint) = none
  only : ∀ place, files.at? place ≠ none → ∃ endpoint ∈ made,
    placeOf endpoint <+: place ∨ (place <+: placeOf endpoint ∧ files.at? place = some .directory)

namespace Shelved

variable {mirrors : Files → Place → String → Prop} {made : List String} {files : Files}

theorem empty : Shelved mirrors [] {} where
  distinct := List.nodup_nil
  plain := fun _ member => absurd member List.not_mem_nil
  mirror := fun _ member => absurd member List.not_mem_nil
  way := fun _ member => absurd member List.not_mem_nil
  only := fun _ found => absurd rfl found

/-- Nothing but directories stands on a way without the name of a clone. -/
theorem at?_of_bare (shelved : Shelved mirrors made files) {place : Place}
    (bare : place.any Files.isCloneName = false) :
    files.at? place = none ∨ files.at? place = some .directory := by
  by_cases absent : files.at? place = none
  · exact .inl absent
  · right
    obtain ⟨endpoint, member, within | above⟩ := shelved.only place absent
    · have isClone := (shelved.plain endpoint member).isClonePlace
      exact absurd within (Files.not_prefix_of_bare isClone bare)
    · exact above.2

/-- What stands at the place of a clone is the clone of an endpoint. -/
theorem exists_of_at? (shelved : Shelved mirrors made files) {place : Place}
    (isClone : Files.isClonePlace place = true) (found : files.at? place ≠ none) :
    ∃ endpoint ∈ made, placeOf endpoint = place := by
  obtain ⟨endpoint, member, within | above⟩ := shelved.only place found
  · have standing := (shelved.plain endpoint member).isClonePlace
    exact ⟨endpoint, member, Files.eq_of_isClonePlace standing isClone within⟩
  · have standing := (shelved.plain endpoint member).isClonePlace
    exact ⟨endpoint, member, (Files.eq_of_isClonePlace isClone standing above.1).symm⟩

theorem vacant (shelved : Shelved mirrors made files) {endpoint : String} (plain : IsPlain endpoint)
    (new : ∀ other ∈ made, placeOf other ≠ placeOf endpoint) :
    files.at? (placeOf endpoint) = none := by
  by_contra found
  obtain ⟨other, member, same⟩ := shelved.exists_of_at? plain.isClonePlace found
  exact new other member same

/-- What happens inside one clone does not disturb the library. -/
theorem fetch (shelved : Shelved mirrors made files) (localTo : IsLocal mirrors)
    {endpoint : String} (member : endpoint ∈ made) {after : Files} (distinct : after.Distinct)
    (kept : ∀ origin, mirrors files (placeOf endpoint) origin →
      mirrors after (placeOf endpoint) origin)
    (elsewhere : ∀ place, ¬placeOf endpoint <+: place → after.at? place = files.at? place) :
    Shelved mirrors made after where
  distinct := distinct
  plain := shelved.plain
  mirror := by
    intro other otherMember
    have mirror := shelved.mirror other otherMember
    by_cases same : placeOf endpoint = placeOf other
    · rw [← same] at mirror ⊢
      exact kept other mirror
    · apply localTo.copied _ mirror
      intro below
      symm
      apply elsewhere
      intro leads
      have isClone := (shelved.plain endpoint member).isClonePlace
      have otherIsClone := (shelved.plain other otherMember).isClonePlace
      obtain inside | inside := List.prefix_or_prefix_of_prefix leads (List.prefix_append _ below)
      · exact same (Files.eq_of_isClonePlace isClone otherIsClone inside)
      · exact same (Files.eq_of_isClonePlace otherIsClone isClone inside).symm
  way := by
    intro other otherMember
    have way := Files.obstacle?_eq_none_iff.mp (shelved.way other otherMember)
    apply Files.obstacle?_eq_none_iff.mpr
    intro directory leads differs
    rw [elsewhere directory, way directory leads differs]
    intro within
    have isClone := (shelved.plain endpoint member).isClonePlace
    have otherIsClone := (shelved.plain other otherMember).isClonePlace
    have same := Files.eq_of_isClonePlace isClone otherIsClone (within.trans leads)
    exact differs (leads.eq_of_length_le (same ▸ within.length_le))
  only := by
    intro place found
    by_cases within : placeOf endpoint <+: place
    · exact ⟨endpoint, member, .inl within⟩
    · rw [elsewhere place within] at found ⊢
      exact shelved.only place found

/-- A place with a clone is apart from the place of any other clone. -/
theorem apart (shelved : Shelved mirrors made files) {endpoint other : String}
    (plain : IsPlain endpoint) (member : other ∈ made)
    (differs : placeOf other ≠ placeOf endpoint) :
    ¬placeOf endpoint <+: placeOf other ∧ ¬placeOf other <+: placeOf endpoint := by
  have isClone := plain.isClonePlace
  have otherIsClone := (shelved.plain other member).isClonePlace
  constructor
  · intro leads
    exact differs (Files.eq_of_isClonePlace isClone otherIsClone leads).symm
  · intro leads
    exact differs (Files.eq_of_isClonePlace otherIsClone isClone leads)

/-- A clone comes to its place, and nothing else changes but the way to it. -/
theorem add (shelved : Shelved mirrors made files) (localTo : IsLocal mirrors) {endpoint : String}
    (plain : IsPlain endpoint) (new : ∀ other ∈ made, placeOf other ≠ placeOf endpoint)
    {placed : Files} (distinct : placed.Distinct)
    (mirror : mirrors placed (placeOf endpoint) endpoint)
    (way : placed.obstacle? (placeOf endpoint) = none)
    (elsewhere : ∀ place, ¬placeOf endpoint <+: place → ¬place <+: placeOf endpoint →
      placed.at? place = files.at? place) :
    Shelved mirrors (made ++ [endpoint]) placed where
  distinct := distinct
  plain := by
    intro other member
    obtain member | member := List.mem_append.mp member
    · exact shelved.plain other member
    · rwa [List.mem_singleton.mp member]
  mirror := by
    intro other member
    obtain member | member := List.mem_append.mp member
    · obtain ⟨without, outside⟩ := shelved.apart plain member (new other member)
      apply localTo.copied _ (shelved.mirror other member)
      intro below
      have inside : placeOf other <+: placeOf other ++ below := List.prefix_append _ _
      -- two places on one way lie one within the other, which clones never do
      refine (elsewhere _ ?_ fun leads => outside (inside.trans leads)).symm
      intro leads
      obtain leads | leads := List.prefix_or_prefix_of_prefix leads inside
      · exact without leads
      · exact outside leads
    · rwa [List.mem_singleton.mp member]
  way := by
    intro other member
    obtain member | member := List.mem_append.mp member
    · have before := Files.obstacle?_eq_none_iff.mp (shelved.way other member)
      obtain ⟨without, _⟩ := shelved.apart plain member (new other member)
      apply Files.obstacle?_eq_none_iff.mpr
      intro directory leads differs
      have outside : ¬placeOf endpoint <+: directory := fun within => without (within.trans leads)
      by_cases shared : directory <+: placeOf endpoint
      · apply Files.obstacle?_eq_none_iff.mp way directory shared
        rintro rfl
        exact outside List.prefix_rfl
      · rw [elsewhere directory outside shared, before directory leads differs]
    · rwa [List.mem_singleton.mp member]
  only := by
    intro place found
    have last : endpoint ∈ made ++ [endpoint] := List.mem_append_right _ List.mem_cons_self
    by_cases within : placeOf endpoint <+: place
    · exact ⟨endpoint, last, .inl within⟩
    · by_cases above : place <+: placeOf endpoint
      · refine ⟨endpoint, last, .inr ⟨above, ?_⟩⟩
        apply Files.obstacle?_eq_none_iff.mp way place above
        rintro rfl
        exact within List.prefix_rfl
      · rw [elsewhere place within above] at found ⊢
        obtain ⟨other, member, stands⟩ := shelved.only place found
        exact ⟨other, List.mem_append_left _ member, stands⟩

end Shelved

/-! ## Staging -/

/-- A clone has been made in a directory beside its place. -/
structure Staged (mirrors : Files → Place → String → Prop) (files : Files) (front : Place)
    (stage : List Char) (endpoint : String) (cloned : Files) : Prop where
  distinct : cloned.Distinct
  mirror : mirrors cloned (front ++ [stage]) endpoint
  way : ∀ directory, directory <+: front → cloned.at? directory = some .directory
  elsewhere : ∀ place, ¬front ++ [stage] <+: place → ¬place <+: front →
    cloned.at? place = files.at? place
  free : ∀ place, front ++ [stage] <+: place → place ≠ front ++ [stage] → files.at? place = none

theorem not_concat_prefix_concat {name stage : List Char} (differs : name ≠ stage)
    (front below : Place) :
    ¬front ++ [name] <+: front ++ [stage] ++ below := by
  rw [List.append_assoc, List.prefix_append_right_inj, List.singleton_append,
    List.cons_prefix_cons]
  exact fun both => differs both.1

namespace Staged

variable {mirrors : Files → Place → String → Prop} {made : List String} {files cloned : Files}
  {front : Place} {name stage : List Char} {endpoint : String}

/-- Nothing stood where the clone was made. -/
theorem untouched (staged : Staged mirrors files front stage endpoint cloned)
    (localTo : IsLocal mirrors) (shelved : Shelved mirrors made files)
    (bare : (front ++ [stage]).any Files.isCloneName = false) {place : Place}
    (within : front ++ [stage] <+: place) : files.at? place = none := by
  by_cases differs : place ≠ front ++ [stage]
  · exact staged.free place within differs
  · rw [not_not.mp differs]
    by_contra found
    obtain ⟨other, member, inside | above⟩ := shelved.only _ found
    · have isClone := (shelved.plain other member).isClonePlace
      exact Files.not_prefix_of_bare isClone bare inside
    · have isClone := (shelved.plain other member).isClonePlace
      have gone : files.at? (placeOf other) = none := by
        apply staged.free _ above.1
        intro same
        rw [same] at isClone
        exact Files.not_prefix_of_bare isClone bare List.prefix_rfl
      rw [localTo.directory (shelved.mirror other member)] at gone
      cases gone

/-- A finished clone is put into its place. -/
theorem rename (staged : Staged mirrors files front stage endpoint cloned)
    (localTo : IsLocal mirrors) (shelved : Shelved mirrors made files) (plain : IsPlain endpoint)
    (new : ∀ other ∈ made, placeOf other ≠ placeOf endpoint)
    (stands : placeOf endpoint = front ++ [name]) (unlike : Files.isCloneName stage = false) :
    ∃ placed, cloned.rename (front ++ [stage]) (placeOf endpoint) = .ok placed ∧
      Shelved mirrors (made ++ [endpoint]) placed := by
  have isClone := plain.isClonePlace
  have vacant := shelved.vacant plain new
  rw [stands] at isClone vacant
  obtain ⟨_, _, split, named, bare⟩ := Files.isClonePlace_iff.mp isClone
  obtain ⟨rfl, ends⟩ := List.append_inj' split rfl
  cases ends
  have differs : name ≠ stage := by
    rintro rfl
    cases named.symm.trans unlike
  have stagingBare : (front ++ [stage]).any Files.isCloneName = false := by
    rw [List.any_append, bare, List.any_cons, unlike]
    rfl
  have stagingWay : cloned.obstacle? (front ++ [stage]) = none :=
    Files.obstacle?_concat_eq_none_iff.mpr staged.way
  have way : cloned.obstacle? (front ++ [name]) = none :=
    Files.obstacle?_concat_eq_none_iff.mpr staged.way
  have stillVacant : cloned.at? (front ++ [name]) = none := by
    rw [staged.elsewhere, vacant]
    · have apart := not_concat_prefix_concat differs.symm front []
      rwa [List.append_nil] at apart
    · exact Place.not_concat_leads List.prefix_rfl name
  refine ⟨cloned.relocate (front ++ [stage]) (front ++ [name]), ?_, ?_⟩
  · rw [stands, Files.rename, stagingWay, localTo.directory staged.mirror]
    simp only [way, stillVacant]
  · have distinct := staged.distinct
    apply shelved.add localTo plain new (distinct.relocate _ _)
    · rw [stands]
      apply localTo.copied _ staged.mirror
      intro below
      rw [distinct.at?_relocate_append (not_concat_prefix_concat differs front below)]
    · rw [stands]
      apply Files.obstacle?_concat_eq_none_iff.mpr
      intro directory leads
      rw [distinct.at?_relocate_elsewhere (Place.not_concat_leads leads name)
        (Place.not_concat_leads leads stage), staged.way directory leads]
    · intro place outside apart
      rw [stands] at outside apart
      by_cases within : front ++ [stage] <+: place
      · rw [distinct.at?_relocate_of_carried outside within,
          staged.untouched localTo shelved stagingBare within]
      · rw [distinct.at?_relocate_elsewhere outside within, staged.elsewhere place within]
        intro leads
        exact apart (leads.trans (List.prefix_append _ _))

end Staged

end RepoCollector
