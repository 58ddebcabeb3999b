import Mathlib.Data.List.Infix
import Mathlib.Data.List.Nodup
import RepoCollector.Library.Files

/-! # What file operations leave

Each operation is described by what stands at every place afterwards: making directories fills the
way (`RepoCollector.Files.at?_of_makeDirectories`), and a renaming carries a directory with
everything in it (`RepoCollector.Files.Distinct.at?_relocate`).  No operation lists a place twice.
-/

namespace RepoCollector

namespace Place

theorem isWithin_iff {directory place : Place} :
    directory.isWithin place = true ↔ directory <+: place :=
  List.isPrefixOf_iff_prefix

theorem mem_above {directory place : Place} :
    directory ∈ place.above ↔ directory <+: place ∧ directory ≠ place := by
  simp only [above, List.mem_map, List.mem_range]
  constructor
  · rintro ⟨count, short, rfl⟩
    refine ⟨List.take_prefix count place, fun same => ?_⟩
    have lengths := congrArg List.length same
    rw [List.length_take] at lengths
    omega
  · rintro ⟨leads, differs⟩
    refine ⟨directory.length, ?_, (List.prefix_iff_eq_take.mp leads).symm⟩
    exact lt_of_le_of_ne leads.length_le fun same => differs (leads.eq_of_length same)

theorem not_concat_leads {front directory : Place} (leads : directory <+: front)
    (name : List Char) : ¬front ++ [name] <+: directory := by
  intro within
  have shorter := within.length_le.trans leads.length_le
  rw [List.length_append, List.length_singleton] at shorter
  omega

theorem moved_append (source target below : Place) :
    moved source target (source ++ below) = target ++ below := by
  rw [moved, List.drop_left]

/-- The place under which something is found when a directory has another name. -/
def renamed (source target place : Place) : Place :=
  if source.isWithin place then source.moved target place else place

theorem renamed_append (source target below : Place) :
    renamed source target (source ++ below) = target ++ below := by
  rw [renamed, if_pos (isWithin_iff.mpr (List.prefix_append _ _)), moved_append]

theorem renamed_of_not_within {source place : Place} (outside : ¬source <+: place)
    (target : Place) : renamed source target place = place :=
  if_neg (mt isWithin_iff.mp outside)

/-- Nothing is found at one place that was at two places before. -/
theorem renamed_injOn {source target first second : Place} (firstOutside : ¬target <+: first)
    (secondOutside : ¬target <+: second)
    (same : renamed source target first = renamed source target second) : first = second := by
  by_cases firstCarried : source <+: first
  · obtain ⟨below, rfl⟩ := firstCarried
    rw [renamed_append] at same
    by_cases secondCarried : source <+: second
    · obtain ⟨other, rfl⟩ := secondCarried
      rw [renamed_append] at same
      rw [List.append_cancel_left same]
    · rw [renamed_of_not_within secondCarried] at same
      exact absurd ⟨below, same⟩ secondOutside
  · rw [renamed_of_not_within firstCarried] at same
    by_cases secondCarried : source <+: second
    · obtain ⟨other, rfl⟩ := secondCarried
      rw [renamed_append] at same
      exact absurd ⟨other, same.symm⟩ firstOutside
    · rwa [renamed_of_not_within secondCarried] at same

end Place

namespace Files

variable {files : Files}

/-- No place is listed twice. -/
def Distinct (files : Files) : Prop := (files.entries.map Prod.fst).Nodup

theorem Distinct.mem_entries_iff (distinct : files.Distinct) {place : Place} {entry : Entry} :
    (place, entry) ∈ files.entries ↔ files.at? place = some entry := by
  obtain ⟨entries⟩ := files
  simp only [Distinct, at?] at distinct ⊢
  induction entries with
  | nil => simp only [List.not_mem_nil, List.lookup_nil, reduceCtorEq]
  | cons first rest ih =>
      obtain ⟨standing, held⟩ := first
      rw [List.map_cons, List.nodup_cons] at distinct
      rw [List.mem_cons, Prod.mk.injEq, List.lookup_cons, ih distinct.2]
      by_cases same : place = standing
      · subst same
        have absent : rest.lookup place ≠ some entry := by
          intro found
          have member := (ih distinct.2).mpr found
          exact distinct.1 (List.mem_map.mpr ⟨_, member, rfl⟩)
        simp only [absent, or_false, true_and, beq_self_eq_true, Option.some.injEq, eq_comm]
      · simp only [same, false_and, false_or, beq_eq_false_iff_ne.mpr same]

/-! ## Ways -/

theorem obstacle?_eq_none_iff {place : Place} : files.obstacle? place = none ↔
    ∀ directory, directory <+: place → directory ≠ place →
      files.at? directory = some .directory := by
  rw [obstacle?, List.findSome?_eq_none_iff]
  constructor
  · intro clear directory leads differs
    have free := clear directory (Place.mem_above.mpr ⟨leads, differs⟩)
    split at free
    next found => exact found
    next => cases free
    next => cases free
  · intro clear directory member
    obtain ⟨leads, differs⟩ := Place.mem_above.mp member
    rw [clear directory leads differs]

theorem obstacle?_concat_eq_none_iff {front : Place} {name : List Char} :
    files.obstacle? (front ++ [name]) = none ↔
      ∀ directory, directory <+: front → files.at? directory = some .directory := by
  rw [obstacle?_eq_none_iff]
  constructor
  · intro clear directory leads
    apply clear directory (leads.trans (List.prefix_append _ _))
    rintro rfl
    exact Place.not_concat_leads leads name List.prefix_rfl
  · intro way directory leads differs
    exact way directory ((List.prefix_concat_iff.mp leads).resolve_left differs)

/-- A way without files is at most interrupted. -/
theorem obstacle?_of_no_file {place : Place}
    (free : ∀ directory, directory <+: place → directory ≠ place →
      files.at? directory = none ∨ files.at? directory = some .directory) :
    files.obstacle? place = none ∨ files.obstacle? place = some .notFound := by
  cases found : files.obstacle? place with
  | none => exact .inl rfl
  | some fault =>
      right
      obtain ⟨directory, member, blocks⟩ := List.exists_of_findSome?_eq_some found
      obtain ⟨leads, differs⟩ := Place.mem_above.mp member
      obtain absent | present := free directory leads differs
      · rw [absent] at blocks
        exact blocks.symm
      · rw [present] at blocks
        cases blocks

/-! ## Making directories -/

theorem at?_addDirectory (files : Files) (place other : Place) :
    (files.addDirectory place).at? other =
      if other = place ∧ files.at? other = none then some .directory else files.at? other := by
  unfold addDirectory
  split
  next present =>
    rw [if_neg]
    rintro ⟨rfl, absent⟩
    rw [absent] at present
    cases present
  next absent =>
    rw [Option.not_isSome_iff_eq_none] at absent
    rw [at?_put]
    by_cases same : other = place
    · rw [if_pos same, if_pos ⟨same, same ▸ absent⟩]
    · rw [if_neg same, if_neg fun both => same both.1]

theorem at?_foldl_addDirectory (places : List Place) (files : Files) (other : Place) :
    (places.foldl addDirectory files).at? other =
      if other ∈ places ∧ files.at? other = none then some .directory else files.at? other := by
  induction places generalizing files with
  | nil => rw [List.foldl_nil, if_neg fun both => List.not_mem_nil both.1]
  | cons place places ih =>
      rw [List.foldl_cons, ih]
      have placed := at?_addDirectory files place other
      by_cases absent : files.at? other = none
      · by_cases same : other = place
        · rw [if_pos ⟨same, absent⟩] at placed
          rw [placed, ite_self, if_pos ⟨List.mem_cons.mpr (.inl same), absent⟩]
        · simp only [placed, same, List.mem_cons, false_and, false_or, ↓reduceIte]
      · simp only [placed, absent, and_false, ↓reduceIte]

theorem makeDirectories_eq_ok {place : Place} {made : Files}
    (makes : files.makeDirectories place = .ok made) :
    made = (place.above ++ [place]).foldl addDirectory files := by
  unfold makeDirectories at makes
  split at makes <;> cases makes
  rfl

/-- Directories are made where nothing stands on the way, and nothing else changes. -/
theorem at?_of_makeDirectories {place : Place} {made : Files}
    (makes : files.makeDirectories place = .ok made) (other : Place) :
    made.at? other =
      if other <+: place ∧ files.at? other = none then some .directory else files.at? other := by
  have member : other ∈ place.above ++ [place] ↔ other <+: place := by
    rw [List.mem_append, List.mem_singleton, Place.mem_above]
    constructor
    · rintro (⟨leads, _⟩ | rfl)
      · exact leads
      · exact List.prefix_rfl
    · intro leads
      by_cases same : other = place
      · exact .inr same
      · exact .inl ⟨leads, same⟩
  simp only [makeDirectories_eq_ok makes, at?_foldl_addDirectory, member]

theorem makeDirectories_of_no_file {place : Place}
    (free : ∀ directory, directory <+: place →
      files.at? directory = none ∨ files.at? directory = some .directory) :
    ∃ made, files.makeDirectories place = .ok made := by
  unfold makeDirectories
  obtain way | way := obstacle?_of_no_file fun directory leads _ => free directory leads
  all_goals
    obtain here | here := free place List.prefix_rfl
    all_goals
      rw [way, here]
      exact ⟨_, rfl⟩

theorem Distinct.put (distinct : files.Distinct) (place : Place) (entry : Entry) :
    (files.put place entry).Distinct := by
  rw [Distinct, Files.put, List.map_cons, List.nodup_cons]
  constructor
  · intro member
    obtain ⟨_, kept, same⟩ := List.mem_map.mp member
    exact of_decide_eq_true (List.mem_filter.mp kept).2 same
  · exact distinct.sublist (List.filter_sublist.map _)

theorem Distinct.foldl_addDirectory (distinct : files.Distinct) (places : List Place) :
    (places.foldl addDirectory files).Distinct := by
  induction places generalizing files with
  | nil => exact distinct
  | cons place places ih =>
      apply ih
      unfold addDirectory
      split
      · exact distinct
      · exact distinct.put place .directory

theorem Distinct.makeDirectories {place : Place} {made : Files} (distinct : files.Distinct)
    (makes : files.makeDirectories place = .ok made) : made.Distinct := by
  rw [makeDirectories_eq_ok makes]
  exact distinct.foldl_addDirectory _

/-! ## Renaming -/

theorem Distinct.without (distinct : files.Distinct) (place : Place) :
    (files.without place).Distinct :=
  distinct.sublist (List.filter_sublist.map _)

theorem mem_without {place standing : Place} {entry : Entry} :
    (standing, entry) ∈ (files.without place).entries ↔
      (standing, entry) ∈ files.entries ∧ ¬place <+: standing := by
  rw [Files.without, List.mem_filter, ← Place.isWithin_iff, Bool.not_eq_true', Bool.not_eq_true]

theorem relocate_eq (files : Files) (source target : Place) :
    (files.relocate source target).entries =
      (files.without target).entries.map fun entry =>
        (source.renamed target entry.1, entry.2) := by
  apply List.map_congr_left
  rintro ⟨standing, entry⟩ _
  by_cases carried : source.isWithin standing = true
  · simp only [Place.renamed, carried, ↓reduceIte]
  · simp only [Place.renamed, carried, Bool.false_eq_true, ↓reduceIte]

theorem Distinct.relocate (distinct : files.Distinct) (source target : Place) :
    (files.relocate source target).Distinct := by
  have keys : (files.relocate source target).entries.map Prod.fst =
      ((files.without target).entries.map Prod.fst).map (source.renamed target) := by
    rw [relocate_eq, List.map_map, List.map_map]
    rfl
  have outside {standing : Place}
      (member : standing ∈ (files.without target).entries.map Prod.fst) : ¬target <+: standing := by
    obtain ⟨_, kept, rfl⟩ := List.mem_map.mp member
    exact (mem_without.mp kept).2
  rw [Distinct, keys]
  apply List.Nodup.map_on _ (distinct.without target)
  intro first firstMember second secondMember same
  exact Place.renamed_injOn (outside firstMember) (outside secondMember) same

/-- What stands at a place after a directory was given another name. -/
theorem Distinct.at?_relocate (distinct : files.Distinct) (source target place : Place) :
    (files.relocate source target).at? place =
      if target.isWithin place then (files.without target).at? (target.moved source place)
      else if source.isWithin place then none else files.at? place := by
  ext entry
  rw [← (distinct.relocate source target).mem_entries_iff, relocate_eq, List.mem_map]
  by_cases inside : target <+: place
  · obtain ⟨below, rfl⟩ := inside
    rw [if_pos (Place.isWithin_iff.mpr (List.prefix_append _ _)), Place.moved_append,
      ← (distinct.without target).mem_entries_iff]
    constructor
    · rintro ⟨⟨standing, _⟩, member, same⟩
      obtain ⟨named, rfl⟩ := Prod.mk.inj same
      by_cases carried : source <+: standing
      · obtain ⟨above, rfl⟩ := carried
        rw [Place.renamed_append] at named
        rwa [List.append_cancel_left named] at member
      · rw [Place.renamed_of_not_within carried] at named
        exact absurd ⟨below, named.symm⟩ (mem_without.mp member).2
    · intro member
      exact ⟨_, member, Prod.ext (Place.renamed_append source target below) rfl⟩
  · have apart {standing : Place} (same : source.renamed target standing = place) :
        standing = place ∧ ¬source <+: place := by
      by_cases carried : source <+: standing
      · obtain ⟨above, rfl⟩ := carried
        rw [Place.renamed_append] at same
        exact absurd ⟨above, same⟩ inside
      · rw [Place.renamed_of_not_within carried] at same
        exact ⟨same, same ▸ carried⟩
    rw [if_neg (mt Place.isWithin_iff.mp inside)]
    by_cases carried : source <+: place
    · rw [if_pos (Place.isWithin_iff.mpr carried)]
      constructor
      · rintro ⟨_, _, same⟩
        exact absurd carried (apart (congrArg Prod.fst same)).2
      · intro found
        cases found
    · rw [if_neg (mt Place.isWithin_iff.mp carried), ← distinct.mem_entries_iff]
      constructor
      · rintro ⟨⟨standing, _⟩, member, same⟩
        obtain ⟨named, rfl⟩ := Prod.mk.inj same
        obtain ⟨rfl, _⟩ := apart named
        exact (mem_without.mp member).1
      · intro member
        exact ⟨_, mem_without.mpr ⟨member, inside⟩,
          Prod.ext (Place.renamed_of_not_within carried target) rfl⟩

theorem Distinct.at?_relocate_append (distinct : files.Distinct) {source target below : Place}
    (apart : ¬target <+: source ++ below) :
    (files.relocate source target).at? (target ++ below) = files.at? (source ++ below) := by
  rw [distinct.at?_relocate, if_pos (Place.isWithin_iff.mpr (List.prefix_append _ _)),
    Place.moved_append, at?_without, if_neg (mt Place.isWithin_iff.mp apart)]

theorem Distinct.at?_relocate_of_carried (distinct : files.Distinct) {source target place : Place}
    (outside : ¬target <+: place) (carried : source <+: place) :
    (files.relocate source target).at? place = none := by
  rw [distinct.at?_relocate, if_neg (mt Place.isWithin_iff.mp outside),
    if_pos (Place.isWithin_iff.mpr carried)]

theorem Distinct.at?_relocate_elsewhere (distinct : files.Distinct) {source target place : Place}
    (outside : ¬target <+: place) (apart : ¬source <+: place) :
    (files.relocate source target).at? place = files.at? place := by
  rw [distinct.at?_relocate, if_neg (mt Place.isWithin_iff.mp outside),
    if_neg (mt Place.isWithin_iff.mp apart)]

end Files

end RepoCollector
