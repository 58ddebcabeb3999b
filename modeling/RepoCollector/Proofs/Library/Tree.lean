import RepoCollector.Proofs.Library.Shelves

/-! # Trees of files

In a file system everything stands in a directory (`RepoCollector.Files.IsTree`), so nothing stands
below a place where nothing is.  The file operations keep this: making directories, putting
something where no directory is, leaving out a place with everything in it, and a renaming between
two places of which neither leads to the other.
-/

namespace RepoCollector

namespace Files

variable {files : Files}

theorem at?_makeDirectories_elsewhere {place other : Place} {made : Files}
    (makes : files.makeDirectories place = .ok made) (apart : ¬other <+: place) :
    made.at? other = files.at? other := by
  rw [at?_of_makeDirectories makes, if_neg fun both => apart both.1]

theorem at?_without_elsewhere {place other : Place} (apart : ¬place <+: other) :
    (files.without place).at? other = files.at? other := by
  rw [at?_without, if_neg (mt Place.isWithin_iff.mp apart)]

theorem at?_without_of_stands {place other : Place}
    (stands : (files.without place).at? other ≠ none) :
    (files.without place).at? other = files.at? other := by
  apply at?_without_elsewhere
  intro leads
  rw [at?_without, if_pos (Place.isWithin_iff.mpr leads)] at stands
  exact stands rfl

/-- No place is listed twice, and only directories lead to where something stands. -/
structure IsTree (files : Files) : Prop where
  distinct : files.Distinct
  rooted : ∀ place, files.at? place ≠ none → files.obstacle? place = none

theorem isTree_empty : IsTree {} where
  distinct := List.nodup_nil
  rooted := fun _ stands => absurd rfl stands

namespace IsTree

theorem directory (tree : files.IsTree) {place above : Place} (stands : files.at? place ≠ none)
    (leads : above <+: place) (differs : above ≠ place) : files.at? above = some .directory :=
  obstacle?_eq_none_iff.mp (tree.rooted place stands) above leads differs

/-- Where something stands, something stands on the whole way. -/
theorem stands_above (tree : files.IsTree) {place above : Place} (stands : files.at? place ≠ none)
    (leads : above <+: place) : files.at? above ≠ none := by
  by_cases same : above = place
  · rwa [same]
  · rw [tree.directory stands leads same]
    exact Option.some_ne_none _

/-- A place that a look does not find is free. -/
theorem at?_of_contains? (tree : files.IsTree) {place : Place}
    (looked : files.contains? place = .ok false) : files.at? place = none := by
  by_contra stands
  rw [contains?, tree.rooted place stands, Option.isSome_iff_ne_none.mpr stands] at looked
  cases looked

theorem contains?_of_stands (tree : files.IsTree) {place : Place}
    (stands : files.at? place ≠ none) : files.contains? place = .ok true := by
  rw [contains?, tree.rooted place stands, Option.isSome_iff_ne_none.mpr stands]

theorem removeTree_of_directory (tree : files.IsTree) {place : Place}
    (stands : files.at? place = some .directory) :
    files.removeTree place = .ok (files.without place) := by
  rw [removeTree, tree.rooted place (stands ▸ Option.some_ne_none _), stands]

end IsTree

theorem Distinct.isOccupied_iff (distinct : files.Distinct) {place : Place} :
    files.isOccupied place = true ↔ ∃ below, below ≠ [] ∧ files.at? (place ++ below) ≠ none := by
  constructor
  · intro occupied
    obtain ⟨⟨standing, entry⟩, member, inside⟩ := List.any_eq_true.mp occupied
    obtain ⟨within, differs⟩ := Bool.and_eq_true_iff.mp inside
    obtain ⟨below, rfl⟩ := Place.isWithin_iff.mp within
    refine ⟨below, ?_, ?_⟩
    · rintro rfl
      exact of_decide_eq_true differs (List.append_nil place)
    · rw [distinct.mem_entries_iff.mp member]
      exact Option.some_ne_none _
  · rintro ⟨below, inside, stands⟩
    by_contra free
    apply stands
    apply distinct.at?_of_not_isOccupied (Bool.not_eq_true _ ▸ free) (List.prefix_append _ _)
    exact fun same => inside (List.append_right_eq_self.mp same)

/-- What is occupied is a directory. -/
theorem IsTree.directory_of_isOccupied (tree : files.IsTree) {place : Place}
    (occupied : files.isOccupied place = true) : files.at? place = some .directory := by
  obtain ⟨below, inside, stands⟩ := tree.distinct.isOccupied_iff.mp occupied
  apply tree.directory stands (List.prefix_append _ _)
  exact fun same => inside (List.append_right_eq_self.mp same.symm)

/-- Whether a directory is occupied shows in what stands in it. -/
theorem isOccupied_congr {others : Files} (distinct : files.Distinct)
    (otherDistinct : others.Distinct) {place other : Place}
    (same : ∀ below, files.at? (place ++ below) = others.at? (other ++ below)) :
    files.isOccupied place = others.isOccupied other := by
  rw [Bool.eq_iff_iff, distinct.isOccupied_iff, otherDistinct.isOccupied_iff]
  simp only [same]

/-! ## File operations on trees -/

/-- The directories that lead to a place are listed with the outermost first. -/
theorem above_pairwise (place : Place) :
    place.above.Pairwise fun first second => first.length < second.length := by
  rw [Place.above, List.pairwise_map]
  apply List.pairwise_lt_range.imp_of_mem
  intro first second _ secondMember earlier
  have short := List.mem_range.mp secondMember
  rw [List.length_take, List.length_take]
  omega

/-- No way is made through a file. -/
theorem IsTree.no_file_of_makeDirectories (tree : files.IsTree) {place : Place} {made : Files}
    (makes : files.makeDirectories place = .ok made) {directory : Place}
    (leads : directory <+: place) :
    files.at? directory = none ∨ files.at? directory = some .directory := by
  obtain absent | ⟨entry, found⟩ := Option.eq_none_or_eq_some (files.at? directory)
  · exact .inl absent
  right
  cases entry with
  | directory => exact found
  | file text =>
      exfalso
      by_cases same : directory = place
      · subst same
        rw [makeDirectories, tree.rooted directory (found ▸ Option.some_ne_none _), found] at makes
        cases makes
      have member : directory ∈ place.above := Place.mem_above.mpr ⟨leads, same⟩
      suffices blocked : files.obstacle? place = some .notDirectory by
        rw [makeDirectories, blocked] at makes
        cases makes
      cases first : files.obstacle? place with
      | none =>
          have clear := obstacle?_eq_none_iff.mp first directory leads same
          rw [found] at clear
          cases clear
      | some fault =>
          obtain ⟨front, blocking, back, split, blocks, free⟩ := List.findSome?_eq_some_iff.mp first
          rw [split, List.mem_append, List.mem_cons] at member
          obtain before | here | behind := member
          · have clear := free directory before
            rw [found] at clear
            cases clear
          · rw [← here, found] at blocks
            exact blocks.symm
          · -- what blocks the way leads to the file, so it is a directory
            have order := above_pairwise place
            rw [split, List.pairwise_append, List.pairwise_cons] at order
            have shorter := order.2.1.1 directory behind
            have blocking_leads : blocking <+: place :=
              (Place.mem_above.mp (split ▸ List.mem_append_right _ List.mem_cons_self)).1
            have inside :=
              List.prefix_of_prefix_length_le blocking_leads leads (Nat.le_of_lt shorter)
            have stands : files.at? directory ≠ none := found ▸ Option.some_ne_none _
            have clear := tree.directory stands inside fun same =>
              absurd shorter (same ▸ lt_irrefl _)
            rw [clear] at blocks
            cases blocks

namespace IsTree

theorem makeDirectories (tree : files.IsTree) {place : Place} {made : Files}
    (makes : files.makeDirectories place = .ok made) : made.IsTree where
  distinct := tree.distinct.makeDirectories makes
  rooted := by
    intro standing stands
    have after := at?_of_makeDirectories makes
    apply obstacle?_eq_none_iff.mpr
    intro above leads differs
    by_cases stood : files.at? standing = none
    · rw [after] at stands
      split at stands
      next new =>
        obtain absent | present := tree.no_file_of_makeDirectories makes (leads.trans new.1)
        · rw [after, if_pos ⟨leads.trans new.1, absent⟩]
        · rw [after, present, if_neg fun both => nomatch both.2]
      next => exact absurd stood stands
    · have way := tree.directory stood leads differs
      rw [after, way, if_neg fun both => nomatch both.2]

/-- Something is put where its way is clear and no directory is. -/
theorem put (tree : files.IsTree) {place : Place} (clear : files.obstacle? place = none)
    (open' : files.at? place ≠ some .directory) (entry : Entry) :
    (files.put place entry).IsTree where
  distinct := tree.distinct.put place entry
  rooted := by
    intro standing stands
    apply obstacle?_eq_none_iff.mpr
    intro above leads differs
    by_cases new : standing = place
    · subst new
      rw [at?_put, if_neg differs]
      exact obstacle?_eq_none_iff.mp clear above leads differs
    · rw [at?_put, if_neg new] at stands
      have way := tree.directory stands leads differs
      rw [at?_put, if_neg, way]
      rintro rfl
      exact open' way

theorem without (tree : files.IsTree) (place : Place) : (files.without place).IsTree where
  distinct := tree.distinct.without place
  rooted := by
    intro standing stands
    apply obstacle?_eq_none_iff.mpr
    intro above leads differs
    rw [at?_without] at stands ⊢
    split at stands
    next => exact absurd rfl stands
    next outside =>
      rw [if_neg, tree.directory stands leads differs]
      rw [Place.isWithin_iff] at outside ⊢
      exact fun within => outside (within.trans leads)

theorem relocate (tree : files.IsTree) {source target : Place}
    (clear : files.obstacle? target = none) (apart : ¬source <+: target)
    (outside : ¬target <+: source) : (files.relocate source target).IsTree where
  distinct := tree.distinct.relocate source target
  rooted := by
    intro standing stands
    apply obstacle?_eq_none_iff.mpr
    intro above leads differs
    have carried (below : Place) : ¬target <+: source ++ below := by
      intro within
      obtain inside | inside :=
        List.prefix_or_prefix_of_prefix within (List.prefix_append source below)
      · exact outside inside
      · exact apart inside
    by_cases within : target <+: standing
    · obtain ⟨below, rfl⟩ := within
      rw [tree.distinct.at?_relocate_append (carried below)] at stands
      by_cases inside : target <+: above
      · obtain ⟨part, rfl⟩ := inside
        rw [tree.distinct.at?_relocate_append (carried part)]
        apply tree.directory stands
        · exact (List.prefix_append_right_inj source).mpr
            ((List.prefix_append_right_inj target).mp leads)
        · exact fun same => differs (by rw [List.append_cancel_left same])
      · have short : above <+: target := by
          obtain before | behind :=
            List.prefix_or_prefix_of_prefix leads (List.prefix_append target below)
          · exact before
          · exact absurd behind inside
        rw [tree.distinct.at?_relocate_elsewhere inside fun moved => apart (moved.trans short)]
        apply obstacle?_eq_none_iff.mp clear above short
        rintro rfl
        exact inside List.prefix_rfl
    · by_cases moved : source <+: standing
      · exact absurd (tree.distinct.at?_relocate_of_carried within moved) stands
      · rw [tree.distinct.at?_relocate_elsewhere within moved] at stands
        rw [tree.distinct.at?_relocate_elsewhere (fun inside => within (inside.trans leads))
          fun inside => moved (inside.trans leads)]
        exact tree.directory stands leads differs

end IsTree

/-- What a renaming that succeeds has found. -/
theorem rename_eq_ok {source target : Place} {renamed : Files}
    (renames : files.rename source target = .ok renamed) :
    renamed = files.relocate source target ∧ files.at? source ≠ none ∧
      files.obstacle? target = none ∧ (files.at? source = some .directory →
        files.at? target = none ∨
          files.at? target = some .directory ∧ files.isOccupied target = false) := by
  unfold rename at renames
  split at renames
  next => cases renames
  next => cases renames
  next entry _ found =>
    split at renames
    next => cases renames
    next clear =>
      rw [found]
      split at renames
      next => cases renames
      next => cases renames
      next there =>
        split at renames
        next => cases renames
        next free =>
          cases renames
          refine ⟨rfl, Option.some_ne_none _, clear, fun _ => .inr ⟨there, ?_⟩⟩
          exact Bool.not_eq_true _ ▸ free
      next notFile notDirectory notBoth =>
        cases renames
        refine ⟨rfl, Option.some_ne_none _, clear, ?_⟩
        rintro ⟨⟩
        left
        cases there : files.at? target with
        | none => rfl
        | some entry =>
            cases entry with
            | directory => exact absurd there (notBoth rfl)
            | file text => exact absurd there (notFile text rfl)

end Files

end RepoCollector
