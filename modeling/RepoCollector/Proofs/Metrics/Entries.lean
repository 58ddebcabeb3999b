import Mathlib.Algebra.Ring.Nat

/-! # Entries in rising order of their keys

A list of entries with one value for each key, kept in rising order of the keys.  Adjusting the
value of a key is seen there and nowhere else (`RepoCollector.Entries.lookup_adjust`), and keeps the
order (`RepoCollector.Entries.IsRising.adjust`).

The counts of a collector and the series of a registry are both kept so.
-/

namespace RepoCollector.Entries

variable {κ ν : Type} [DecidableEq κ]

/-- Changes the value of a key, which is `fresh` if the key has none, at its place in the order. -/
def adjust (before : κ → κ → Bool) (fresh : ν) (key : κ) (change : ν → ν) :
    List (κ × ν) → List (κ × ν)
  | [] => [(key, change fresh)]
  | (other, value) :: rest =>
    if key = other then (other, change value) :: rest
    else if before key other then (key, change fresh) :: (other, value) :: rest
    else (other, value) :: adjust before fresh key change rest

/-- A strict order in which any two keys can be compared. -/
structure Orders (before : κ → κ → Bool) : Prop where
  irreflexive : ∀ key, ¬ before key key
  transitive : ∀ {first second third}, before first second → before second third →
    before first third
  total : ∀ {first second}, first ≠ second → ¬ before first second → before second first

def IsRising (before : κ → κ → Bool) (entries : List (κ × ν)) : Prop :=
  entries.Pairwise fun first second => before first.1 second.1

variable {before : κ → κ → Bool} {fresh : ν} {key : κ} {change : ν → ν} {entries : List (κ × ν)}

/-- An adjusted list has the key and the keys of the list. -/
private theorem mem_adjust {entry : κ × ν}
    (member : entry ∈ adjust before fresh key change entries) :
    entry.1 = key ∨ ∃ old ∈ entries, entry.1 = old.1 := by
  induction entries with
  | nil =>
      rw [List.mem_singleton.mp member]
      exact Or.inl rfl
  | cons first rest ih =>
      obtain ⟨other, value⟩ := first
      unfold adjust at member
      split at member
      · rcases List.mem_cons.mp member with rfl | member
        · exact Or.inr ⟨_, List.mem_cons_self, rfl⟩
        · exact Or.inr ⟨_, List.mem_cons_of_mem _ member, rfl⟩
      · split at member
        · rcases List.mem_cons.mp member with rfl | member
          · exact Or.inl rfl
          · exact Or.inr ⟨_, member, rfl⟩
        · rcases List.mem_cons.mp member with rfl | member
          · exact Or.inr ⟨_, List.mem_cons_self, rfl⟩
          · rcases ih member with same | ⟨old, within, same⟩
            · exact Or.inl same
            · exact Or.inr ⟨old, List.mem_cons_of_mem _ within, same⟩

theorem IsRising.adjust (orders : Orders before) (rising : IsRising before entries) :
    IsRising before (adjust before fresh key change entries) := by
  unfold IsRising at *
  induction entries with
  | nil => exact List.pairwise_singleton _ _
  | cons first rest ih =>
      obtain ⟨other, value⟩ := first
      obtain ⟨least, later⟩ := List.pairwise_cons.mp rising
      unfold Entries.adjust
      split
      · exact List.pairwise_cons.mpr ⟨least, later⟩
      next different =>
        split
        next earlier =>
          refine List.pairwise_cons.mpr ⟨fun entry member => ?_, rising⟩
          rcases List.mem_cons.mp member with rfl | member
          · exact earlier
          · exact orders.transitive earlier (least entry member)
        next notEarlier =>
          refine List.pairwise_cons.mpr ⟨fun entry member => ?_, ih later⟩
          rcases mem_adjust member with same | ⟨old, within, same⟩
          · rw [same]
            exact orders.total different notEarlier
          · rw [same]
            exact least old within

/-- What is added to the values by a change is added to their sum. -/
theorem sum_adjust (size : ν → Nat) {more : Nat} (none : size fresh = 0)
    (grows : ∀ value, size (change value) = size value + more) :
    ((adjust before fresh key change entries).map (size ·.2)).sum =
      (entries.map (size ·.2)).sum + more := by
  induction entries with
  | nil =>
      change size (change fresh) + 0 = 0 + more
      rw [grows, none, Nat.add_zero]
  | cons first rest ih =>
      obtain ⟨other, value⟩ := first
      unfold adjust
      split
      · simp only [List.map_cons, List.sum_cons, grows]
        omega
      · split
        · simp only [List.map_cons, List.sum_cons, grows, none]
          omega
        · simp only [List.map_cons, List.sum_cons, ih]
          omega

variable [BEq κ] [LawfulBEq κ]

theorem lookup_cons_eq (other : κ) (entry : κ × ν) (rest : List (κ × ν)) :
    (entry :: rest).lookup other =
      if other = entry.1 then some entry.2 else rest.lookup other := by
  obtain ⟨first, value⟩ := entry
  by_cases same : other = first
  · rw [List.lookup_cons, if_pos same, beq_iff_eq.mpr same]
  · rw [List.lookup_cons, if_neg same, beq_false_of_ne same]

omit [DecidableEq κ] in
/-- A key that comes before all others has no value. -/
private theorem lookup_of_before (orders : Orders before)
    (earlier : ∀ entry ∈ entries, before key entry.1) : entries.lookup key = none := by
  refine List.lookup_eq_none_iff.mpr fun entry member => bne_iff_ne.mpr fun same => ?_
  have earlier := earlier entry member
  rw [← same] at earlier
  exact orders.irreflexive key earlier

theorem lookup_adjust (orders : Orders before) (rising : IsRising before entries) (other : κ) :
    (adjust before fresh key change entries).lookup other =
      if other = key then some (change ((entries.lookup key).getD fresh))
      else entries.lookup other := by
  induction entries with
  | nil => exact lookup_cons_eq other _ _
  | cons entry rest ih =>
      obtain ⟨first, value⟩ := entry
      obtain ⟨least, later⟩ := List.pairwise_cons.mp rising
      unfold adjust
      split
      next found =>
        subst found
        simp only [lookup_cons_eq, ↓reduceIte, Option.getD_some]
        split <;> rfl
      next different =>
        split
        next earlier =>
          have absent : ((first, value) :: rest).lookup key = none := by
            refine lookup_of_before orders fun entry member => ?_
            rcases List.mem_cons.mp member with rfl | member
            · exact earlier
            · exact orders.transitive earlier (least entry member)
          rw [lookup_cons_eq, absent]
          rfl
        next notEarlier =>
          rw [lookup_cons_eq, lookup_cons_eq, lookup_cons_eq, if_neg different, ih later]
          dsimp only
          by_cases same : other = first
          · rw [if_pos same, if_pos same, if_neg fun equal => different (equal.symm.trans same)]
          · rw [if_neg same, if_neg same]

theorem mem_iff_lookup_eq (orders : Orders before) (rising : IsRising before entries) {value : ν} :
    (key, value) ∈ entries ↔ entries.lookup key = some value := by
  induction entries with
  | nil => simp only [List.not_mem_nil, List.lookup_nil, reduceCtorEq]
  | cons entry rest ih =>
      obtain ⟨least, later⟩ := List.pairwise_cons.mp rising
      rw [lookup_cons_eq, List.mem_cons, ih later]
      by_cases same : key = entry.1
      · have absent : rest.lookup key = none := lookup_of_before orders fun next member =>
          same ▸ least next member
        have whole : (entry.1, value) = entry ↔ entry.2 = value :=
          ⟨fun equal => (congrArg Prod.snd equal).symm, fun equal => Prod.ext rfl equal.symm⟩
        rw [if_pos same, absent, same, whole, Option.some_inj]
        exact or_iff_left nofun
      · rw [if_neg same]
        exact or_iff_right fun equal => same (congrArg Prod.fst equal)

end RepoCollector.Entries
