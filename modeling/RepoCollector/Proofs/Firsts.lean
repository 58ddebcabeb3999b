import Mathlib.Data.List.Infix

/-! # First occurrences

The items of a list whose key has not occurred before them (`RepoCollector.firstsBy`).  What comes
later in a list never changes which of the earlier items are kept (`RepoCollector.firstsBy_prefix`),
and items whose keys have all occurred before can be read again without any effect
(`RepoCollector.firstsBy_append_again`).
-/

namespace RepoCollector

variable {α β : Type*} [DecidableEq β] {key : α → β}

/-- The items of a list, of each key the first one only. -/
def firstsBy (key : α → β) (items : List α) : List α :=
  items.eraseDupsBy fun later earlier => key later = key earlier

@[simp]
theorem firstsBy_nil : firstsBy key [] = [] := rfl

theorem firstsBy_cons (item : α) (items : List α) :
    firstsBy key (item :: items) =
      item :: firstsBy key (items.filter fun later => key later ≠ key item) := by
  simp [firstsBy, List.eraseDupsBy_cons]

private theorem length_filter_lt (item : α) (items : List α) :
    (items.filter fun later => key later ≠ key item).length < (item :: items).length :=
  Nat.lt_succ_of_le (List.length_filter_le _ _)

theorem keys_firstsBy (items : List α) (name : β) :
    name ∈ (firstsBy key items).map key ↔ name ∈ items.map key := by
  match items with
  | [] => rfl
  | item :: items =>
      have ih := keys_firstsBy (items.filter fun later => key later ≠ key item) name
      rw [firstsBy_cons, List.map_cons, List.mem_cons, ih, List.map_cons, List.mem_cons]
      by_cases same : name = key item
      · simp only [same, true_or]
      · simp only [same, false_or, List.mem_map, List.mem_filter, decide_eq_true_eq]
        constructor
        · rintro ⟨later, ⟨member, _⟩, named⟩
          exact ⟨later, member, named⟩
        · rintro ⟨later, member, rfl⟩
          exact ⟨later, ⟨member, same⟩, rfl⟩
termination_by items.length
decreasing_by exact length_filter_lt item items

theorem nodup_keys_firstsBy (items : List α) : ((firstsBy key items).map key).Nodup := by
  match items with
  | [] => exact List.nodup_nil
  | item :: items =>
      have ih := nodup_keys_firstsBy (items.filter fun later => key later ≠ key item)
      rw [firstsBy_cons, List.map_cons, List.nodup_cons, keys_firstsBy]
      refine ⟨?_, ih⟩
      intro member
      obtain ⟨later, kept, same⟩ := List.mem_map.mp member
      exact of_decide_eq_true (List.mem_filter.mp kept).2 same
termination_by items.length
decreasing_by exact length_filter_lt item items

theorem firstsBy_append (front back : List α) :
    firstsBy key (front ++ back) =
      firstsBy key front ++ firstsBy key (back.filter fun later => key later ∉ front.map key) := by
  match front with
  | [] => simp
  | item :: front =>
      have ih := firstsBy_append (front.filter fun later => key later ≠ key item)
        (back.filter fun later => key later ≠ key item)
      rw [List.cons_append, firstsBy_cons, List.filter_append, ih, firstsBy_cons, List.cons_append,
        List.filter_filter]
      congr 3
      apply List.filter_congr
      intro later _
      by_cases same : key later = key item
      · simp [same]
      · have kept : key later ∈ (front.filter fun other => key other ≠ key item).map key ↔
            key later ∈ front.map key := by
          simp only [List.mem_map, List.mem_filter, decide_eq_true_eq]
          constructor
          · rintro ⟨other, ⟨member, _⟩, named⟩
            exact ⟨other, member, named⟩
          · rintro ⟨other, member, named⟩
            exact ⟨other, ⟨member, named ▸ same⟩, named⟩
        simp only [kept, same, List.map_cons, List.mem_cons, false_or, ne_eq, not_false_eq_true,
          decide_true, Bool.and_true]
termination_by front.length
decreasing_by exact length_filter_lt item front

theorem firstsBy_concat (items : List α) (last : α) :
    firstsBy key (items ++ [last]) =
      firstsBy key items ++ if key last ∈ items.map key then [] else [last] := by
  rw [firstsBy_append]
  by_cases known : key last ∈ items.map key
  · simp only [known, List.filter_cons, not_true_eq_false, decide_false, Bool.false_eq_true,
      ↓reduceIte, List.filter_nil, firstsBy_nil]
  · simp only [known, List.filter_cons, not_false_eq_true, decide_true, ↓reduceIte,
      List.filter_nil, firstsBy_cons, firstsBy_nil]

theorem firstsBy_prefix {front items : List α} (before : front <+: items) :
    firstsBy key front <+: firstsBy key items := by
  obtain ⟨back, rfl⟩ := before
  rw [firstsBy_append]
  exact List.prefix_append _ _

/-- Items that have all been read before add nothing. -/
theorem firstsBy_append_again {front middle : List α} (known : ∀ item ∈ middle, item ∈ front)
    (back : List α) : firstsBy key (front ++ (middle ++ back)) = firstsBy key (front ++ back) := by
  have again : middle.filter (fun later => key later ∉ front.map key) = [] := by
    apply List.filter_eq_nil_iff.mpr
    intro item member
    have named : key item ∈ front.map key := List.mem_map_of_mem (known item member)
    simp only [named, not_true_eq_false, decide_false, Bool.false_eq_true, not_false_eq_true]
  rw [firstsBy_append, List.filter_append, again, List.nil_append, ← firstsBy_append]

end RepoCollector
