import Mathlib.Data.List.DropRight
import Mathlib.Data.List.Infix
import RepoCollector.Text.Blank
import RepoCollector.Text.Cut

/-! # Cutting and trimming

What the functions that cut a text do not look at: what stands behind the first mark
(`RepoCollector.Text.cutAt_append`, `RepoCollector.Text.cutAtChar_append`), and what stands in front
of a character that is not to be dropped (`RepoCollector.Text.trimWhere_cons_append`).  A character
that is neither dropped nor part of the tail is there as often afterwards as before.
-/

namespace RepoCollector.Text

theorem afterLead_eq_none_iff {lead cs : List Char} : afterLead lead cs = none ↔ ¬lead <+: cs := by
  rw [Option.eq_none_iff_forall_ne_some]
  simp only [ne_eq, afterLead_eq_some_iff]
  constructor
  · rintro absent ⟨rest, rfl⟩
    exact absent rest rfl
  · intro absent rest same
    exact absent ⟨rest, same.symm⟩

theorem cutAt_lead {mark : List Char} (rest : List Char) :
    cutAt mark (mark ++ rest) = some ([], rest) := by
  have leads : afterLead mark (mark ++ rest) = some rest := afterLead_eq_some_iff.mpr rfl
  cases text : mark ++ rest with
  | nil =>
      obtain ⟨rfl, rfl⟩ := List.append_eq_nil_iff.mp text
      rfl
  | cons c cs =>
      rw [text] at leads
      rw [cutAt, leads]

/-- Where a text is cut does not depend on what stands behind the mark. -/
theorem cutAt_append {mark cs before rest : List Char} (cut : cutAt mark cs = some (before, rest)) :
    cs = before ++ (mark ++ rest) ∧
      ∀ other, cutAt mark (before ++ (mark ++ other)) = some (before, other) := by
  induction cs generalizing before with
  | nil =>
      cases mark with
      | nil =>
          cases cut
          exact ⟨rfl, cutAt_lead⟩
      | cons => cases cut
  | cons c cs ih =>
      unfold cutAt at cut
      split at cut
      next found =>
        cases cut
        have whole := afterLead_eq_some_iff.mp found
        exact ⟨whole, cutAt_lead⟩
      next absent =>
        obtain ⟨⟨front, back⟩, found, same⟩ := Option.map_eq_some_iff.mp cut
        cases same
        obtain ⟨rfl, again⟩ := ih found
        refine ⟨rfl, fun other => ?_⟩
        -- the mark would have to begin, and so to end, before the end of the mark that was found
        have early : mark.length ≤ (c :: (front ++ mark)).length := by
          simp only [List.length_cons, List.length_append]
          omega
        have absent : afterLead mark (c :: (front ++ (mark ++ other))) = none := by
          rw [afterLead_eq_none_iff, ← List.append_assoc, ← List.cons_append,
            List.isPrefix_append_of_length early] at absent ⊢
          exact absent
        rw [List.cons_append, cutAt, absent, again other]
        rfl

theorem cutAtChar_append {mark : Char} {before : List Char} (absent : mark ∉ before)
    (rest : List Char) : cutAtChar mark (before ++ mark :: rest) = some (before, rest) := by
  induction before with
  | nil => exact if_pos rfl
  | cons c before ih =>
      obtain ⟨differs, absent⟩ := not_or.mp (mt List.mem_cons.mpr absent)
      rw [List.cons_append, cutAtChar, if_neg (Ne.symm differs), ih absent]
      rfl

/-- Up to the first character of a mark a text is of no interest. -/
theorem cutAt_append_of_not_mem {first : Char} {mark front : List Char} (absent : first ∉ front)
    (cs : List Char) : cutAt (first :: mark) (front ++ cs) =
      (cutAt (first :: mark) cs).map fun parts => (front ++ parts.1, parts.2) := by
  induction front with
  | nil => cases cut : cutAt (first :: mark) cs <;> exact cut
  | cons c front ih =>
      obtain ⟨differs, absent⟩ := not_or.mp (mt List.mem_cons.mpr absent)
      have unled : afterLead (first :: mark) (c :: (front ++ cs)) = none := if_neg differs
      rw [List.cons_append, cutAt, unled, ih absent, Option.map_map]
      rfl

theorem cutAt_eq_none_of_not_mem {first : Char} {mark cs : List Char} (absent : first ∉ cs) :
    cutAt (first :: mark) cs = none := by
  rw [← List.append_nil cs, cutAt_append_of_not_mem absent]
  rfl

theorem cutAtChar_eq_none_of_not_mem {mark : Char} {cs : List Char} (absent : mark ∉ cs) :
    cutAtChar mark cs = none := by
  cases cut : cutAtChar mark cs with
  | none => rfl
  | some parts =>
      obtain ⟨whole, _⟩ := eq_of_cutAtChar cut
      rw [whole] at absent
      exact absurd (List.mem_append_right _ List.mem_cons_self) absent

theorem pieces_eq_splitOn (mark : Char) (cs : List Char) : pieces mark cs = cs.splitOn mark := by
  induction cs with
  | nil => rfl
  | cons c cs ih =>
      rw [pieces, List.splitOn_cons_eq_if_modifyHead, ih]
      by_cases same : c = mark
      · rw [if_pos same, if_pos (beq_iff_eq.mpr same)]
      · rw [if_neg same, if_neg (mt beq_iff_eq.mp same)]
        cases rest : cs.splitOn mark with
        | nil => exact absurd (ih.trans rest) (pieces_ne_nil mark cs)
        | cons => rfl

theorem not_mem_of_mem_pieces {mark : Char} {cs piece : List Char}
    (member : piece ∈ pieces mark cs) : mark ∉ piece := by
  induction cs generalizing piece with
  | nil =>
      rw [pieces, List.mem_singleton] at member
      rw [member]
      exact List.not_mem_nil
  | cons c cs ih =>
      rw [pieces] at member
      split at member
      next =>
        obtain rfl | member := List.mem_cons.mp member
        · exact List.not_mem_nil
        · exact ih member
      next differs =>
        split at member
        next =>
          rw [List.mem_singleton.mp member, List.mem_singleton]
          exact Ne.symm differs
        next first rest cut =>
          obtain rfl | member := List.mem_cons.mp member
          · rw [List.mem_cons, not_or]
            exact ⟨Ne.symm differs, ih (cut ▸ List.mem_cons_self)⟩
          · exact ih (cut ▸ List.mem_cons_of_mem _ member)

theorem trimWhere_eq (drop : Char → Bool) (cs : List Char) :
    trimWhere drop cs = (cs.dropWhile drop).rdropWhile drop := rfl

theorem rdropWhile_append_cons {drop : Char → Bool} {c : Char} (kept : drop c = false)
    (front back : List Char) :
    (front ++ c :: back).rdropWhile drop = front ++ c :: back.rdropWhile drop := by
  have split : (front ++ c :: back).reverse = back.reverse ++ (c :: front.reverse) := by
    rw [List.reverse_append, List.reverse_cons, List.append_assoc, List.singleton_append]
  have stays : (c :: front.reverse).dropWhile drop = c :: front.reverse :=
    List.dropWhile_cons_of_neg (by rw [kept]; exact Bool.false_ne_true)
  rw [List.rdropWhile, List.rdropWhile, split, List.dropWhile_append]
  split
  next all =>
    rw [List.isEmpty_iff.mp all, stays, List.reverse_cons, List.reverse_reverse, List.reverse_nil]
  next =>
    rw [List.reverse_append, List.reverse_cons, List.reverse_reverse, List.append_assoc,
      List.singleton_append]

/-- Trimming stops at a character that stays. -/
theorem trimWhere_append_cons {drop : Char → Bool} {c : Char} (kept : drop c = false)
    (front back : List Char) : trimWhere drop (front ++ c :: back) =
      front.dropWhile drop ++ c :: back.rdropWhile drop := by
  have stays : (c :: back).dropWhile drop = c :: back :=
    List.dropWhile_cons_of_neg (by rw [kept]; exact Bool.false_ne_true)
  rw [trimWhere_eq, List.dropWhile_append, stays]
  split
  next all =>
    rw [List.isEmpty_iff.mp all, ← List.nil_append (c :: back), rdropWhile_append_cons kept]
  next => exact rdropWhile_append_cons kept _ _

/-- Trimming a text that begins and goes on with characters that stay. -/
theorem trimWhere_cons_append {drop : Char → Bool} {first last : Char} (leads : drop first = false)
    (stays : drop last = false) (front back : List Char) :
    trimWhere drop (first :: (front ++ last :: back)) =
      first :: (front ++ last :: back.rdropWhile drop) := by
  rw [← List.cons_append, trimWhere_append_cons stays,
    List.dropWhile_cons_of_neg (by rw [leads]; exact Bool.false_ne_true), List.cons_append]

theorem trimWhere_concat {drop : Char → Bool} {last : Char} (drops : drop last = true)
    (cs : List Char) : trimWhere drop (cs ++ [last]) = trimWhere drop cs := by
  rw [trimWhere_eq, trimWhere_eq, List.dropWhile_append]
  split
  next all =>
    rw [List.isEmpty_iff.mp all, List.dropWhile_cons_of_pos drops]
    rfl
  next => exact List.rdropWhile_concat_pos _ _ _ drops

/-- What is dropped at the end of a text is of no interest. -/
theorem rdropWhile_append_of_all {drop : Char → Bool} {tail : List Char}
    (all : ∀ c ∈ tail, drop c = true) (cs : List Char) :
    (cs ++ tail).rdropWhile drop = cs.rdropWhile drop := by
  rw [List.rdropWhile, List.reverse_append,
    List.dropWhile_append_of_pos fun c member => all c (List.mem_reverse.mp member)]
  rfl

theorem dropWhile_eq_self_of_none {drop : Char → Bool} {cs : List Char}
    (none : ∀ c ∈ cs, drop c = false) : cs.dropWhile drop = cs := by
  rw [List.dropWhile_eq_self_iff]
  intro filled
  rw [none _ (List.getElem_mem filled)]
  exact Bool.false_ne_true

theorem rdropWhile_eq_self_of_none {drop : Char → Bool} {cs : List Char}
    (none : ∀ c ∈ cs, drop c = false) : cs.rdropWhile drop = cs := by
  rw [List.rdropWhile_eq_self_iff]
  intro filled
  rw [none _ (List.getLast_mem filled)]
  exact Bool.false_ne_true

/-- Trimming a text that begins and ends with characters that stay, except for a tail that goes. -/
theorem trimWhere_append_of_all {drop : Char → Bool} {cs tail : List Char}
    (leads : ∀ c ∈ cs.head?, drop c = false) (stays : ∀ c ∈ cs.getLast?, drop c = false)
    (all : ∀ c ∈ tail, drop c = true) : trimWhere drop (cs ++ tail) = cs := by
  rw [trimWhere_eq]
  cases cs with
  | nil => rw [List.nil_append, List.dropWhile_eq_nil_iff.mpr all]; rfl
  | cons first cs =>
      have kept := leads first rfl
      rw [List.cons_append, List.dropWhile_cons_of_neg (by rw [kept]; exact Bool.false_ne_true),
        ← List.cons_append, rdropWhile_append_of_all all, List.rdropWhile_eq_self_iff]
      intro filled
      rw [stays _ (List.getLast?_eq_some_getLast filled)]
      exact Bool.false_ne_true

/-- A trimmed text stands in the text it was made from, between characters that went. -/
theorem exists_append_trimWhere (drop : Char → Bool) (cs : List Char) :
    ∃ lead trail, cs = lead ++ (trimWhere drop cs ++ trail) ∧
      (∀ c ∈ lead, drop c = true) ∧ ∀ c ∈ trail, drop c = true := by
  refine ⟨cs.takeWhile drop, (cs.dropWhile drop).rtakeWhile drop, ?_, ?_, ?_⟩
  · rw [trimWhere_eq, List.rdropWhile_append_rtakeWhile, List.takeWhile_append_dropWhile]
  · exact fun c member => List.mem_takeWhile_imp member
  · exact fun c member => List.mem_rtakeWhile_imp member

theorem withoutTail_prefix (tail cs : List Char) : withoutTail tail cs <+: cs := by
  unfold withoutTail
  split
  next rest cut =>
    have whole := congrArg List.reverse (afterLead_eq_some_iff.mp cut)
    rw [List.reverse_reverse, List.reverse_append, List.reverse_reverse] at whole
    exact ⟨tail, whole.symm⟩
  next => exact List.prefix_rfl

theorem withoutTail_append (tail cs : List Char) : withoutTail tail (cs ++ tail) = cs := by
  rw [withoutTail, List.reverse_append, afterLead_eq_some_iff.mpr rfl]
  exact List.reverse_reverse cs

theorem withoutTail_of_not_suffix {tail cs : List Char} (bare : ¬tail <:+ cs) :
    withoutTail tail cs = cs := by
  rw [withoutTail, afterLead_eq_none_iff.mpr (mt List.reverse_prefix.mp bare)]

/-- A tail does not reach over a character that it does not have. -/
theorem suffix_append_cons_iff {tail : List Char} {c : Char} (absent : c ∉ tail)
    (front back : List Char) : tail <:+ front ++ c :: back ↔ tail <:+ back := by
  constructor
  · intro ends
    obtain ends | longer :=
      List.suffix_or_suffix_of_suffix ends (List.suffix_append front (c :: back))
    · obtain rfl | ends := List.suffix_cons_iff.mp ends
      · exact absurd List.mem_cons_self absent
      · exact ends
    · exact absurd (longer.subset List.mem_cons_self) absent
  · intro ends
    exact List.suffix_append_of_suffix (ends.trans (List.suffix_cons c back))

/-! ## Counting -/

theorem count_dropWhile {drop : Char → Bool} {c : Char} (kept : drop c = false) (cs : List Char) :
    (cs.dropWhile drop).count c = cs.count c := by
  conv_rhs => rw [← List.takeWhile_append_dropWhile (p := drop) (l := cs), List.count_append]
  have absent : c ∉ cs.takeWhile drop := by
    intro member
    have dropped := List.mem_takeWhile_imp member
    rw [kept] at dropped
    cases dropped
  rw [List.count_eq_zero_of_not_mem absent, Nat.zero_add]

theorem count_rdropWhile {drop : Char → Bool} {c : Char} (kept : drop c = false) (cs : List Char) :
    (cs.rdropWhile drop).count c = cs.count c := by
  rw [List.rdropWhile, List.count_reverse, count_dropWhile kept, List.count_reverse]

theorem count_withoutTail {tail : List Char} {c : Char} (absent : c ∉ tail) (cs : List Char) :
    (withoutTail tail cs).count c = cs.count c := by
  unfold withoutTail
  split
  next rest cut =>
    have whole := congrArg (List.count c) (afterLead_eq_some_iff.mp cut)
    rw [List.count_append, List.count_reverse, List.count_reverse,
      List.count_eq_zero_of_not_mem absent, Nat.zero_add] at whole
    rw [List.count_reverse, whole]
  next => rfl

end RepoCollector.Text
