import Mathlib.Data.List.Basic

/-! # Sequences of moves

A system whose moves may not be possible in every state is played through a list of moves.  What
holds at the beginning and is kept by every move that is allowed holds after any sequence of allowed
moves (`RepoCollector.play_keeps`).  It may speak of the moves that were made so far as well
(`RepoCollector.play_follows`).
-/

namespace RepoCollector

variable {σ μ : Type*} {act : μ → σ → Option σ}

/-- Makes moves one after the other; none if one of them is not possible. -/
def play (act : μ → σ → Option σ) : List μ → σ → Option σ
  | [], state => some state
  | move :: moves, state => (act move state).bind (play act moves)

theorem play_cons {move : μ} {moves : List μ} {first last : σ}
    (played : play act (move :: moves) first = some last) :
    ∃ middle, act move first = some middle ∧ play act moves middle = some last :=
  Option.bind_eq_some_iff.mp played

theorem play_append {front back : List μ} {first last : σ}
    (played : play act (front ++ back) first = some last) :
    ∃ middle, play act front first = some middle ∧ play act back middle = some last := by
  induction front generalizing first with
  | nil => exact ⟨first, rfl, played⟩
  | cons move front ih =>
      obtain ⟨next, moved, rest⟩ := play_cons played
      obtain ⟨middle, before, after⟩ := ih rest
      exact ⟨middle, Option.bind_eq_some_iff.mpr ⟨next, moved, before⟩, after⟩

theorem play_append_of_play {front back : List μ} {first middle last : σ}
    (before : play act front first = some middle) (after : play act back middle = some last) :
    play act (front ++ back) first = some last := by
  induction front generalizing first with
  | nil =>
      cases before
      exact after
  | cons move front ih =>
      obtain ⟨next, moved, rest⟩ := play_cons before
      exact Option.bind_eq_some_iff.mpr ⟨next, moved, ih rest⟩

/-- **Invariants along a sequence of moves.** -/
theorem play_keeps {allowed : μ → Prop} {holds : σ → Prop}
    (kept : ∀ move first last, allowed move → holds first → act move first = some last → holds last)
    {moves : List μ} {first last : σ} (permitted : ∀ move ∈ moves, allowed move)
    (initial : holds first) (played : play act moves first = some last) : holds last := by
  induction moves generalizing first with
  | nil =>
      cases played
      exact initial
  | cons move moves ih =>
      obtain ⟨middle, moved, rest⟩ := play_cons played
      have next := kept move first middle (permitted move List.mem_cons_self) initial moved
      exact ih (fun later member => permitted later (List.mem_cons_of_mem _ member)) next rest

/-- **Invariants of the moves made so far.** -/
theorem play_follows {holds : List μ → σ → Prop}
    (kept : ∀ past move first last, holds past first → act move first = some last →
      holds (past ++ [move]) last)
    {moves : List μ} {first last : σ} (initial : holds [] first)
    (played : play act moves first = some last) : holds moves last := by
  suffices goesOn : ∀ past first, holds past first → play act moves first = some last →
      holds (past ++ moves) last from goesOn [] first initial played
  clear initial played first
  induction moves with
  | nil =>
      intro past first before played
      cases played
      rw [List.append_nil]
      exact before
  | cons move moves ih =>
      intro past first before played
      obtain ⟨middle, moved, rest⟩ := play_cons played
      rw [List.append_cons]
      exact ih (past ++ [move]) middle (kept past move first middle before moved) rest

end RepoCollector
