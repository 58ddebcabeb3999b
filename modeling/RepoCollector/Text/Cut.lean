/-!
# Cutting texts

Functions that cut a text at a separator.  Texts are lists of characters here, because every reader
of endpoints, headers and arguments works from the left and by cases on the next character.
-/

namespace RepoCollector.Text

/-- The text after `lead`, if the text starts with it. -/
def afterLead : List Char → List Char → Option (List Char)
  | [], cs => some cs
  | _ :: _, [] => none
  | p :: ps, c :: cs => if p = c then afterLead ps cs else none

/-- Cuts a text at the first place where `mark` stands, and drops the mark. -/
def cutAt (mark : List Char) : List Char → Option (List Char × List Char)
  | [] => if mark.isEmpty then some ([], []) else none
  | c :: cs =>
    match afterLead mark (c :: cs) with
    | some rest => some ([], rest)
    | none => (cutAt mark cs).map fun (before, rest) => (c :: before, rest)

/-- Cuts a text at the first occurrence of a character, and drops that character. -/
def cutAtChar (mark : Char) : List Char → Option (List Char × List Char)
  | [] => none
  | c :: cs =>
    if c = mark then some ([], cs)
    else (cutAtChar mark cs).map fun (before, rest) => (c :: before, rest)

/-- The pieces between the occurrences of a character.  There is always at least one piece. -/
def pieces (mark : Char) : List Char → List (List Char)
  | [] => [[]]
  | c :: cs =>
    if c = mark then [] :: pieces mark cs
    else
      match pieces mark cs with
      | [] => [[c]]
      | piece :: rest => (c :: piece) :: rest

/-- A text without `tail` at its end, or the text itself if it does not end in it. -/
def withoutTail (tail cs : List Char) : List Char :=
  match afterLead tail.reverse cs.reverse with
  | some rest => rest.reverse
  | none => cs

theorem afterLead_eq_some_iff {lead cs rest : List Char} :
    afterLead lead cs = some rest ↔ cs = lead ++ rest := by
  induction lead generalizing cs with
  | nil => simp [afterLead, eq_comm]
  | cons p ps ih =>
    cases cs with
    | nil => simp [afterLead]
    | cons c cs =>
      by_cases same : p = c
      · simp [afterLead, same, ih]
      · simp [afterLead, same, Ne.symm same]

theorem eq_of_cutAtChar {mark : Char} {cs before rest : List Char}
    (cut : cutAtChar mark cs = some (before, rest)) :
    cs = before ++ mark :: rest ∧ mark ∉ before := by
  induction cs generalizing before with
  | nil => simp [cutAtChar] at cut
  | cons c cs ih =>
    by_cases same : c = mark
    · simp only [cutAtChar, same, ↓reduceIte, Option.some.injEq, Prod.mk.injEq] at cut
      obtain ⟨rfl, rfl⟩ := cut
      simp [same]
    · simp only [cutAtChar, same, ↓reduceIte, Option.map_eq_some_iff, Prod.mk.injEq] at cut
      obtain ⟨⟨front, back⟩, found, rfl, rfl⟩ := cut
      obtain ⟨whole, absent⟩ := ih found
      exact ⟨by simp [whole], by simp [absent, Ne.symm same]⟩

theorem pieces_ne_nil (mark : Char) (cs : List Char) : pieces mark cs ≠ [] := by
  cases cs with
  | nil => simp [pieces]
  | cons c cs =>
    by_cases same : c = mark
    · simp [pieces, same]
    · simp only [pieces, same, ↓reduceIte]
      split <;> simp

end RepoCollector.Text
