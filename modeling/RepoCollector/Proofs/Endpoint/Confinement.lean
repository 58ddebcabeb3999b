import RepoCollector.Proofs.Endpoint.Identifiers

/-! # Clones stay inside the library

Endpoints come from outside, and the path of a clone is made of one.  Where the path leads is what a
walk along it finds: `locate` goes down for a name, up for the two dots, stays for one dot and for
no name at all, and starts at the top for a path that begins with a slash.

For every root and every endpoint the walk to a clone is the walk to the root, then only down, by at
least two names (`RepoCollector.Endpoint.repositoryPath_descends`).  So no slash and no dots that
the cuts of the reader may uncover lead out of the library.
-/

namespace RepoCollector.Endpoint

/-- One step of a walk. -/
def enter (here : Place) (name : List Char) : Place :=
  if name = [] ∨ name = ['.'] then here
  else if name = ['.', '.'] then here.dropLast
  else here ++ [name]

/-- The place that a path leads to. -/
def locate (here : Place) (path : List Char) : Place :=
  (path.splitOn '/').foldl enter (if path.head? = some '/' then [] else here)

/-- A path that is taken from a directory.  A path that starts at the top does not depend on it. -/
def pathFrom (root path : List Char) : List Char :=
  if path.head? = some '/' then path
  else if root = [] ∨ root.getLast? = some '/' then root ++ path
  else root ++ '/' :: path

/-- A place that is reached by going down only, the place of a clone. -/
structure Descends (place : Place) : Prop where
  long : 2 ≤ place.length
  names : ∀ name ∈ place, name ≠ [] ∧ '/' ∉ name ∧ name ≠ ['.'] ∧ name ≠ ['.', '.']
  suffixed : ∀ last ∈ place.getLast?, gitSuffix <:+ last

theorem foldl_enter {names : List (List Char)}
    (sound : ∀ name ∈ names, name ≠ [] ∧ name ≠ ['.'] ∧ name ≠ ['.', '.']) (here : Place) :
    names.foldl enter here = here ++ names := by
  induction names generalizing here with
  | nil => exact (List.append_nil here).symm
  | cons name names ih =>
      obtain ⟨⟨filled, single, double⟩, sound⟩ := List.forall_mem_cons.mp sound
      have down : enter here name = here ++ [name] := by
        rw [enter, if_neg (not_or_intro filled single), if_neg double]
      rw [List.foldl_cons, down, ih sound, List.append_assoc, List.singleton_append]

namespace Descends

variable {place : Place}

theorem ne_nil (descends : Descends place) : place ≠ [] := by
  rintro rfl
  cases descends.long

theorem splitOn_joined (descends : Descends place) : (joined place).splitOn '/' = place := by
  have whole := pieces_joined descends.ne_nil fun name member => (descends.names name member).2.1
  rwa [Text.pieces_eq_splitOn] at whole

/-- The path starts with the first character of its first name. -/
theorem head?_joined (descends : Descends place) : (joined place).head? ≠ some '/' := by
  obtain ⟨name, rest, rfl⟩ := List.exists_cons_of_ne_nil descends.ne_nil
  obtain ⟨filled, absent, _⟩ := descends.names name List.mem_cons_self
  have more : rest ≠ [] := List.length_pos_iff.mp (Nat.le_of_succ_le_succ descends.long)
  obtain ⟨first, letters, rfl⟩ := List.exists_cons_of_ne_nil filled
  rw [joined_cons more, List.cons_append, List.head?_cons]
  rintro ⟨⟩
  exact absent List.mem_cons_self

theorem below_eq (descends : Descends place) (root : List Char) :
    below root place = pathFrom root (joined place) := by
  rw [below, pathFrom, if_neg descends.head?_joined]

/-- A walk to the place is a walk to the root, and then down. -/
theorem locate_below (descends : Descends place) (root : List Char) (here : Place) :
    locate here (below root place) = locate here root ++ place := by
  have down (here : Place) : place.foldl enter here = here ++ place :=
    foldl_enter (fun name member => by
      obtain ⟨filled, _, single, double⟩ := descends.names name member
      exact ⟨filled, single, double⟩) here
  rw [below]
  split
  next closed =>
    obtain rfl | ⟨front, last, rfl⟩ := root.eq_nil_or_concat'
    · rw [List.nil_append, locate, if_neg descends.head?_joined, descends.splitOn_joined, down]
      rfl
    · obtain none | ends := closed
      · cases List.append_ne_nil_of_right_ne_nil _ (List.cons_ne_nil _ _) none
      rw [List.getLast?_concat] at ends
      cases ends
      -- the slash at the end of the root makes an empty name, for which the walk stays
      have stays (here : Place) : enter here [] = here := if_pos (.inl rfl)
      rw [locate, locate, List.append_assoc, List.singleton_append, List.splitOn_append_cons_self,
        List.splitOn_append_cons_self, descends.splitOn_joined, List.foldl_append, down,
        List.foldl_append, List.splitOn_nil, List.foldl_cons, List.foldl_nil, stays]
      cases front <;> rfl
  next opened =>
    obtain ⟨first, rest, rfl⟩ := List.exists_cons_of_ne_nil (not_or.mp opened).1
    rw [locate, List.splitOn_append_cons_self, descends.splitOn_joined, List.foldl_append, down]
    rfl

end Descends

theorem descends_clonePath {segments : List (List Char)} (long : 2 ≤ segments.length)
    (plain : ∀ segment ∈ segments, '/' ∉ segment)
    (sound : ∀ segment ∈ segments, isSegment segment = true) :
    Descends (clonePath segments) ∧ joined (clonePath segments) = joined segments ++ gitSuffix := by
  obtain rfl | ⟨front, last, rfl⟩ := segments.eq_nil_or_concat'
  · cases long
  rw [clonePath_concat]
  have filled (segment : List Char) (member : segment ∈ front ++ [last]) :
      segment ≠ [] ∧ segment ≠ ['.'] ∧ segment ≠ ['.', '.'] :=
    of_decide_eq_true (sound segment member)
  have ending : last ∈ front ++ [last] := List.mem_append_right _ List.mem_cons_self
  have more : front ≠ [] := by
    rintro rfl
    exact absurd long (Nat.not_succ_le_self 1)
  constructor
  · refine ⟨?_, ?_, ?_⟩
    · rwa [List.length_append] at long ⊢
    · intro name member
      obtain member | member := List.mem_append.mp member
      · have member := List.mem_append_left [last] member
        obtain ⟨some, single, double⟩ := filled name member
        exact ⟨some, plain name member, single, double⟩
      · obtain rfl := List.mem_singleton.mp member
        have longer : 4 < (last ++ gitSuffix).length := by
          rw [List.length_append]
          exact Nat.lt_add_of_pos_left (List.length_pos_iff.mpr (filled last ending).1)
        refine ⟨?_, ?_, ?_, ?_⟩
        · exact List.append_ne_nil_of_left_ne_nil (filled last ending).1 _
        · rw [List.mem_append]
          exact not_or_intro (plain last ending) (by decide)
        · intro short
          rw [short] at longer
          exact absurd longer (by decide)
        · intro short
          rw [short] at longer
          exact absurd longer (by decide)
    · intro name member
      rw [List.getLast?_concat] at member
      cases member
      exact List.suffix_append last gitSuffix
  · rw [joined_concat more, joined_concat more, List.append_assoc, List.cons_append]

/-- **Clones stay inside the library.**  The path of a clone leads from the root down by at least
two names, whatever the endpoint is, and it is the path of the identifier with the suffix of clones.
An endpoint that names no repository has no path, and is handed back as it was given. -/
theorem repositoryPath_descends (root endpoint : String) :
    (∀ path, repositoryPath root endpoint = .ok path → ∃ place id,
      Descends place ∧ path.toList = below root.toList place ∧
      (joined place).head? ≠ some '/' ∧
      (∀ here, locate here path.toList = locate here root.toList ++ place) ∧
      repositoryId endpoint = .ok id ∧ joined place = id.toList ++ gitSuffix ∧
      path.toList = pathFrom root.toList (id.toList ++ gitSuffix)) ∧
    ∀ error, repositoryId endpoint = .error error →
      error = .invalidEndpoint endpoint ∧ repositoryPath root endpoint = .error error := by
  cases found : segments? endpoint.toList with
  | none =>
      have refused : repositoryPath root endpoint = .error (.invalidEndpoint endpoint) := by
        rw [repositoryPath, clonePath?, found]
      constructor
      · intro path placed
        rw [refused] at placed
        cases placed
      · intro error unnamed
        rw [repositoryId, found] at unnamed
        cases unnamed
        exact ⟨rfl, refused⟩
  | some segments =>
      obtain ⟨whole, long, sound⟩ := segments?_eq_some found
      have plain : ∀ segment ∈ segments, '/' ∉ segment := by
        intro segment member
        rw [whole] at member
        exact Text.not_mem_of_mem_pieces member
      obtain ⟨descends, suffixed⟩ := descends_clonePath long plain sound
      have named : repositoryId endpoint = .ok (String.ofList (joined segments)) :=
        repositoryId_eq_ok_iff.mpr ⟨segments, found, rfl⟩
      constructor
      · intro path placed
        rw [repositoryPath, clonePath?_eq found] at placed
        cases placed
        rw [String.toList_ofList]
        refine ⟨clonePath segments, _, descends, rfl, descends.head?_joined, ?_, named, ?_, ?_⟩
        · exact descends.locate_below root.toList
        · rw [String.toList_ofList, suffixed]
        · rw [String.toList_ofList, ← suffixed, descends.below_eq]
      · intro error unnamed
        rw [named] at unnamed
        cases unnamed

theorem repositoryPath_descends_user :
    (repositoryPath "/var/lib" " https://me@h.org/r.git// " = .ok "/var/lib/h.org/r.git" ∧
      ∃ place, Descends place ∧
        locate [] "/var/lib/h.org/r.git".toList = ["var".toList, "lib".toList] ++ place) ∧
    repositoryId "https://h.org/../r" = .error (.invalidEndpoint "https://h.org/../r") ∧
      repositoryPath "/var/lib" "https://h.org/../r" =
        .error (.invalidEndpoint "https://h.org/../r") := by
  have placed : repositoryPath "/var/lib" " https://me@h.org/r.git// " =
      .ok "/var/lib/h.org/r.git" := by cbv
  have unnamed : repositoryId "https://h.org/../r" =
      .error (.invalidEndpoint "https://h.org/../r") := by cbv
  obtain ⟨place, _, descends, _, _, walk, _⟩ := (repositoryPath_descends _ _).1 _ placed
  obtain ⟨_, refused⟩ := (repositoryPath_descends "/var/lib" _).2 _ unnamed
  exact ⟨⟨placed, place, descends, walk []⟩, unnamed, refused⟩

end RepoCollector.Endpoint
