import RepoCollector.Library.Files
import RepoCollector.Proofs.Text

/-! # Identifiers and the places of clones

An identifier tells the segments that it was joined from
(`RepoCollector.Endpoint.segments?_eq_some`), so endpoints have one identifier exactly when their
clones have one place (`RepoCollector.Endpoint.IsPlain.placeOf_eq_iff`).  The place of a clone ends
in a name with the extension of clones.  It counts as a clone only if no other segment has that
extension: `IsPlain`.
-/

namespace RepoCollector.Endpoint

/-- The repository that is named by a URL without its scheme and its user. -/
def named? (rest : List Char) : Option (List (List Char)) :=
  let path := Text.withoutTail gitSuffix (Text.trimWhere (· = '/') rest)
  let segments := Text.pieces '/' path
  if segments.length ≥ 2 ∧ segments.all isSegment then some segments else none

theorem segments?_eq (endpoint : List Char) : segments? endpoint =
    (withoutScheme? (Text.trim endpoint)).bind fun rest => named? (withoutUser rest) := by
  rw [segments?]
  cases withoutScheme? (Text.trim endpoint) <;> rfl

theorem cutAt_schemeMark {scheme : List Char} (absent : ':' ∉ scheme) (rest : List Char) :
    Text.cutAt schemeMark (scheme ++ (schemeMark ++ rest)) = some (scheme, rest) := by
  rw [schemeMark, Text.cutAt_append_of_not_mem absent, ← schemeMark, Text.cutAt_lead,
    Option.map_some, List.append_nil]

theorem joined_pieces (path : List Char) : joined (Text.pieces '/' path) = path := by
  rw [joined, Text.pieces_eq_splitOn, List.intercalate_splitOn]

theorem joined_cons {segments : List (List Char)} (more : segments ≠ []) (first : List Char) :
    joined (first :: segments) = first ++ '/' :: joined segments := by
  rw [joined, List.intercalate_cons_of_ne_nil more, List.append_assoc]
  rfl

theorem joined_concat {segments : List (List Char)} (more : segments ≠ []) (last : List Char) :
    joined (segments ++ [last]) = joined segments ++ '/' :: last := by
  induction segments with
  | nil => exact absurd rfl more
  | cons first segments ih =>
      by_cases nil : segments = []
      · subst nil
        simp [joined]
      · rw [List.cons_append, joined_cons (List.append_ne_nil_of_left_ne_nil nil _), ih nil,
          joined_cons nil, List.append_assoc, List.cons_append]

theorem mem_joined {c : Char} {segments : List (List Char)} (member : c ∈ joined segments) :
    c = '/' ∨ ∃ segment ∈ segments, c ∈ segment := by
  induction segments with
  | nil => cases member
  | cons first segments ih =>
      by_cases nil : segments = []
      · subst nil
        refine Or.inr ⟨first, List.mem_cons_self, ?_⟩
        rwa [joined, List.intercalate_singleton] at member
      · rw [joined_cons nil, List.mem_append, List.mem_cons] at member
        obtain member | rfl | member := member
        · exact Or.inr ⟨first, List.mem_cons_self, member⟩
        · exact Or.inl rfl
        · refine (ih member).imp_right ?_
          rintro ⟨segment, among, member⟩
          exact ⟨segment, List.mem_cons_of_mem _ among, member⟩

theorem pieces_joined {segments : List (List Char)} (some : segments ≠ [])
    (plain : ∀ segment ∈ segments, '/' ∉ segment) :
    Text.pieces '/' (joined segments) = segments := by
  rw [Text.pieces_eq_splitOn, joined, List.splitOn_intercalate _ plain some]

theorem named?_eq_some {rest : List Char} {segments : List (List Char)}
    (found : named? rest = some segments) :
    joined segments = Text.withoutTail gitSuffix (Text.trimWhere (· = '/') rest) ∧
      segments = Text.pieces '/' (joined segments) ∧ 2 ≤ segments.length ∧
      ∀ segment ∈ segments, isSegment segment = true := by
  dsimp only [named?] at found
  split at found
  next sound =>
    cases found
    rw [joined_pieces]
    exact ⟨rfl, rfl, sound.1, List.all_eq_true.mp sound.2⟩
  next => cases found

theorem segments?_eq_some {endpoint : List Char} {segments : List (List Char)}
    (found : segments? endpoint = some segments) :
    segments = Text.pieces '/' (joined segments) ∧ 2 ≤ segments.length ∧
      ∀ segment ∈ segments, isSegment segment = true := by
  rw [segments?_eq] at found
  obtain ⟨rest, _, named⟩ := Option.bind_eq_some_iff.mp found
  exact (named?_eq_some named).2

theorem repositoryId_eq_ok_iff {endpoint id : String} : repositoryId endpoint = .ok id ↔
    ∃ segments, segments? endpoint.toList = some segments ∧
      String.ofList (joined segments) = id := by
  unfold repositoryId
  split
  next segments found =>
    rw [found]
    constructor
    · rintro ⟨⟩
      exact ⟨segments, rfl, rfl⟩
    · rintro ⟨_, ⟨⟩, rfl⟩
      rfl
  next absent =>
    rw [absent]
    constructor
    · rintro ⟨⟩
    · rintro ⟨_, ⟨⟩, _⟩

/-! ## Places -/

/-- The identifier of the repository that an endpoint names, if it names one. -/
def idOf (endpoint : String) : Option String := (repositoryId endpoint).toOption

/-- The place of the clone for an endpoint that names a repository. -/
def placeOf (endpoint : String) : Place := (clonePath? endpoint).toOption.getD []

/-- The endpoint names a repository, and only the last one of its segments may look like the name of
a clone. -/
def IsPlain (endpoint : String) : Prop :=
  ∃ segments, segments? endpoint.toList = some segments ∧
    ∀ segment ∈ segments.dropLast, Files.isCloneName segment = false

theorem idOf_eq {endpoint : String} {segments : List (List Char)}
    (found : segments? endpoint.toList = some segments) :
    idOf endpoint = some (String.ofList (joined segments)) := by
  rw [idOf, repositoryId_eq_ok_iff.mpr ⟨segments, found, rfl⟩]
  rfl

theorem clonePath?_eq {endpoint : String} {segments : List (List Char)}
    (found : segments? endpoint.toList = some segments) :
    clonePath? endpoint = .ok (clonePath segments) := by
  rw [clonePath?, found]

theorem placeOf_eq {endpoint : String} {segments : List (List Char)}
    (found : segments? endpoint.toList = some segments) :
    placeOf endpoint = clonePath segments := by
  rw [placeOf, clonePath?_eq found]
  rfl

theorem clonePath_concat (front : List (List Char)) (last : List Char) :
    clonePath (front ++ [last]) = front ++ [last ++ gitSuffix] := by
  rw [clonePath, List.dropLast_concat, List.getLast?_concat]
  rfl

theorem isCloneName_append_gitSuffix {name : List Char} (filled : name ≠ []) :
    Files.isCloneName (name ++ gitSuffix) = true := by
  rw [Files.isCloneName, List.isSuffixOf_iff_suffix.mpr (List.suffix_append _ _),
    List.length_append, Bool.true_and, decide_eq_true_eq]
  exact Nat.lt_add_of_pos_left (List.length_pos_iff.mpr filled)

/-- A clone has a name with the extension of clones. -/
theorem clonePath?_eq_ok {endpoint : String} {place : Place}
    (named : clonePath? endpoint = .ok place) :
    ∃ front name, place = front ++ [name] ∧ Files.isCloneName name = true := by
  unfold clonePath? at named
  split at named
  next segments found =>
    cases named
    obtain ⟨_, long, sound⟩ := segments?_eq_some found
    obtain rfl | ⟨front, last, rfl⟩ := segments.eq_nil_or_concat'
    · cases long
    have filled : last ≠ [] := by
      rintro rfl
      cases sound [] (List.mem_append_right _ List.mem_cons_self)
    exact ⟨front, last ++ gitSuffix, clonePath_concat front last,
      isCloneName_append_gitSuffix filled⟩
  next => cases named

/-- Endpoints have one identifier exactly when their clones have one place. -/
theorem IsPlain.placeOf_eq_iff {endpoint other : String} (plain : IsPlain endpoint)
    (otherPlain : IsPlain other) :
    placeOf endpoint = placeOf other ↔ idOf endpoint = idOf other := by
  obtain ⟨segments, found, _⟩ := plain
  obtain ⟨others, otherFound, _⟩ := otherPlain
  obtain ⟨pieces, long, _⟩ := segments?_eq_some found
  obtain ⟨otherPieces, otherLong, _⟩ := segments?_eq_some otherFound
  rw [placeOf_eq found, placeOf_eq otherFound, idOf_eq found, idOf_eq otherFound]
  constructor
  · intro same
    obtain rfl | ⟨front, last, rfl⟩ := segments.eq_nil_or_concat'
    · cases long
    obtain rfl | ⟨otherFront, otherLast, rfl⟩ := others.eq_nil_or_concat'
    · cases otherLong
    rw [clonePath_concat, clonePath_concat] at same
    obtain ⟨rfl, ends⟩ := List.append_inj' same rfl
    injection ends with ends
    rw [List.append_cancel_right ends]
  · intro same
    injection same with same
    rw [pieces, String.ofList_injective same, ← otherPieces]

theorem IsPlain.clonePath?_eq {endpoint : String} (plain : IsPlain endpoint) :
    clonePath? endpoint = .ok (placeOf endpoint) := by
  obtain ⟨segments, found, _⟩ := plain
  rw [placeOf_eq found, Endpoint.clonePath?_eq found]

theorem IsPlain.isClonePlace {endpoint : String} (plain : IsPlain endpoint) :
    Files.isClonePlace (placeOf endpoint) = true := by
  obtain ⟨segments, found, bare⟩ := plain
  obtain ⟨_, long, sound⟩ := segments?_eq_some found
  rw [placeOf_eq found]
  obtain rfl | ⟨front, last, rfl⟩ := segments.eq_nil_or_concat'
  · cases long
  rw [List.dropLast_concat] at bare
  have named : last ≠ [] := by
    rintro rfl
    cases sound [] (List.mem_append_right _ List.mem_cons_self)
  rw [clonePath_concat, Files.isClonePlace, List.getLast?_concat, List.dropLast_concat]
  have ends := isCloneName_append_gitSuffix named
  have clear : front.any Files.isCloneName = false := List.any_eq_false.mpr (by simpa using bare)
  rw [Option.any_some, ends, clear]
  rfl

end RepoCollector.Endpoint
