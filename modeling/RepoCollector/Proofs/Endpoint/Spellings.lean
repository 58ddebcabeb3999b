import RepoCollector.Proofs.Endpoint.Identifiers

/-! # The spellings of a repository

A repository may be written down with a scheme or in the short form, with and without a user, with
and without the suffix of clones, with slashes behind it and blanks around it.  `Spelling.text` is
the text of a spelling, and reading it gives the host and the path, unless the host is one of the
two names that no segment may have (`RepoCollector.Endpoint.Spelling.IsClear.segments?_text`).  So
all spellings of a repository give one identifier (`RepoCollector.Endpoint.Spelling.all_give_id`).

The reader takes a text apart from the outside to the inside, and so does the proof: there is one
lemma for each cut, saying that the cut takes away what the spelling has put there and nothing else.
-/

namespace RepoCollector.Endpoint

theorem withoutScheme?_scheme {scheme : List Char} (absent : ':' ∉ scheme) (rest : List Char) :
    withoutScheme? (scheme ++ (schemeMark ++ rest)) = some rest := by
  rw [withoutScheme?, cutAt_schemeMark absent]

/-- In the short form the one colon is not followed by a slash. -/
theorem withoutScheme?_short {site rest : List Char} {first : Char}
    (plain : ∀ c ∈ site, c ≠ '/' ∧ c ≠ ':') (absent : ':' ∉ first :: rest) (differs : first ≠ '/') :
    withoutScheme? (site ++ ':' :: first :: rest) = some (site ++ '/' :: first :: rest) := by
  have colon : ':' ∉ site := fun member => (plain _ member).2 rfl
  have slash : '/' ∉ site := fun member => (plain _ member).1 rfl
  have unled : Text.afterLead schemeMark (':' :: first :: rest) = none := by
    rw [schemeMark, Text.afterLead, if_pos rfl, Text.afterLead, if_neg (Ne.symm differs)]
  have uncut : Text.cutAt schemeMark (site ++ ':' :: first :: rest) = none := by
    rw [schemeMark, Text.cutAt_append_of_not_mem colon, ← schemeMark, Text.cutAt, unled,
      schemeMark, Text.cutAt_eq_none_of_not_mem absent]
    rfl
  rw [withoutScheme?, uncut, Text.cutAtChar_append colon]
  exact if_neg slash

/-- A word has no character that could be taken for a part of the notation. -/
structure IsWord (word : List Char) : Prop where
  filled : word ≠ []
  plain : ∀ c ∈ word, c ≠ '/' ∧ c ≠ ':' ∧ c ≠ '@' ∧ Text.isBlank c = false

theorem isWord_iff {word : List Char} : IsWord word ↔ word ≠ [] ∧
    word.all (fun c => decide (c ≠ '/' ∧ c ≠ ':' ∧ c ≠ '@' ∧ Text.isBlank c = false)) = true := by
  simp only [List.all_eq_true, decide_eq_true_eq]
  constructor
  · intro isWord
    exact ⟨isWord.filled, isWord.plain⟩
  · intro isWord
    exact ⟨isWord.1, isWord.2⟩

instance : DecidablePred IsWord :=
  fun _ => decidable_of_iff' _ isWord_iff

/-- A way to write a repository down. -/
structure Spelling where
  /-- The short form has no scheme. -/
  scheme : Option (List Char) := none
  user : Option (List Char) := none
  host : List Char
  path : List (List Char)
  /-- Whether the suffix of clones is written. -/
  suffixed : Bool := false
  slashes : Nat := 0
  before : List Char := []
  behind : List Char := []

namespace Spelling

/-- The user and the host. -/
def site (spelling : Spelling) : List Char :=
  match spelling.user with
  | some user => user ++ '@' :: spelling.host
  | none => spelling.host

/-- The path as it is written. -/
def trail (spelling : Spelling) : List Char :=
  joined spelling.path ++ (if spelling.suffixed then gitSuffix else []) ++
    List.replicate spelling.slashes '/'

/-- The spelling without the blanks around it. -/
def body (spelling : Spelling) : List Char :=
  match spelling.scheme with
  | some scheme => scheme ++ (schemeMark ++ (spelling.site ++ '/' :: spelling.trail))
  | none => spelling.site ++ ':' :: spelling.trail

def text (spelling : Spelling) : List Char :=
  spelling.before ++ (spelling.body ++ spelling.behind)

/-- The endpoint that is written down. -/
def endpoint (spelling : Spelling) : String := String.ofList spelling.text

/-- The host and the path, with slashes between them. -/
def id (spelling : Spelling) : String := String.ofList (joined (spelling.host :: spelling.path))

/-- The parts of the spelling can be told apart. -/
structure IsClear (spelling : Spelling) : Prop where
  /-- So it is with every scheme made of letters. -/
  scheme : ∀ scheme ∈ spelling.scheme, ':' ∉ scheme
  user : ∀ user ∈ spelling.user, IsWord user
  host : IsWord spelling.host
  path : spelling.path ≠ []
  segments : ∀ segment ∈ spelling.path,
    IsWord segment ∧ segment ≠ ['.'] ∧ segment ≠ ['.', '.']
  bare : ∀ last ∈ spelling.path.getLast?, ¬gitSuffix <:+ last
  blank : ∀ c ∈ spelling.before ++ spelling.behind, Text.isBlank c = true

variable {spelling : Spelling}

theorem IsClear.of_mem_site (clear : spelling.IsClear) {c : Char} (member : c ∈ spelling.site) :
    c ≠ '/' ∧ c ≠ ':' ∧ Text.isBlank c = false := by
  have plain {word : List Char} (isWord : IsWord word) (member : c ∈ word) :
      c ≠ '/' ∧ c ≠ ':' ∧ Text.isBlank c = false := by
    obtain ⟨slash, colon, _, blank⟩ := isWord.plain c member
    exact ⟨slash, colon, blank⟩
  unfold site at member
  split at member
  next user named =>
    rw [List.mem_append, List.mem_cons] at member
    obtain member | rfl | member := member
    · exact plain (clear.user user named) member
    · decide
    · exact plain clear.host member
  next => exact plain clear.host member

theorem IsClear.of_mem_trail (clear : spelling.IsClear) {c : Char} (member : c ∈ spelling.trail) :
    c ≠ ':' ∧ c ≠ '@' ∧ Text.isBlank c = false := by
  rw [trail, List.mem_append, List.mem_append] at member
  obtain (member | member) | member := member
  · obtain rfl | ⟨segment, among, member⟩ := mem_joined member
    · decide
    · exact ((clear.segments segment among).1.plain c member).2
  · split at member
    · exact ((by decide : IsWord gitSuffix).plain c member).2
    · cases member
  · rw [List.eq_of_mem_replicate member]
    decide

/-- The path begins with a character of its first segment. -/
theorem IsClear.trail_eq_cons (clear : spelling.IsClear) :
    ∃ first rest, spelling.trail = first :: rest ∧ first ≠ '/' := by
  cases path : spelling.path with
  | nil => exact absurd path clear.path
  | cons segment path' =>
      have word := (clear.segments segment (path ▸ List.mem_cons_self)).1
      cases segment with
      | nil => exact absurd rfl word.filled
      | cons first rest =>
          have plain := (word.plain first List.mem_cons_self).1
          rw [trail, path]
          by_cases nil : path' = []
          · subst nil
            exact ⟨first, _, rfl, plain⟩
          · rw [joined_cons nil]
            exact ⟨first, _, rfl, plain⟩

/-! ## Cut by cut -/

/-- The blanks go, and the end of the scheme or else the colon of the short form is found. -/
theorem IsClear.withoutScheme?_trim (clear : spelling.IsClear) :
    withoutScheme? (Text.trim spelling.text) = some (spelling.site ++ '/' :: spelling.trail) := by
  have before : ∀ c ∈ spelling.before, Text.isBlank c = true :=
    fun c member => clear.blank c (List.mem_append_left _ member)
  have behind : ∀ c ∈ spelling.behind, Text.isBlank c = true :=
    fun c member => clear.blank c (List.mem_append_right _ member)
  -- a text with a colon in it is trimmed on each side of the colon
  have trimmed (front back : List Char) (kept : ∀ c ∈ back, Text.isBlank c = false) :
      Text.trim (spelling.before ++ ((front ++ ':' :: back) ++ spelling.behind)) =
        front.dropWhile Text.isBlank ++ ':' :: back := by
    rw [Text.trim, List.append_assoc, ← List.append_assoc, List.cons_append,
      Text.trimWhere_append_cons (by decide), List.dropWhile_append_of_pos before,
      Text.rdropWhile_append_of_all behind, Text.rdropWhile_eq_self_of_none kept]
  rw [text, body]
  split
  next scheme schemed =>
    have kept : ∀ c ∈ '/' :: '/' :: (spelling.site ++ '/' :: spelling.trail),
        Text.isBlank c = false := by
      simp only [List.mem_cons, List.mem_append]
      rintro c (rfl | rfl | member | rfl | member)
      · decide
      · decide
      · exact (clear.of_mem_site member).2.2
      · decide
      · exact (clear.of_mem_trail member).2.2
    have absent : ':' ∉ scheme.dropWhile Text.isBlank :=
      fun member => clear.scheme scheme schemed (List.dropWhile_subset _ member)
    exact (congrArg withoutScheme? (trimmed scheme _ kept)).trans (withoutScheme?_scheme absent _)
  next =>
    have kept : ∀ c ∈ spelling.trail, Text.isBlank c = false :=
      fun c member => (clear.of_mem_trail member).2.2
    have site : spelling.site.dropWhile Text.isBlank = spelling.site :=
      Text.dropWhile_eq_self_of_none fun c member => (clear.of_mem_site member).2.2
    have plain : ∀ c ∈ spelling.site, c ≠ '/' ∧ c ≠ ':' := fun c member =>
      ⟨(clear.of_mem_site member).1, (clear.of_mem_site member).2.1⟩
    obtain ⟨first, rest, trail, differs⟩ := clear.trail_eq_cons
    have colon : ':' ∉ first :: rest := fun member => (clear.of_mem_trail (trail ▸ member)).1 rfl
    rw [trimmed _ _ kept, site, trail]
    exact withoutScheme?_short plain colon differs

/-- The user goes. -/
theorem IsClear.withoutUser_site (clear : spelling.IsClear) :
    withoutUser (spelling.site ++ '/' :: spelling.trail) =
      spelling.host ++ '/' :: spelling.trail := by
  have plain : '@' ∉ spelling.host ++ '/' :: spelling.trail := by
    rw [List.mem_append, List.mem_cons]
    rintro (member | differs | member)
    · exact (clear.host.plain _ member).2.2.1 rfl
    · exact absurd differs (by decide)
    · exact (clear.of_mem_trail member).2.1 rfl
  unfold site
  split
  next user named =>
    have word := clear.user user named
    have absent : '@' ∉ user := fun member => (word.plain _ member).2.2.1 rfl
    have slash : '/' ∉ user := fun member => (word.plain _ member).1 rfl
    rw [withoutUser, List.append_assoc, List.cons_append, Text.cutAtChar_append absent]
    exact if_neg slash
  next => rw [withoutUser, Text.cutAtChar_eq_none_of_not_mem plain]

/-- The slashes and the suffix behind the path go. -/
theorem IsClear.withoutTail_trail (clear : spelling.IsClear) :
    Text.withoutTail gitSuffix (Text.trimWhere (· = '/') (spelling.host ++ '/' :: spelling.trail)) =
      joined (spelling.host :: spelling.path) := by
  obtain nil | ⟨front, last, path⟩ := spelling.path.eq_nil_or_concat'
  · exact absurd nil clear.path
  have word := (clear.segments last (path ▸ List.mem_append_right _ List.mem_cons_self)).1
  have ending : joined (spelling.host :: spelling.path) =
      joined (spelling.host :: front) ++ '/' :: last := by
    rw [path, ← List.cons_append, joined_concat (List.cons_ne_nil _ _)]
  -- the last name of the path, as it is written
  have name : ∀ c ∈ last ++ (if spelling.suffixed then gitSuffix else []), c ≠ '/' := by
    intro c member
    obtain member | member := List.mem_append.mp member
    · exact (word.plain c member).1
    · split at member
      · exact ((by decide : IsWord gitSuffix).plain c member).1
      · cases member
  have trimmed : Text.trimWhere (· = '/') (spelling.host ++ '/' :: spelling.trail) =
      joined (spelling.host :: spelling.path) ++ (if spelling.suffixed then gitSuffix else []) := by
    rw [trail, ← List.cons_append, ← List.cons_append, ← List.append_assoc, ← List.append_assoc,
      ← joined_cons clear.path]
    refine Text.trimWhere_append_of_all ?_ ?_ ?_
    · obtain ⟨first, rest, host⟩ := List.exists_cons_of_ne_nil clear.host.filled
      rw [joined_cons clear.path, host]
      rintro c ⟨⟩
      have plain := (clear.host.plain first (host ▸ List.mem_cons_self)).1
      exact decide_eq_false plain
    · intro c member
      rw [ending, List.append_assoc, List.cons_append, List.append_cons,
        List.getLast?_append_of_ne_nil _ (List.append_ne_nil_of_left_ne_nil word.filled _)]
        at member
      exact decide_eq_false (name c (List.mem_of_getLast? member))
    · intro c member
      exact decide_eq_true (List.eq_of_mem_replicate member)
  rw [trimmed]
  split
  · exact Text.withoutTail_append _ _
  · have bare := clear.bare last (by rw [path, List.getLast?_concat]; rfl)
    rw [List.append_nil, ending]
    exact Text.withoutTail_of_not_suffix
      (mt (Text.suffix_append_cons_iff (by decide) _ _).mp bare)

/-- What is left is the host and the path. -/
theorem IsClear.named?_trail (clear : spelling.IsClear) :
    named? (spelling.host ++ '/' :: spelling.trail) =
      if isSegment spelling.host then some (spelling.host :: spelling.path) else none := by
  have words : ∀ segment ∈ spelling.host :: spelling.path, IsWord segment :=
    List.forall_mem_cons.mpr ⟨clear.host, fun segment member => (clear.segments segment member).1⟩
  have whole : Text.pieces '/' (joined (spelling.host :: spelling.path)) =
      spelling.host :: spelling.path :=
    pieces_joined (List.cons_ne_nil _ _)
      fun segment member slash => ((words segment member).plain _ slash).1 rfl
  have long : 2 ≤ (spelling.host :: spelling.path).length :=
    Nat.succ_le_succ (List.length_pos_iff.mpr clear.path)
  have rest : spelling.path.all isSegment = true :=
    List.all_eq_true.mpr fun segment member =>
      decide_eq_true ⟨(clear.segments segment member).1.filled, (clear.segments segment member).2⟩
  rw [named?, clear.withoutTail_trail, whole]
  simp only [ge_iff_le, long, List.all_cons, rest, Bool.and_true, true_and]

/-- **Reading a spelling.**  It gives the host and the path, unless the host is a name that no
segment may have. -/
theorem IsClear.segments?_text (clear : spelling.IsClear) : segments? spelling.text =
    if isSegment spelling.host then some (spelling.host :: spelling.path) else none := by
  rw [segments?_eq, clear.withoutScheme?_trim, Option.bind_some, clear.withoutUser_site,
    clear.named?_trail]

/-- The plain spelling of what a spelling names. -/
def plain (spelling : Spelling) : Spelling :=
  { scheme := some ['h', 't', 't', 'p', 's'], host := spelling.host, path := spelling.path }

theorem IsClear.plain (clear : spelling.IsClear) : spelling.plain.IsClear where
  scheme := by
    rintro scheme ⟨⟩
    decide
  user := nofun
  host := clear.host
  path := clear.path
  segments := clear.segments
  bare := clear.bare
  blank := nofun

theorem endpoint_plain (filled : spelling.path ≠ []) :
    spelling.plain.endpoint = "https://" ++ spelling.id := by
  rw [← String.toList_inj, String.toList_append, endpoint, id, String.toList_ofList,
    String.toList_ofList, joined_cons filled]
  simp only [text, body, site, trail, plain, schemeMark, Bool.false_eq_true, ↓reduceIte,
    List.replicate_zero, List.append_nil, List.nil_append, String.toList_ofList]
  rfl

theorem IsClear.repositoryId_endpoint (clear : spelling.IsClear)
    (host : isSegment spelling.host = true) :
    repositoryId spelling.endpoint = .ok spelling.id := by
  rw [repositoryId_eq_ok_iff, endpoint, String.toList_ofList, clear.segments?_text, if_pos host]
  exact ⟨_, rfl, rfl⟩

/-- **All spellings of a repository give one identifier**, the host and the path, and so does the
identifier itself behind `https://`. -/
theorem all_give_id (clear : spelling.IsClear) (single : spelling.host ≠ ['.'])
    (double : spelling.host ≠ ['.', '.']) :
    repositoryId spelling.endpoint = .ok spelling.id ∧
      repositoryId ("https://" ++ spelling.id) = .ok spelling.id := by
  have host : isSegment spelling.host = true :=
    decide_eq_true ⟨clear.host.filled, single, double⟩
  refine ⟨clear.repositoryId_endpoint host, ?_⟩
  rw [← endpoint_plain clear.path]
  exact clear.plain.repositoryId_endpoint host

/-- A short form with everything that may be written. -/
def ornate : Spelling where
  user := some "git".toList
  host := "h.org".toList
  path := ["o.git".toList, "r".toList]
  suffixed := true
  slashes := 2
  before := "\t ".toList
  behind := "\n".toList

theorem all_give_id_ornate : ornate.IsClear ∧
    repositoryId "\t git@h.org:o.git/r.git//\n" = .ok "h.org/o.git/r" ∧
      repositoryId "https://h.org/o.git/r" = .ok "h.org/o.git/r" := by
  have clear : ornate.IsClear := by
    refine ⟨nofun, ?_, by decide, by decide, ?_, by decide, List.all_eq_true.mp (by decide)⟩
    · rintro user ⟨⟩
      decide
    · intro segment member
      obtain rfl | rfl : segment = "o.git".toList ∨ segment = "r".toList := by
        simpa [ornate] using member
      · decide
      · decide
  exact ⟨clear, all_give_id clear (by decide) (by decide)⟩

/-- A host named like the directory above is told apart from the path, but no identifier may have
it. -/
theorem dotted_host_gives_none :
    let spelling : Spelling :=
      { scheme := some "https".toList, host := "..".toList, path := ["a".toList] }
    spelling.IsClear ∧ spelling.endpoint = "https://../a" ∧ spelling.id = "../a" ∧
      repositoryId "https://../a" = .error (.invalidEndpoint "https://../a") := by
  refine ⟨⟨?_, nofun, by decide, by decide, ?_, by decide, nofun⟩, rfl, rfl, by cbv⟩
  · rintro scheme ⟨⟩
    decide
  · intro segment member
    obtain rfl := List.mem_singleton.mp member
    decide

end Spelling

end RepoCollector.Endpoint
