import RepoCollector.Proofs.Endpoint.Identifiers

/-! # Credentials and identifiers

Two readers look for the user in a URL.  The one that identifies repositories takes what stands
before the first `@` for a user unless there is a slash in it.  The one that takes credentials out
of an HTTP URL takes away everything up to the first `@`, also when that is a part of the path; and
where a user was taken away, what follows may look like a user again.

So the identifier of a repository survives exactly when nothing but the user is lost
(`RepoCollector.Endpoint.repositoryId_stripCredentials`).  Otherwise an `@` of the identifier is
taken away, and the proof counts these.
-/

namespace RepoCollector.Endpoint

/-- An identifier has every `@` of the text that it is read from. -/
theorem count_joined {rest : List Char} {segments : List (List Char)}
    (found : named? rest = some segments) : (joined segments).count '@' = rest.count '@' := by
  rw [(named?_eq_some found).1, Text.count_withoutTail (by decide), Text.trimWhere_eq,
    Text.count_rdropWhile (by decide), Text.count_dropWhile (by decide)]

theorem withoutUser_append {user : List Char} (absent : '@' ∉ user) (host : List Char) :
    withoutUser (user ++ '@' :: host) = if '/' ∈ user then user ++ '@' :: host else host := by
  rw [withoutUser, Text.cutAtChar_append absent]

theorem withoutUser_eq_self_iff {rest : List Char} : withoutUser rest = rest ↔
    ∀ user tail, rest = user ++ '@' :: tail → '@' ∉ user → '/' ∈ user := by
  constructor
  · rintro same user tail rfl absent
    by_contra slash
    rw [withoutUser_append absent, if_neg slash] at same
    have longer := congrArg List.length same
    rw [List.length_append, List.length_cons] at longer
    omega
  · intro slash
    rw [withoutUser]
    cases cut : Text.cutAtChar '@' rest with
    | none => rfl
    | some parts =>
        obtain ⟨whole, absent⟩ := Text.eq_of_cutAtChar cut
        exact if_pos (slash _ _ whole absent)

/-- Blanks at the end of a text do not matter for the user in it. -/
theorem withoutUser_rdropWhile_eq_self_iff (rest : List Char) :
    withoutUser (rest.rdropWhile Text.isBlank) = rest.rdropWhile Text.isBlank ↔
      withoutUser rest = rest := by
  rw [withoutUser_eq_self_iff, withoutUser_eq_self_iff]
  constructor
  · rintro slash user tail rfl
    exact slash user _ (Text.rdropWhile_append_cons (by decide) user tail)
  · intro slash user tail trimmed
    obtain ⟨blanks, whole⟩ := List.rdropWhile_prefix Text.isBlank (l := rest)
    rw [trimmed, List.append_assoc, List.cons_append] at whole
    exact slash user _ whole.symm

/-- Where a user is dropped, its `@` is. -/
theorem count_withoutUser {rest : List Char} (drops : withoutUser rest ≠ rest) :
    (withoutUser rest).count '@' < rest.count '@' := by
  rw [Ne, withoutUser_eq_self_iff] at drops
  push Not at drops
  obtain ⟨user, tail, rfl, absent, slash⟩ := drops
  rw [withoutUser_append absent, if_neg slash, List.count_append, List.count_cons_self]
  omega

theorem count_withoutUser_le (rest : List Char) :
    (withoutUser rest).count '@' ≤ rest.count '@' := by
  by_cases same : withoutUser rest = rest
  · rw [same]
  · exact (count_withoutUser same).le

/-- An HTTP URL from which credentials are taken, in its parts. -/
structure Carries (url scheme user host : List Char) : Prop where
  cut : Text.cutAt schemeMark url = some (scheme, user ++ '@' :: host)
  http : ['h', 't', 't', 'p'] <+: scheme
  absent : '@' ∉ user

/-- Of an HTTP URL only the user is taken away: there is no slash in what stands before the first
`@`, and what stands behind it does not begin with another user. -/
def LosesOnlyUser (url : List Char) : Prop :=
  ∀ scheme user host, Carries url scheme user host → '/' ∉ user ∧ withoutUser host = host

theorem Carries.stripCredentials {url scheme user host : List Char}
    (carries : Carries url scheme user host) :
    stripCredentials url = scheme ++ (schemeMark ++ host) := by
  obtain ⟨more, rfl⟩ := carries.http
  rw [Endpoint.stripCredentials, carries.cut]
  dsimp only
  rw [Text.cutAtChar_append carries.absent, Text.afterLead_eq_some_iff.mpr rfl]
  exact List.append_assoc _ _ _

theorem Carries.losesOnlyUser_iff {url scheme user host : List Char}
    (carries : Carries url scheme user host) :
    LosesOnlyUser url ↔ '/' ∉ user ∧ withoutUser host = host := by
  constructor
  · intro only
    exact only scheme user host carries
  · rintro parts other someone somewhere again
    have same := carries.cut.symm.trans again.cut
    injection same with same
    injection same with _ rest
    have split := Text.cutAtChar_append carries.absent host
    rw [rest, Text.cutAtChar_append again.absent] at split
    cases split
    exact parts

theorem stripCredentials_cases (url : List Char) :
    (stripCredentials url = url ∧ ∀ scheme user host, ¬Carries url scheme user host) ∨
      ∃ scheme user host, Carries url scheme user host := by
  by_cases carries : ∃ scheme user host, Carries url scheme user host
  · exact .inr carries
  · push Not at carries
    refine .inl ⟨?_, carries⟩
    unfold stripCredentials
    cases cut : Text.cutAt schemeMark url with
    | none => rfl
    | some parts =>
        obtain ⟨scheme, rest⟩ := parts
        dsimp only
        cases parted : Text.cutAtChar '@' rest with
        | none => rfl
        | some parts =>
            obtain ⟨user, host⟩ := parts
            obtain ⟨rfl, absent⟩ := Text.eq_of_cutAtChar parted
            dsimp only
            split
            next more http =>
              have http := Text.afterLead_eq_some_iff.mp http
              exact absurd ⟨cut, ⟨more, http.symm⟩, absent⟩ (carries scheme user host)
            next => rfl

/-- The repository that an HTTP URL names. -/
theorem segments?_http {url scheme rest : List Char}
    (cut : Text.cutAt schemeMark url = some (scheme, rest)) (http : ['h', 't', 't', 'p'] <+: scheme)
    (other : List Char) : segments? (scheme ++ (schemeMark ++ other)) =
      named? (withoutUser (other.rdropWhile Text.isBlank)) := by
  have again := (Text.cutAt_append cut).2 (other.rdropWhile Text.isBlank)
  obtain ⟨more, rfl⟩ := http
  have trimmed : Text.trim (['h', 't', 't', 'p'] ++ more ++ (schemeMark ++ other)) =
      ['h', 't', 't', 'p'] ++ more ++ (schemeMark ++ other.rdropWhile Text.isBlank) := by
    -- from the first letter of the scheme to the last slash of the mark nothing is blank
    have kept : Text.trimWhere Text.isBlank
        ('h' :: ((['t', 't', 'p'] ++ more ++ [':', '/']) ++ _)) = _ :=
      Text.trimWhere_cons_append (by decide) (show Text.isBlank '/' = false by decide) _ other
    simpa only [Text.trim, schemeMark, List.append_assoc, List.cons_append, List.nil_append]
      using kept
  rw [segments?_eq, withoutScheme?, trimmed, again]
  rfl

/-- **Identifiers and credentials.**  A URL without its credentials names the same repository
exactly when only a user was taken away. -/
theorem repositoryId_stripCredentials {url id : String} (named : repositoryId url = .ok id) :
    repositoryId (String.ofList (stripCredentials url.toList)) = .ok id ↔
      LosesOnlyUser url.toList := by
  obtain ⟨segments, found, rfl⟩ := repositoryId_eq_ok_iff.mp named
  rw [repositoryId_eq_ok_iff, String.toList_ofList]
  obtain ⟨same, free⟩ | ⟨scheme, user, host, carries⟩ := stripCredentials_cases url.toList
  · rw [same]
    refine iff_of_true ⟨segments, found, rfl⟩ ?_
    intro scheme user host carries
    exact absurd carries (free scheme user host)
  · have before := segments?_http carries.cut carries.http (user ++ '@' :: host)
    have after := segments?_http carries.cut carries.http host
    rw [← (Text.cutAt_append carries.cut).1, found,
      Text.rdropWhile_append_cons (by decide), withoutUser_append carries.absent] at before
    rw [carries.stripCredentials, after]
    rw [carries.losesOnlyUser_iff, ← withoutUser_rdropWhile_eq_self_iff]
    generalize host.rdropWhile Text.isBlank = host at before
    constructor
    · rintro ⟨others, again, same⟩
      -- both identifiers have every `@` of the text that they were read from
      have counts : (joined others).count '@' = (joined segments).count '@' := by
        rw [String.ofList_injective same]
      rw [count_joined again, count_joined before.symm] at counts
      have fewer := count_withoutUser_le host
      by_cases slash : '/' ∈ user
      · rw [if_pos slash, List.count_append, List.count_cons_self] at counts
        omega
      · rw [if_neg slash] at counts
        refine ⟨slash, ?_⟩
        by_contra drops
        exact (count_withoutUser drops).ne counts
    · rintro ⟨slash, same⟩
      rw [if_neg slash] at before
      rw [same]
      exact ⟨segments, before.symm, rfl⟩

theorem repositoryId_stripCredentials_user :
    repositoryId "https://me:secret@h/o/r@2.git/" = .ok "h/o/r@2" ∧
      LosesOnlyUser "https://me:secret@h/o/r@2.git/".toList := by
  have named : repositoryId "https://me:secret@h/o/r@2.git/" = .ok "h/o/r@2" := by cbv
  exact ⟨named, (repositoryId_stripCredentials named).mp (by cbv)⟩

/-- Without a user a part of the path goes, and the URL names a repository of another host. -/
theorem repositoryId_stripCredentials_path :
    repositoryId "https://h/a@b/c" = .ok "h/a@b/c" ∧
      stripCredentials "https://h/a@b/c".toList = "https://b/c".toList ∧
      repositoryId (String.ofList (stripCredentials "https://h/a@b/c".toList)) = .ok "b/c" :=
  ⟨by cbv, by cbv, by cbv⟩

end RepoCollector.Endpoint
