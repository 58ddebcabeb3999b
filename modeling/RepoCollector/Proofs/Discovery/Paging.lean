import RepoCollector.Discovery.Listing
import RepoCollector.Proofs.Firsts
import RepoCollector.Proofs.Play

/-! # Paging through a listing

A reading is a listing beside the organization whose repositories it lists.  The organization only
grows, at the end; a page that is asked for is answered with the repositories on it at that moment,
or not at all; the caller may give up any call.

What has been read is always the front of the organization's list, and what was handed out, followed
by what is in the buffer, are the repositories there that pass, each name once
(`RepoCollector.Paging.Sound`).  A page that is read again brings nothing that was read before.  So
nothing is skipped and nothing comes twice (`RepoCollector.Paging.hands_out_listing`).
-/

namespace RepoCollector

namespace OrgListing

/-- The repositories that are to be handed out for a list: those that pass, of each name the first
one. -/
def accepted (config : ListingConfig) (repos : List Repository) : List Repository :=
  firstsBy Repository.fullName (repos.filter (passes config))

/-- The repositories on a page. -/
def pageOf (perPage page : Nat) (repos : List Repository) : List Repository :=
  (repos.drop ((page - 1) * perPage)).take perPage

end OrgListing

/-- A listing, the organization, and the calls for the next repository. -/
structure Paging where
  listing : OrgListing
  /-- The repositories of the organization, the oldest first. -/
  source : List Repository
  /-- The repositories that the organization had at the last fetch that succeeded. -/
  fetched : List Repository := []
  /-- The page that is being fetched for the call in progress. -/
  fetching : Option Nat := none
  /-- How the calls ended, the first one first. -/
  answers : List (Except DiscoveryError Repository) := []

inductive PagingMove where
  | grow (more : List Repository)
  /-- The next repository is asked for, if no call is in progress. -/
  | call
  /-- The server responds to the request for a page.  The call breaks off where the reading of the
  response does. -/
  | respond (response : PageResponse) (now : Int)
  /-- The request for a page fails without a response. -/
  | disconnect (text : String)
  | cancel
  | abandon

namespace Paging

def start (org : String) (token : Option String) (config : ListingConfig)
    (source : List Repository) : Paging :=
  { listing := .make org token config, source }

/-- The repositories that calls have returned. -/
def returned (s : Paging) : List Repository := s.answers.filterMap Except.toOption

/-- Goes on with a call until it ends or has to wait for a page. -/
def look (s : Paging) : Paging :=
  match s.listing.next with
  | (listing, .answer answer) =>
    { s with listing, fetching := none, answers := s.answers ++ [answer] }
  | (listing, .fetch page) => { s with listing, fetching := some page }

def fail (s : Paging) (failure : DiscoveryError) : Paging :=
  { s with fetching := none, answers := s.answers ++ [.error failure] }

/-- Makes a move, if it is possible.  A page that comes in holds what is on it at that moment. -/
def act (move : PagingMove) (s : Paging) : Option Paging :=
  match move, s.fetching with
  | .grow more, _ => some { s with source := s.source ++ more }
  | .call, none => some s.look
  | .respond response now, some page =>
    if (response.overflow? now).isSome then some { s with fetching := none }
    else
      match response.repositories now with
      | .error failure => some (s.fail failure)
      | .ok repos =>
        if repos = OrgListing.pageOf s.listing.config.perPage page s.source then
          some ({ s with listing := s.listing.absorb repos, fetched := s.source } : Paging).look
        else none
  | .disconnect text, some _ => some (s.fail (connectionFailure text))
  | .cancel, some _ => some (s.fail .cancelled)
  | .abandon, some _ => some { s with fetching := none }
  | _, _ => none

end Paging

/-! ## Taking in a page -/

namespace OrgListing

variable {config : ListingConfig}

theorem accepted_concat (repos : List Repository) (repo : Repository) :
    accepted config (repos ++ [repo]) = accepted config repos ++
      if passes config repo = true ∧ repo.fullName ∉ (accepted config repos).map Repository.fullName
        then [repo] else [] := by
  simp only [accepted, keys_firstsBy, List.filter_append]
  by_cases lets : passes config repo = true
  · rw [List.filter_cons_of_pos lets, List.filter_nil, firstsBy_concat]
    by_cases known : repo.fullName ∈ (repos.filter (passes config)).map Repository.fullName
    · simp only [known, ↓reduceIte, not_true_eq_false, and_false]
    · simp only [known, lets, ↓reduceIte, not_false_eq_true, and_self]
  · rw [List.filter_cons_of_neg lets, List.filter_nil, List.append_nil, if_neg (lets ·.1),
      List.append_nil]

theorem accepted_append_again {front middle : List Repository}
    (known : ∀ repo ∈ middle, repo ∈ front) (back : List Repository) :
    accepted config (front ++ (middle ++ back)) = accepted config (front ++ back) := by
  simp only [accepted, List.filter_append]
  apply firstsBy_append_again
  intro repo member
  obtain ⟨member, lets⟩ := List.mem_filter.mp member
  exact List.mem_filter.mpr ⟨known repo member, lets⟩

theorem accepted_prefix {front repos : List Repository} (before : front <+: repos) :
    accepted config front <+: accepted config repos :=
  firstsBy_prefix (before.filter _)

/-- What was handed out and what is in the buffer are the accepted repositories of those read. -/
structure Holds (config : ListingConfig) (out read : List Repository) (listing : OrgListing) :
    Prop where
  settings : listing.config = config
  kept : out ++ listing.buffer = accepted config read
  seen : ∀ name, name ∈ listing.seen ↔ name ∈ (accepted config read).map Repository.fullName

variable {listing : OrgListing} {out read : List Repository}

theorem Holds.accept (holds : listing.Holds config out read) (repo : Repository) :
    (listing.accept repo).Holds config out (read ++ [repo]) := by
  have concat : accepted config (read ++ [repo]) = _ := accepted_concat read repo
  have taken : (passes listing.config repo = true ∧ repo.fullName ∉ listing.seen) ↔
      (passes config repo = true ∧
        repo.fullName ∉ (accepted config read).map Repository.fullName) := by
    rw [holds.settings, holds.seen]
  unfold OrgListing.accept
  by_cases takes : passes listing.config repo = true ∧ repo.fullName ∉ listing.seen
  · rw [if_pos (taken.mp takes)] at concat
    rw [if_pos takes]
    refine ⟨holds.settings, ?_, ?_⟩
    · rw [concat, ← holds.kept, List.append_assoc]
    · intro name
      rw [List.mem_cons, holds.seen, concat, List.map_append, List.mem_append, List.map_singleton,
        List.mem_singleton, or_comm]
  · rw [if_neg (takes ∘ taken.mpr), List.append_nil] at concat
    rw [if_neg takes]
    exact ⟨holds.settings, holds.kept.trans concat.symm, concat ▸ holds.seen⟩

theorem Holds.congr {again : List Repository} (holds : listing.Holds config out read)
    (same : accepted config read = accepted config again) : listing.Holds config out again :=
  ⟨holds.settings, holds.kept.trans same, same ▸ holds.seen⟩

theorem Holds.foldl (holds : listing.Holds config out read) (repos : List Repository) :
    (repos.foldl OrgListing.accept listing).Holds config out (read ++ repos) := by
  induction repos generalizing listing read with
  | nil =>
      rw [List.append_nil]
      exact holds
  | cons repo repos ih =>
      rw [List.append_cons]
      exact ih (holds.accept repo)

/-- How far a listing has read the repositories of an organization: at least all pages before the
one to fetch next, and at most that page; at the end everything. -/
structure Reaches (listing : OrgListing) (repos : List Repository) (count : Nat) : Prop where
  first : 1 ≤ listing.page
  before : (listing.page - 1) * listing.config.perPage ≤ count
  within : count ≤ listing.page * listing.config.perPage
  known : count ≤ repos.length
  whole : listing.atEnd = true → count = repos.length

/-- Taking repositories in changes the buffer and the names seen, and nothing else. -/
theorem foldl_accept (repos : List Repository) (listing : OrgListing) :
    ∃ buffer seen, repos.foldl OrgListing.accept listing = { listing with buffer, seen } := by
  induction repos generalizing listing with
  | nil => exact ⟨_, _, rfl⟩
  | cons repo repos ih =>
      rw [List.foldl_cons, OrgListing.accept]
      split
      · obtain ⟨buffer, seen, same⟩ := ih { listing with
          buffer := listing.buffer ++ [repo], seen := repo.fullName :: listing.seen }
        exact ⟨buffer, seen, same⟩
      · exact ih listing

theorem Reaches.foldl {repos : List Repository} {count : Nat}
    (reaches : listing.Reaches repos count) (more : List Repository) :
    (more.foldl OrgListing.accept listing).Reaches repos count := by
  obtain ⟨buffer, seen, same⟩ := foldl_accept more listing
  rw [same]
  exact ⟨reaches.first, reaches.before, reaches.within, reaches.known, reaches.whole⟩

/-- A page read after the repositories before it and some of its own brings the rest of it. -/
theorem accepted_take_append_pageOf {perPage page count : Nat} (first : 1 ≤ page)
    (before : (page - 1) * perPage ≤ count) (within : count ≤ page * perPage)
    (source : List Repository) :
    accepted config (source.take count ++ pageOf perPage page source) =
      accepted config (source.take (page * perPage)) := by
  obtain ⟨page, rfl⟩ : ∃ earlier, page = earlier + 1 := ⟨page - 1, by omega⟩
  rw [Nat.add_sub_cancel] at before
  rw [Nat.succ_mul] at within
  -- the part of the page that was read before, and the rest
  have split : perPage =
      (count - page * perPage) + (page * perPage + perPage - count) := by omega
  have page_eq : pageOf perPage (page + 1) source =
      (source.take count).drop (page * perPage) ++
        (source.drop count).take (page * perPage + perPage - count) := by
    calc pageOf perPage (page + 1) source
        = (source.drop (page * perPage)).take
            ((count - page * perPage) + (page * perPage + perPage - count)) := by
          rw [pageOf, Nat.add_sub_cancel, ← split]
      _ = _ := by
          rw [List.take_add, List.drop_drop, List.drop_take, Nat.add_sub_cancel' before]
  have whole : source.take ((page + 1) * perPage) = source.take count ++
      (source.drop count).take (page * perPage + perPage - count) := by
    rw [← List.take_add, Nat.succ_mul, Nat.add_sub_cancel' within]
  rw [page_eq, whole]
  exact accepted_append_again (fun _ member => List.mem_of_mem_drop member) _

/-- **Taking in a page.**  What is read afterwards is again the front of the organization's list. -/
theorem Holds.absorb {old source : List Repository} {count : Nat}
    (holds : listing.Holds config out (old.take count)) (reaches : listing.Reaches old count)
    (grown : old <+: source) (going : listing.atEnd = false) :
    ∃ further, (listing.absorb (pageOf config.perPage listing.page source)).Holds config out
        (source.take further) ∧
      (listing.absorb (pageOf config.perPage listing.page source)).Reaches source further := by
  obtain rfl := holds.settings
  have first := reaches.first
  have before := reaches.before
  have within := reaches.within
  have known := reaches.known.trans grown.length_le
  have front : old.take count = source.take count := by
    obtain ⟨more, rfl⟩ := grown
    exact (List.take_append_of_le_length reaches.known).symm
  rw [front] at holds
  have read : accepted listing.config (source.take count ++ _) = _ :=
    accepted_take_append_pageOf first before within source
  have next : (listing.page - 1) * listing.config.perPage + listing.config.perPage =
      listing.page * listing.config.perPage := by
    rw [← Nat.succ_mul, Nat.succ_eq_add_one, Nat.sub_add_cancel first]
  have size : (pageOf listing.config.perPage listing.page source).length =
      min listing.config.perPage (source.length - (listing.page - 1) * listing.config.perPage) := by
    rw [pageOf, List.length_take, List.length_drop]
  generalize pageOf listing.config.perPage listing.page source = repos at read size
  unfold OrgListing.absorb
  by_cases short : repos.length < listing.config.perPage
  · rw [if_pos short]
    have all : source.take (listing.page * listing.config.perPage) = source.take source.length := by
      rw [List.take_length, List.take_of_length_le (by omega)]
    have ended : ({ listing with atEnd := true } : OrgListing).Holds listing.config out
        (source.take count) := ⟨rfl, holds.kept, holds.seen⟩
    have reaches : ({ listing with atEnd := true } : OrgListing).Reaches source source.length :=
      ⟨first, before.trans known, by dsimp only; omega, le_rfl, fun _ => rfl⟩
    exact ⟨source.length, (ended.foldl repos).congr (read.trans (congrArg _ all)),
      reaches.foldl repos⟩
  · rw [if_neg short]
    have turned : ({ listing with page := listing.page + 1 } : OrgListing).Holds listing.config out
        (source.take count) := ⟨rfl, holds.kept, holds.seen⟩
    have reaches : ({ listing with page := listing.page + 1 } : OrgListing).Reaches source
        (listing.page * listing.config.perPage) := by
      refine ⟨Nat.succ_le_succ (Nat.zero_le _), ?_, ?_, ?_, fun ended => ?_⟩
      · simp only [Nat.add_sub_cancel, le_refl]
      · simp only [Nat.succ_mul, Nat.le_add_right]
      · omega
      · cases going.symm.trans ended
    exact ⟨_, (turned.foldl repos).congr read, reaches.foldl repos⟩

end OrgListing

namespace Paging

/-- What was returned and what is in the buffer follow the organization's list. -/
structure Follows (config : ListingConfig) (s : Paging) : Prop where
  grown : s.fetched <+: s.source
  read : ∃ count, s.listing.Holds config s.returned (s.fetched.take count) ∧
    s.listing.Reaches s.fetched count

/-- **What holds of a reading at every moment.** -/
structure Sound (config : ListingConfig) (s : Paging) : Prop extends Follows config s where
  /-- A page is fetched only when nothing is left to hand out, and it is the next one. -/
  asks : ∀ page, s.fetching = some page →
    page = s.listing.page ∧ s.listing.buffer = [] ∧ s.listing.atEnd = false

variable {config : ListingConfig} {s t : Paging}

theorem sound_start (org : String) (token : Option String) (config : ListingConfig)
    (source : List Repository) : (start org token config source).Sound config := by
  refine ⟨⟨List.nil_prefix, 0, ⟨rfl, rfl, fun name => ?_⟩, ?_⟩, fun page asked => ?_⟩
  · exact iff_of_false List.not_mem_nil List.not_mem_nil
  · exact ⟨le_rfl, le_of_eq (Nat.zero_mul _), Nat.zero_le _, le_rfl, (nomatch ·)⟩
  · cases asked

theorem Follows.returned_prefix (follows : s.Follows config) :
    s.returned <+: OrgListing.accepted config s.fetched := by
  obtain ⟨count, holds, _⟩ := follows.read
  have front : OrgListing.accepted config (s.fetched.take count) <+: _ :=
    OrgListing.accepted_prefix (List.take_prefix count s.fetched)
  rw [← holds.kept] at front
  exact (List.prefix_append _ _).trans front

/-- What a call does when it goes on. -/
theorem look_cases (s : Paging) :
    (∃ repo buffer, s.listing.buffer = repo :: buffer ∧
      s.look = { s with
        listing := { s.listing with buffer }
        fetching := none
        answers := s.answers ++ [.ok repo] }) ∨
    (s.listing.buffer = [] ∧ s.listing.atEnd = true ∧
      s.look = { s with
        listing := { s.listing with atEnd := false }
        fetching := none
        answers := s.answers ++ [.error (.endOfSource (some s.listing.config.pollInterval))] }) ∨
    (s.listing.buffer = [] ∧ s.listing.atEnd = false ∧
      s.look = { s with fetching := some s.listing.page }) := by
  cases waits : s.listing.buffer with
  | cons repo buffer =>
      left
      exact ⟨repo, buffer, rfl, by simp only [look, OrgListing.next, waits]⟩
  | nil =>
      right
      cases ended : s.listing.atEnd with
      | true =>
          left
          exact ⟨rfl, rfl, by simp only [look, OrgListing.next, waits, ended, ↓reduceIte]⟩
      | false =>
          right
          refine ⟨rfl, rfl, ?_⟩
          simp only [look, OrgListing.next, waits, ended, Bool.false_eq_true, ↓reduceIte]

/-- A failure returns no repository. -/
theorem returned_concat_error (answers : List (Except DiscoveryError Repository))
    (failure : DiscoveryError) : (answers ++ [Except.error failure]).filterMap Except.toOption =
      answers.filterMap Except.toOption := by
  rw [List.filterMap_append]
  exact List.append_nil _

theorem Follows.look (follows : s.Follows config) : s.look.Sound config := by
  obtain ⟨count, holds, reaches⟩ := follows.read
  obtain ⟨repo, buffer, waits, same⟩ | ⟨empty, ended, same⟩ | ⟨empty, going, same⟩ := s.look_cases
  · rw [same]
    refine ⟨⟨follows.grown, count, ⟨holds.settings, ?_, holds.seen⟩, ?_⟩, fun _ asked => ?_⟩
    · rw [← holds.kept, waits, returned, List.filterMap_append, List.append_assoc]
      rfl
    · exact ⟨reaches.first, reaches.before, reaches.within, reaches.known, reaches.whole⟩
    · cases asked
  · rw [same]
    refine ⟨⟨follows.grown, count, ⟨holds.settings, ?_, holds.seen⟩, ?_⟩, fun _ asked => ?_⟩
    · rw [returned, returned_concat_error]
      exact holds.kept
    · exact ⟨reaches.first, reaches.before, reaches.within, reaches.known, (nomatch ·)⟩
    · cases asked
  · rw [same]
    refine ⟨⟨follows.grown, count, holds, reaches⟩, fun page asked => ?_⟩
    cases asked
    exact ⟨rfl, empty, going⟩

theorem look_fetched (s : Paging) : s.look.fetched = s.fetched := by
  obtain ⟨_, _, _, same⟩ | ⟨_, _, same⟩ | ⟨_, _, same⟩ := s.look_cases <;> rw [same]

/-- The end is reported when everything has been handed out. -/
theorem Follows.look_end {delay : Option Duration} (follows : s.Follows config)
    (reports : s.look.answers = s.answers ++ [.error (.endOfSource delay)]) :
    s.look.returned = OrgListing.accepted config s.fetched := by
  obtain ⟨count, holds, reaches⟩ := follows.read
  obtain ⟨repo, buffer, _, same⟩ | ⟨empty, ended, same⟩ | ⟨_, _, same⟩ := s.look_cases
  · rw [same] at reports
    cases List.append_cancel_left reports
  · have kept := holds.kept
    rw [empty, List.append_nil, reaches.whole ended, List.take_length] at kept
    rw [same, returned, returned_concat_error]
    exact kept
  · rw [same] at reports
    cases List.append_cancel_left ((List.append_nil _).trans reports)

end Paging

theorem PageResponse.repositories_ne_end {response : PageResponse} {now : Int}
    {failure : DiscoveryError} (failed : response.repositories now = .error failure)
    (delay : Option Duration) : failure ≠ .endOfSource delay := by
  rintro rfl
  unfold repositories at failed
  split at failed
  · cases failed
  · split at failed
    · split at failed <;> cases failed
    · cases failed

namespace Paging

variable {config : ListingConfig} {s t : Paging}

theorem Sound.fail (sound : s.Sound config) (failure : DiscoveryError) :
    (s.fail failure).Sound config := by
  obtain ⟨count, holds, reaches⟩ := sound.read
  refine ⟨⟨sound.grown, count, ⟨holds.settings, ?_, holds.seen⟩, reaches⟩, fun _ asked => ?_⟩
  · rw [returned, Paging.fail, returned_concat_error]
    exact holds.kept
  · cases asked

theorem fail_ne_end {failure : DiscoveryError} (other : ∀ delay, failure ≠ .endOfSource delay)
    (delay : Option Duration) :
    (s.fail failure).answers ≠ s.answers ++ [.error (.endOfSource delay)] := by
  intro same
  injection List.append_cancel_left same with same
  injection same with same
  exact other delay same

/-- A page that comes in leaves the reading as it has to be for the call to go on. -/
theorem Sound.absorb {page : Nat} (sound : s.Sound config) (asked : s.fetching = some page) :
    ({ s with
      listing := s.listing.absorb (OrgListing.pageOf s.listing.config.perPage page s.source)
      fetched := s.source } : Paging).Follows config := by
  obtain ⟨rfl, _, going⟩ := sound.asks page asked
  obtain ⟨count, holds, reaches⟩ := sound.read
  have read := holds.absorb reaches sound.grown going
  rw [← holds.settings] at read ⊢
  exact ⟨List.prefix_rfl, read⟩

/-- **One move.**  A move keeps the reading sound, and reports the end only when everything was
handed out. -/
theorem Sound.act {move : PagingMove} (sound : s.Sound config) (moved : s.act move = some t) :
    t.Sound config ∧ ∀ delay, t.answers = s.answers ++ [.error (.endOfSource delay)] →
      t.returned = OrgListing.accepted config t.fetched := by
  have silent {u : Paging} (same : u.answers = s.answers) (delay : Option Duration)
      (reports : u.answers = s.answers ++ [.error (.endOfSource delay)]) :
      u.returned = OrgListing.accepted config u.fetched := by
    rw [same] at reports
    cases List.append_cancel_left ((List.append_nil _).trans reports)
  unfold Paging.act at moved
  split at moved
  case h_1 more =>
    cases moved
    have grown := sound.grown.trans (List.prefix_append s.source more)
    exact ⟨⟨⟨grown, sound.read⟩, sound.asks⟩, silent rfl⟩
  case h_2 =>
    cases moved
    exact ⟨sound.look, fun _ reports => (sound.look_end reports).trans (by rw [look_fetched])⟩
  case h_3 response now page asked =>
    split at moved
    next =>
      cases moved
      exact ⟨⟨⟨sound.grown, sound.read⟩, fun _ asked => by cases asked⟩, silent rfl⟩
    next =>
      split at moved
      next failure failed =>
        cases moved
        exact ⟨sound.fail failure,
          fun delay same => absurd same (fail_ne_end (response.repositories_ne_end failed) delay)⟩
      next repos _ =>
        split at moved
        next page_eq =>
          cases moved
          subst page_eq
          have follows := sound.absorb asked
          refine ⟨follows.look, fun _ reports => ?_⟩
          exact (follows.look_end reports).trans (by rw [look_fetched])
        next => cases moved
  case h_4 text _ =>
    cases moved
    exact ⟨sound.fail _, fun delay same => absurd same (fail_ne_end (by rintro _ ⟨⟩) delay)⟩
  case h_5 =>
    cases moved
    exact ⟨sound.fail _, fun delay same => absurd same (fail_ne_end (by rintro _ ⟨⟩) delay)⟩
  case h_6 =>
    cases moved
    exact ⟨⟨⟨sound.grown, sound.read⟩, fun _ asked => by cases asked⟩, silent rfl⟩
  case h_7 => cases moved

theorem sound_of_play {org : String} {token : Option String} {source : List Repository}
    {moves : List PagingMove} (played : play act moves (start org token config source) = some s) :
    s.Sound config :=
  play_keeps (fun _ _ _ _ sound moved => (sound.act moved).1)
    (fun _ _ => trivial) (sound_start org token config source) played

/-- **A listing hands out every repository once and in order.**  However the organization grows and
whichever calls fail, are cancelled or are given up: what was returned is the beginning of the
accepted repositories of the organization as it was at the last fetch that succeeded, and it is all
of them whenever the end is reported. -/
theorem hands_out_listing {org : String} {token : Option String} {source : List Repository}
    {moves : List PagingMove} (played : play act moves (start org token config source) = some s) :
    s.returned <+: OrgListing.accepted config s.fetched ∧ s.fetched <+: s.source ∧
      ∀ move t delay, s.act move = some t →
        t.answers = s.answers ++ [.error (.endOfSource delay)] →
          t.returned = OrgListing.accepted config t.fetched := by
  have sound := sound_of_play played
  refine ⟨sound.returned_prefix, sound.grown, ?_⟩
  intro move t delay moved reports
  exact (sound.act moved).2 delay reports

/-- Requests fail, are cancelled and are given up, the organization grows after the end was
reported, and the page that is asked for again brings repositories that were read before and a name
that was handed out. -/
def growth : List PagingMove :=
  [.call, .disconnect "refused",
    .call, .respond { body := "[[\"o/one\"],[\"o/fork\",null,null,null,true]]" } 0,
    .call, .cancel, .call, .abandon, .call, .respond { status := 429 } 0,
    .call, .respond { body := "[\x7b\"full_name\":\"o/two\"\x7d]" } 0, .call,
    .grow [{ fullName := "o/one" }, { fullName := "o/three" }], .call,
    .respond { body := "[[\"o/two\"],[\"o/one\"]]" } 0, .respond { status := 502 } 0,
    .call, .respond { body := "[[\"o/three\"]]" } 0]

def forkless : ListingConfig := { perPage := 2, skipForks := true }

def young : List Repository :=
  [{ fullName := "o/one" }, { fullName := "o/fork", fork := true }, { fullName := "o/two" }]

theorem growth_account :
    (play act growth (start "o" none forkless young)).bind (fun s => (s.act .call).map fun t =>
      (s.answers ++ [.error (.endOfSource (some (.ofSecs 3600)))] == t.answers,
        t.returned.map Repository.fullName)) =
      some (true, ["o/one", "o/two", "o/three"]) := by
  decide +kernel

theorem hands_out_listing_growth :
    ∃ s t, play act growth (start "o" none forkless young) = some s ∧ s.act .call = some t ∧
      t.answers = s.answers ++ [.error (.endOfSource (some (.ofSecs 3600)))] ∧
      t.returned.map Repository.fullName = ["o/one", "o/two", "o/three"] ∧
      t.returned = OrgListing.accepted forkless t.fetched := by
  obtain ⟨s, played, next⟩ := Option.bind_eq_some_iff.mp growth_account
  obtain ⟨t, called, account⟩ := Option.map_eq_some_iff.mp next
  injection account with same names
  have reports := (eq_of_beq same).symm
  exact ⟨s, t, played, called, reports, names,
    (hands_out_listing played).2.2 .call t _ called reports⟩

end Paging

end RepoCollector
