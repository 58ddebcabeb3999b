import Mathlib.Data.List.Forall2
import RepoCollector.Discovery.Listing
import RepoCollector.Proofs.Json.Written

/-! # Written pages

How the repositories of a page may be written: each one as an object, its members in any order and
among others that are not known, a missing URL as `null` or left out, and a flag that is not set
left out or written (`RepoCollector.Repository.Describes`).  Reading a page inverts writing it, and
an object without a name, with a known member twice or with a flag that is `null` spoils the page
(`RepoCollector.Repository.reads_what_is_written`).
-/

namespace RepoCollector

/-- A member of an object, its key spelled in pieces. -/
abbrev Json.Member := List Json.Piece × Json

namespace Repository

open Json

/-- The names of the members that are read. -/
def knownNames : List String :=
  ["full_name", "html_url", "git_url", "ssh_url", "fork", "archived"]

/-! ## Objects that describe a repository -/

/-- The values that a text may be written as. -/
inductive IsText : String → Json → Prop where
  | spelled {text : String} {pieces : List Piece} (spells : Spells text.toList pieces) :
      IsText text (.string pieces)

/-- The values that a URL may be written as, or none. -/
inductive IsUrl : Option String → Json → Prop where
  | text {url : String} {value : Json} (isText : IsText url value) : IsUrl (some url) value
  | null : IsUrl none .null

/-- The value that a flag is written as. -/
inductive IsFlag : Bool → Json → Prop where
  | bool {flag : Bool} : IsFlag flag (.bool flag)

/-- The members that give a field: one with its name and value, or none if the field is what a
missing member stands for. -/
inductive Gives {α : Type} (name : String) (isWritten : α → Json → Prop) (missing : Option α)
    (field : α) : List Member → Prop where
  | written {key : List Piece} {value : Json} (keyed : Spells name.toList key)
      (writes : isWritten field value) : Gives name isWritten missing field [(key, value)]
  | leftOut (absent : missing = some field) : Gives name isWritten missing field []

/-- The member has a name that is not known. -/
def IsForeign (member : Member) : Prop :=
  ∃ name : String, Spells name.toList member.1 ∧ name ∉ knownNames

/-- **The objects that a repository may be written as.**  Their members are in any order. -/
inductive Describes (repo : Repository) : Json → Prop where
  | object {fullName html git ssh fork archived others members : List Member}
      (givesName : Gives "full_name" IsText none repo.fullName fullName)
      (givesHtml : Gives "html_url" IsUrl (some none) repo.htmlUrl html)
      (givesGit : Gives "git_url" IsUrl (some none) repo.gitUrl git)
      (givesSsh : Gives "ssh_url" IsUrl (some none) repo.sshUrl ssh)
      (givesFork : Gives "fork" IsFlag (some false) repo.fork fork)
      (givesArchived : Gives "archived" IsFlag (some false) repo.archived archived)
      (foreign : ∀ member ∈ others, IsForeign member)
      (order : members.Perm (fullName ++ html ++ git ++ ssh ++ fork ++ archived ++ others)) :
      Describes repo (.object members)

/-- **The objects that spoil a page.** -/
inductive Spoils : Json → Prop where
  | nameless {members : List Member}
      (absent : ∀ member ∈ members, ¬ Spells "full_name".toList member.1) : Spoils (.object members)
  | repeats {members : List Member} {name : String} {first second : Member}
      (known : name ∈ knownNames) (keyed : Spells name.toList first.1)
      (again : Spells name.toList second.1) (twice : [first, second].Sublist members) :
      Spoils (.object members)
  | nullFlag {members : List Member} {name : String} {key : List Piece}
      (flag : name = "fork" ∨ name = "archived") (keyed : Spells name.toList key)
      (null : (key, .null) ∈ members) : Spoils (.object members)

/-! ## Members by their names -/

/-- A member with its name, if the key is a text. -/
def named (member : Member) : List Char × Json :=
  ((decodePieces member.1).getD [], member.2)

theorem named_of_spells {name : List Char} {member : Member} (keyed : Spells name member.1) :
    named member = (name, member.2) := by
  rw [named, keyed.decode]
  rfl

theorem namedMembers?_eq_some_iff {members : List Member} {found : List (List Char × Json)} :
    namedMembers? members = some found ↔
      (∀ member ∈ members, Spells (named member).1 member.1) ∧ found = members.map named := by
  induction members generalizing found with
  | nil =>
      rw [namedMembers?, Option.some.injEq]
      exact ⟨fun same => ⟨fun _ member => absurd member List.not_mem_nil, same.symm⟩,
        fun both => both.2.symm⟩
  | cons member rest ih =>
      obtain ⟨key, value⟩ := member
      rw [List.forall_mem_cons, List.map_cons]
      constructor
      · intro read
        obtain ⟨name, decoded, more⟩ := Option.bind_eq_some_iff.mp read
        obtain ⟨others, readOthers, same⟩ := Option.bind_eq_some_iff.mp more
        cases same
        obtain ⟨keyed, rfl⟩ := ih.mp readOthers
        have spells : Spells name key := spells_of_decodePieces decoded
        have here : named (key, value) = (name, value) := named_of_spells spells
        rw [here]
        exact ⟨⟨spells, keyed⟩, rfl⟩
      · rintro ⟨⟨spells, keyed⟩, rfl⟩
        have decoded : decodePieces key = some (named (key, value)).1 := spells.decode
        rw [namedMembers?, decoded, ih.mpr ⟨keyed, rfl⟩]
        rfl

theorem ofJson?_object_eq_some_iff {members : List Member} {repo : Repository} :
    ofJson? (.object members) = some repo ↔
      (∀ member ∈ members, Spells (named member).1 member.1) ∧
        ofMembers? (members.map named) = some repo := by
  rw [ofJson?, Option.bind_eq_some_iff]
  constructor
  · rintro ⟨found, names, read⟩
    obtain ⟨keyed, rfl⟩ := namedMembers?_eq_some_iff.mp names
    exact ⟨keyed, read⟩
  · rintro ⟨keyed, read⟩
    exact ⟨_, namedMembers?_eq_some_iff.mpr ⟨keyed, rfl⟩, read⟩

/-- What a known member is read as, from all the members with its name. -/
def only {α : Type} (missing : Option α) (read : Json → Option α) :
    List (List Char × Json) → Option α
  | [] => missing
  | [(_, value)] => read value
  | _ => none

/-- The members with a name. -/
def under (name : String) (members : List (List Char × Json)) : List (List Char × Json) :=
  members.filter (·.1 = name.toList)

theorem member?_eq {α : Type} (members : List (List Char × Json)) (name : String)
    (missing : Option α) (read : Json → Option α) :
    member? members name missing read = only missing read (under name members) := rfl

theorem ofMembers?_eq_some_iff {members : List (List Char × Json)} {repo : Repository} :
    ofMembers? members = some repo ↔
      only none text? (under "full_name" members) = some repo.fullName ∧
      only (some none) optionalText? (under "html_url" members) = some repo.htmlUrl ∧
      only (some none) optionalText? (under "git_url" members) = some repo.gitUrl ∧
      only (some none) optionalText? (under "ssh_url" members) = some repo.sshUrl ∧
      only (some false) flag? (under "fork" members) = some repo.fork ∧
      only (some false) flag? (under "archived" members) = some repo.archived := by
  simp only [ofMembers?, member?_eq, Option.bind_eq_bind, Option.bind_eq_some_iff, Option.pure_def,
    Option.some.injEq]
  constructor
  · rintro ⟨fullName, name, html, readHtml, git, readGit, ssh, readSsh, fork, readFork, archived,
      readArchived, rfl⟩
    exact ⟨name, readHtml, readGit, readSsh, readFork, readArchived⟩
  · rintro ⟨name, readHtml, readGit, readSsh, readFork, readArchived⟩
    exact ⟨_, name, _, readHtml, _, readGit, _, readSsh, _, readFork, _, readArchived, rfl⟩

/-! ## Reading what is written -/

/-- All members of a block have the name. -/
def IsUnder (name : String) (block : List Member) : Prop :=
  ∀ member ∈ block, Spells name.toList member.1

theorem under_append (name : String) (front back : List (List Char × Json)) :
    under name (front ++ back) = under name front ++ under name back :=
  List.filter_append front back

theorem under_eq_nil {name : String} {block : List Member}
    (others : ∀ member ∈ block, ∃ other : String, Spells other.toList member.1 ∧ other ≠ name) :
    under name (block.map named) = [] := by
  apply List.filter_eq_nil_iff.mpr
  intro entry found
  obtain ⟨member, inBlock, rfl⟩ := List.mem_map.mp found
  obtain ⟨other, keyed, differs⟩ := others member inBlock
  rw [named_of_spells keyed, decide_eq_true_eq]
  exact fun same => differs (String.toList_inj.mp same)

theorem IsUnder.under_eq {other : String} {block : List Member} (isUnder : IsUnder other block)
    (name : String) :
    under name (block.map named) = if other = name then block.map named else [] := by
  split
  next same =>
    subst same
    apply List.filter_eq_self.mpr
    intro entry found
    obtain ⟨member, inBlock, rfl⟩ := List.mem_map.mp found
    rw [named_of_spells (isUnder member inBlock)]
    exact decide_eq_true rfl
  next differs =>
    exact under_eq_nil fun member inBlock => ⟨other, isUnder member inBlock, differs⟩

/-- What is read of the members with a name does not depend on the order of all members. -/
theorem only_of_perm {α : Type} {missing : Option α} {read : Json → Option α} {value : α}
    {name : String} {members others block : List Member} (order : members.Perm others)
    (found : under name (others.map named) = block.map named)
    (reads : only missing read (block.map named) = some value ∧ block.length ≤ 1) :
    only missing read (under name (members.map named)) = some value := by
  have same : (under name (members.map named)).Perm (block.map named) :=
    found ▸ (order.map named).filter _
  obtain ⟨reads, few⟩ := reads
  match block, few with
  | [], _ => rwa [same.eq_nil]
  | [member], _ => rwa [List.perm_singleton.mp same]

theorem IsText.reads {text : String} {value : Json} (isText : IsText text value) :
    text? value = some text := by
  obtain ⟨spells⟩ := isText
  rw [text?, spells.decode, Option.map_some, String.ofList_toList]

theorem IsUrl.reads {url : Option String} {value : Json} (isUrl : IsUrl url value) :
    optionalText? value = some url := by
  cases isUrl with
  | text isText =>
      have read := congrArg (Option.map some) isText.reads
      cases isText
      exact read
  | null => rfl

theorem IsFlag.reads {flag : Bool} {value : Json} (isFlag : IsFlag flag value) :
    flag? value = some flag := by
  cases isFlag
  rfl

section Gives

variable {α : Type} {name : String} {isWritten : α → Json → Prop} {missing : Option α} {field : α}
  {block : List Member}

theorem Gives.isUnder (gives : Gives name isWritten missing field block) : IsUnder name block := by
  cases gives with
  | written keyed => exact List.forall_mem_singleton.mpr keyed
  | leftOut => exact fun _ member => absurd member List.not_mem_nil

theorem Gives.only {read : Json → Option α} (gives : Gives name isWritten missing field block)
    (reads : ∀ {field value}, isWritten field value → read value = some field) :
    only missing read (block.map named) = some field ∧ block.length ≤ 1 := by
  cases gives with
  | written _ writes => exact ⟨reads writes, Nat.le_refl 1⟩
  | leftOut absent => exact ⟨absent, Nat.zero_le 1⟩

end Gives

theorem Describes.ofJson? {repo : Repository} {value : Json} (describes : Describes repo value) :
    ofJson? value = some repo := by
  obtain @⟨fullName, html, git, ssh, fork, archived, others, members, givesName, givesHtml,
    givesGit, givesSsh, givesFork, givesArchived, foreign, order⟩ := describes
  have keyed : ∀ member ∈ members, Spells (named member).1 member.1 := by
    intro member inObject
    have spells {name : String} (spells : Spells name.toList member.1) :
        Spells (named member).1 member.1 := (named_of_spells spells).symm ▸ spells
    have somewhere := order.mem_iff.mp inObject
    simp only [List.mem_append] at somewhere
    obtain (((((found | found) | found) | found) | found) | found) | found := somewhere
    · exact spells (givesName.isUnder member found)
    · exact spells (givesHtml.isUnder member found)
    · exact spells (givesGit.isUnder member found)
    · exact spells (givesSsh.isUnder member found)
    · exact spells (givesFork.isUnder member found)
    · exact spells (givesArchived.isUnder member found)
    · obtain ⟨_, foreign, _⟩ := foreign member found
      exact spells foreign
  have unknown {name : String} (known : name ∈ knownNames) : under name (others.map named) = [] :=
    under_eq_nil fun member inOthers => by
      obtain ⟨other, spells, absent⟩ := foreign member inOthers
      exact ⟨other, spells, fun same => absent (same ▸ known)⟩
  -- The fields have different names, so that the members with one of them are its own.
  have blocks {name : String} (known : name ∈ knownNames) :
      under name ((fullName ++ html ++ git ++ ssh ++ fork ++ archived ++ others).map named) =
        (if "full_name" = name then fullName.map named else []) ++
        (if "html_url" = name then html.map named else []) ++
        (if "git_url" = name then git.map named else []) ++
        (if "ssh_url" = name then ssh.map named else []) ++
        (if "fork" = name then fork.map named else []) ++
        (if "archived" = name then archived.map named else []) := by
    simp only [List.map_append, under_append, givesName.isUnder.under_eq,
      givesHtml.isUnder.under_eq, givesGit.isUnder.under_eq, givesSsh.isUnder.under_eq,
      givesFork.isUnder.under_eq, givesArchived.isUnder.under_eq, unknown known, List.append_nil]
  refine ofJson?_object_eq_some_iff.mpr ⟨keyed, ofMembers?_eq_some_iff.mpr ?_⟩
  refine ⟨only_of_perm order ?_ (givesName.only IsText.reads),
    only_of_perm order ?_ (givesHtml.only IsUrl.reads),
    only_of_perm order ?_ (givesGit.only IsUrl.reads),
    only_of_perm order ?_ (givesSsh.only IsUrl.reads),
    only_of_perm order ?_ (givesFork.only IsFlag.reads),
    only_of_perm order ?_ (givesArchived.only IsFlag.reads)⟩ <;>
    exact (blocks (by decide)).trans (by simp)

/-! ## What spoils a page -/

theorem only_eq_some {α : Type} {missing : Option α} {read : Json → Option α} {value : α}
    {entries : List (List Char × Json)} (reads : only missing read entries = some value) :
    entries.length ≤ 1 := by
  match entries with
  | [] => exact Nat.zero_le 1
  | [_] => exact Nat.le_refl 1
  | _ :: _ :: _ => cases reads

theorem named_mem_under {name : String} {members : List Member} {member : Member}
    (keyed : Spells name.toList member.1) (found : member ∈ members) :
    (name.toList, member.2) ∈ under name (members.map named) := by
  rw [← named_of_spells keyed]
  apply List.mem_filter_of_mem (List.mem_map_of_mem found)
  rw [named_of_spells keyed]
  exact decide_eq_true rfl

theorem under_length_of_known {members : List (List Char × Json)} {repo : Repository}
    (read : ofMembers? members = some repo) {name : String} (known : name ∈ knownNames) :
    (under name members).length ≤ 1 := by
  obtain ⟨readName, readHtml, readGit, readSsh, readFork, readArchived⟩ :=
    ofMembers?_eq_some_iff.mp read
  simp only [knownNames, List.mem_cons, List.not_mem_nil, or_false] at known
  obtain rfl | rfl | rfl | rfl | rfl | rfl := known
  · exact only_eq_some readName
  · exact only_eq_some readHtml
  · exact only_eq_some readGit
  · exact only_eq_some readSsh
  · exact only_eq_some readFork
  · exact only_eq_some readArchived

theorem only_flag?_of_null {name : List Char} {entries : List (List Char × Json)}
    (null : (name, .null) ∈ entries) : only (some false) flag? entries = none := by
  match entries with
  | [_] =>
      cases List.mem_singleton.mp null
      rfl
  | _ :: _ :: _ => rfl

theorem Spoils.ofJson? {value : Json} (spoils : Spoils value) : ofJson? value = none := by
  rw [Option.eq_none_iff_forall_ne_some]
  intro repo read
  cases spoils with
  | @nameless members absent =>
      obtain ⟨keyed, reads⟩ := ofJson?_object_eq_some_iff.mp read
      obtain ⟨reads, _⟩ := ofMembers?_eq_some_iff.mp reads
      have empty : under "full_name" (members.map named) = [] := by
        apply List.filter_eq_nil_iff.mpr
        intro entry found
        obtain ⟨member, inObject, rfl⟩ := List.mem_map.mp found
        rw [decide_eq_true_eq]
        exact fun same => absent member inObject (same ▸ keyed member inObject)
      rw [empty] at reads
      cases reads
  | @repeats members name first second known keyed again twice =>
      obtain ⟨_, reads⟩ := ofJson?_object_eq_some_iff.mp read
      have isUnder : IsUnder name [first, second] :=
        List.forall_mem_cons.mpr ⟨keyed, List.forall_mem_singleton.mpr again⟩
      have both : (under name ([first, second].map named)).Sublist
          (under name (members.map named)) := (twice.map named).filter _
      rw [isUnder.under_eq, if_pos rfl] at both
      have few := Nat.le_trans both.length_le (under_length_of_known reads known)
      exact absurd few (Nat.not_succ_le_self 1)
  | @nullFlag members name key flag keyed null =>
      obtain ⟨_, reads⟩ := ofJson?_object_eq_some_iff.mp read
      obtain ⟨_, _, _, _, readFork, readArchived⟩ := ofMembers?_eq_some_iff.mp reads
      have none := only_flag?_of_null (named_mem_under keyed null)
      obtain rfl | rfl := flag
      · cases none.symm.trans readFork
      · cases none.symm.trans readArchived

theorem ofElements?_of_describes {repos : List Repository} {elements : List Json}
    (describes : List.Forall₂ Describes repos elements) : ofElements? elements = some repos := by
  induction describes with
  | nil => rfl
  | cons first _ ih =>
      rw [ofElements?, first.ofJson?, ih]
      rfl

theorem ofElements?_of_spoils {elements : List Json} {element : Json} (found : element ∈ elements)
    (spoils : Spoils element) : ofElements? elements = none := by
  induction elements with
  | nil => cases found
  | cons first rest ih =>
      rw [ofElements?]
      obtain rfl | found := List.mem_cons.mp found
      · rw [spoils.ofJson?]
        rfl
      · rw [ih found]
        cases Repository.ofJson? first <;> rfl

/-! ## Pages -/

/-- **How a page may be written.** -/
def WritesPage (repos : List Repository) (text : String) : Prop :=
  ∃ elements, Writes (.value (.array elements)) text.toList ∧ List.Forall₂ Describes repos elements

/-- A page on which an object is spoiled, whatever the other elements are like. -/
def WritesSpoiled (text : String) : Prop :=
  ∃ elements, Writes (.value (.array elements)) text.toList ∧ ∃ element ∈ elements, Spoils element

/-- The member can be written. -/
def IsWritable (member : Member) : Prop := ∃ text, Writes (.member member) text

/-- The value can be written. -/
def IsExpressible (value : Json) : Prop := ∃ text, Writes (.value value) text

theorem exists_isText (text : String) : ∃ value, IsText text value ∧ IsExpressible value := by
  obtain ⟨pieces, literal, spells, isLiteral⟩ := exists_isLiteral text.toList
  exact ⟨_, .spelled spells, _, .string isLiteral⟩

theorem exists_isUrl (url : Option String) : ∃ value, IsUrl url value ∧ IsExpressible value := by
  cases url with
  | none => exact ⟨_, .null, _, .null⟩
  | some url =>
      obtain ⟨value, isText, expressible⟩ := exists_isText url
      exact ⟨value, .text isText, expressible⟩

theorem exists_isFlag (flag : Bool) : ∃ value, IsFlag flag value ∧ IsExpressible value := by
  cases flag with
  | false => exact ⟨_, .bool, _, .no⟩
  | true => exact ⟨_, .bool, _, .yes⟩

theorem exists_gives {α : Type} (name : String) {isWritten : α → Json → Prop} {missing : Option α}
    {field : α} (expressed : ∃ value, isWritten field value ∧ IsExpressible value) :
    ∃ block, Gives name isWritten missing field block ∧ ∀ member ∈ block, IsWritable member := by
  obtain ⟨value, writes, text, written⟩ := expressed
  obtain ⟨key, literal, keyed, isLiteral⟩ := exists_isLiteral name.toList
  refine ⟨_, .written keyed writes, List.forall_mem_singleton.mpr ?_⟩
  exact ⟨_, .member isBlank_nil isLiteral isBlank_nil written⟩

theorem exists_describes (repo : Repository) :
    ∃ value, Describes repo value ∧ IsExpressible value := by
  obtain ⟨fullName, givesName, writesName⟩ := exists_gives "full_name" (exists_isText repo.fullName)
  obtain ⟨html, givesHtml, writesHtml⟩ := exists_gives "html_url" (exists_isUrl repo.htmlUrl)
  obtain ⟨git, givesGit, writesGit⟩ := exists_gives "git_url" (exists_isUrl repo.gitUrl)
  obtain ⟨ssh, givesSsh, writesSsh⟩ := exists_gives "ssh_url" (exists_isUrl repo.sshUrl)
  obtain ⟨fork, givesFork, writesFork⟩ := exists_gives "fork" (exists_isFlag repo.fork)
  obtain ⟨archived, givesArchived, writesArchived⟩ :=
    exists_gives "archived" (exists_isFlag repo.archived)
  refine ⟨_, .object givesName givesHtml givesGit givesSsh givesFork givesArchived
    (fun _ member => absurd member List.not_mem_nil) (.refl _), exists_writes_object ?_⟩
  rw [List.append_nil]
  simp only [List.forall_mem_append]
  exact ⟨⟨⟨⟨⟨writesName, writesHtml⟩, writesGit⟩, writesSsh⟩, writesFork⟩, writesArchived⟩

theorem exists_writesPage (repos : List Repository) : ∃ text, WritesPage repos text := by
  have elements : ∃ elements, List.Forall₂ Describes repos elements ∧
      ∀ element ∈ elements, IsExpressible element := by
    induction repos with
    | nil => exact ⟨[], .nil, fun _ member => absurd member List.not_mem_nil⟩
    | cons repo repos ih =>
        obtain ⟨elements, describes, written⟩ := ih
        obtain ⟨value, first, text⟩ := exists_describes repo
        exact ⟨_, .cons first describes, List.forall_mem_cons.mpr ⟨text, written⟩⟩
  obtain ⟨elements, describes, written⟩ := elements
  obtain ⟨text, writes⟩ := exists_writes_array written
  refine ⟨String.ofList text, elements, ?_, describes⟩
  rw [String.toList_ofList]
  exact writes

end Repository

/-- What a response with a page gives. -/
theorem PageResponse.repositories_of_success {response : PageResponse}
    (success : 200 ≤ response.status ∧ response.status < 300) (now : Int) :
    response.repositories now =
      match Repository.readPage? response.body with
      | some repos => .ok repos
      | none => .error (.parse "Failed to parse repositories") := by
  have free : isRateLimited response.status response.headers = false := by
    rw [isRateLimited, if_neg (by omega), if_neg (by omega)]
  rw [repositories, free, if_neg Bool.false_ne_true]
  exact if_pos success

/-- **Reading a page inverts writing it.**  Every list of repositories can be written, and however
it is written, the page is read as exactly this list.  A page on which an object has no name, a
known member twice or a flag that is `null` gives a failure and no repository. -/
theorem Repository.reads_what_is_written :
    (∀ repos, ∃ text, WritesPage repos text) ∧
    ∀ (response : PageResponse) (now : Int), 200 ≤ response.status ∧ response.status < 300 →
      (∀ repos, WritesPage repos response.body →
        readPage? response.body = some repos ∧ response.repositories now = .ok repos) ∧
      (WritesSpoiled response.body → readPage? response.body = none ∧
        response.repositories now = .error (.parse "Failed to parse repositories")) := by
  refine ⟨exists_writesPage, fun response now success => ?_⟩
  rw [PageResponse.repositories_of_success success]
  refine ⟨?_, ?_⟩
  · rintro repos ⟨elements, writes, describes⟩
    have read : readPage? response.body = some repos := by
      rw [readPage?, Json.ofText?_of_writes writes]
      exact ofElements?_of_describes describes
    rw [read]
    exact ⟨rfl, rfl⟩
  · rintro ⟨elements, writes, element, found, spoils⟩
    have read : readPage? response.body = none := by
      rw [readPage?, Json.ofText?_of_writes writes]
      exact ofElements?_of_spoils found spoils
    rw [read]
    exact ⟨rfl, rfl⟩

/-- A name with an escape behind a URL that is `null` and a member that is not known. -/
def Repository.oddPage : PageResponse :=
  { body := "[ \x7b\"id\":[\x7b\x7d,-1.5e3],\"git_url\":null,\"full_name\":\"o\\/r\"\x7d]" }

/-- A name that is there and a flag that is `null`. -/
def Repository.spoiledPage : PageResponse :=
  { body := "[\x7b\"full_name\":\"r\",\"fork\":null\x7d]" }

namespace Repository

open Json

theorem writesPage_oddPage : WritesPage [{ fullName := "o/r" }] oddPage.body := by
  have digits (c : Char) (digit : c.isDigit = true) : IsDigits [c] :=
    ⟨List.cons_ne_nil _ _, List.forall_mem_singleton.mpr digit⟩
  have space : IsBlank [' '] := List.forall_mem_singleton.mpr (.inl rfl)
  have id : IsLiteral _ ['i', 'd'] := isLiteral_plain rfl
  have gitUrl : IsLiteral _ "git_url".toList := isLiteral_plain rfl
  have fullName : IsLiteral _ "full_name".toList := isLiteral_plain rfl
  have name : IsLiteral _ ['o', '\\', '/', 'r'] :=
    .cons (.plain (by decide) (by decide) (by decide)) (.cons (.short (c := '/') (by decide))
      (.cons (.plain (by decide) (by decide) (by decide)) .nil))
  have numeral : IsNumeral ['-', '1', '.', '5', 'e', '3'] :=
    .parts (.inr rfl) (.digits (by decide) (digits '1' rfl)) (.point (digits '5' rfl))
      (.power (.inl rfl) (.inl rfl) (digits '3' rfl))
  have writes := Writes.array (.item (.blanks space (.object (.members
    (.member isBlank_nil id isBlank_nil (.array (.items (.emptyObject isBlank_nil)
      (.item (.number numeral)))))
    (.members (.member isBlank_nil gitUrl isBlank_nil .null)
      (.last (.member isBlank_nil fullName isBlank_nil (.string name)))))) isBlank_nil))
  refine ⟨_, writes, .cons ?_ .nil⟩
  exact .object (.written (spells_plain _) (.spelled (spells_plain ['o', '/', 'r']))) (.leftOut rfl)
    (.written (spells_plain _) .null) (.leftOut rfl) (.leftOut rfl) (.leftOut rfl)
    (List.forall_mem_singleton.mpr ⟨"id", spells_plain _, by decide⟩) (List.reverse_perm [_, _, _])

theorem writesSpoiled_spoiledPage : WritesSpoiled spoiledPage.body := by
  have fullName : IsLiteral _ "full_name".toList := isLiteral_plain rfl
  have fork : IsLiteral _ "fork".toList := isLiteral_plain rfl
  have name : IsLiteral _ ['r'] := isLiteral_plain rfl
  have writes := Writes.array (.item (.object (.members
    (.member isBlank_nil fullName isBlank_nil (.string name))
    (.last (.member isBlank_nil fork isBlank_nil .null)))))
  exact ⟨_, writes, _, List.mem_cons_self, .nullFlag (.inl rfl) (spells_plain _)
    (List.mem_cons_of_mem _ List.mem_cons_self)⟩

/-- The one page is read in spite of its spelling, and of the other one nothing is read. -/
theorem reads_what_is_written_oddly :
    WritesPage [{ fullName := "o/r" }] oddPage.body ∧
      oddPage.repositories 0 = .ok [{ fullName := "o/r" }] ∧
    WritesSpoiled spoiledPage.body ∧
      spoiledPage.repositories 0 = .error (.parse "Failed to parse repositories") :=
  ⟨writesPage_oddPage, ((reads_what_is_written.2 oddPage 0 (by decide)).1 _ writesPage_oddPage).2,
    writesSpoiled_spoiledPage,
    ((reads_what_is_written.2 spoiledPage 0 (by decide)).2 writesSpoiled_spoiledPage).2⟩

end Repository

end RepoCollector
