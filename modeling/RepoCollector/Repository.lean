import RepoCollector.Json.Value

/-!
# Repositories

A repository as a listing describes it, the endpoint it is fetched from, and the reading of one page
of a listing.

A page is a JSON array.  Each element is an object with the members below in any order, others being
ignored, or an array of the six fields in their order, where fields are left out at the end only.  A
member that is known and stands twice, a missing name, or a value of the wrong type spoils the whole
page: `readPage?` gives all repositories of a page or none.
-/

namespace RepoCollector

/-- A repository of a listing. -/
structure Repository where
  /-- The name with its owner, `owner/name`. -/
  fullName : String
  htmlUrl : Option String := none
  gitUrl : Option String := none
  sshUrl : Option String := none
  fork : Bool := false
  archived : Bool := false
deriving DecidableEq, Repr, Inhabited

namespace Repository

/-- The URLs of a repository, the preferred ones first. -/
def urls (repo : Repository) : List (Option String) :=
  [repo.htmlUrl, repo.gitUrl, repo.sshUrl]

/-- The first URL that is given and not empty. -/
def endpoint? (repo : Repository) : Option String :=
  (repo.urls.filterMap id).find? (· ≠ "")

/-- The text of a string value. -/
def text? : Json → Option String
  | .string pieces => (Json.decodePieces pieces).map String.ofList
  | _ => none

/-- A text that may be `null`. -/
def optionalText? : Json → Option (Option String)
  | .null => some none
  | value => (text? value).map some

/-- A truth value. -/
def flag? : Json → Option Bool
  | .bool value => some value
  | _ => none

/-- The members of an object with their names decoded. -/
def namedMembers? : List (List Json.Piece × Json) → Option (List (List Char × Json))
  | [] => some []
  | (key, value) :: rest => do
    let name ← Json.decodePieces key
    let rest ← namedMembers? rest
    return (name, value) :: rest

/-- The value of a member that may be missing.  Fails if the member stands twice or cannot be
read. -/
def member? {α : Type} (members : List (List Char × Json)) (name : String) (missing : Option α)
    (read : Json → Option α) : Option α :=
  match members.filter (·.1 = name.toList) with
  | [] => missing
  | [(_, value)] => read value
  | _ => none

/-- A repository from the members of an object. -/
def ofMembers? (members : List (List Char × Json)) : Option Repository := do
  let fullName ← member? members "full_name" none text?
  let htmlUrl ← member? members "html_url" (some none) optionalText?
  let gitUrl ← member? members "git_url" (some none) optionalText?
  let sshUrl ← member? members "ssh_url" (some none) optionalText?
  let fork ← member? members "fork" (some false) flag?
  let archived ← member? members "archived" (some false) flag?
  return { fullName, htmlUrl, gitUrl, sshUrl, fork, archived }

/-- The item at a place of an array, or a default past the end. -/
def item? {α : Type} (items : List Json) (place : Nat) (missing : Option α)
    (read : Json → Option α) : Option α :=
  match items[place]? with
  | some value => read value
  | none => missing

/-- A repository from the items of an array. -/
def ofItems? (items : List Json) : Option Repository := do
  if items.length > 6 then none
  let fullName ← item? items 0 none text?
  let htmlUrl ← item? items 1 (some none) optionalText?
  let gitUrl ← item? items 2 (some none) optionalText?
  let sshUrl ← item? items 3 (some none) optionalText?
  let fork ← item? items 4 (some false) flag?
  let archived ← item? items 5 (some false) flag?
  return { fullName, htmlUrl, gitUrl, sshUrl, fork, archived }

/-- A repository from an element of a page. -/
def ofJson? : Json → Option Repository
  | .object members => (namedMembers? members).bind ofMembers?
  | .array items => ofItems? items
  | _ => none

/-- Reads every element of a page. -/
def ofElements? : List Json → Option (List Repository)
  | [] => some []
  | value :: rest => do
    let repo ← ofJson? value
    let repos ← ofElements? rest
    return repo :: repos

/-- The repositories of a page, in order. -/
def readPage? (body : String) : Option (List Repository) :=
  match Json.ofText? body.toList with
  | some (.array elements) => ofElements? elements
  | _ => none

end Repository

end RepoCollector
