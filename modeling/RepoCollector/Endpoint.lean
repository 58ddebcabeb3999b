import RepoCollector.Library.Error
import RepoCollector.Text.Blank
import RepoCollector.Text.Cut

/-!
# Endpoints

An endpoint is the URL of a repository, `scheme://[user@]host/path`, or its short form
`[user@]host:path`.  All endpoints of one repository have one identifier, the host and the segments
of the path without a final `.git`, and the library keeps the clone of a repository under its
identifier.
-/

namespace RepoCollector

namespace Endpoint

/-- The mark between a scheme and the rest of a URL. -/
def schemeMark : List Char := [':', '/', '/']

/-- The suffix that a repository's name may carry. -/
def gitSuffix : List Char := ['.', 'g', 'i', 't']

/-- The part of an endpoint behind its scheme, the short form turned into the long one. -/
def withoutScheme? (endpoint : List Char) : Option (List Char) :=
  match Text.cutAt schemeMark endpoint with
  | some (_, rest) => some rest
  | none =>
    match Text.cutAtChar ':' endpoint with
    | some (host, path) => if '/' ∈ host then none else some (host ++ '/' :: path)
    | none => none

/-- Drops the user in front of the host. -/
def withoutUser (rest : List Char) : List Char :=
  match Text.cutAtChar '@' rest with
  | some (user, tail) => if '/' ∈ user then rest else tail
  | none => rest

/-- A text that may stand between two slashes of an identifier. -/
def isSegment (segment : List Char) : Bool :=
  segment ≠ [] ∧ segment ≠ ['.'] ∧ segment ≠ ['.', '.']

/-- The host and the path of the repository that an endpoint names. -/
def segments? (endpoint : List Char) : Option (List (List Char)) :=
  match withoutScheme? (Text.trim endpoint) with
  | none => none
  | some rest =>
    let path := Text.withoutTail gitSuffix (Text.trimWhere (· = '/') (withoutUser rest))
    let segments := Text.pieces '/' path
    if segments.length ≥ 2 ∧ segments.all isSegment then some segments else none

/-- Segments with slashes between them. -/
def joined (segments : List (List Char)) : List Char :=
  List.intercalate ['/'] segments

end Endpoint

/-- The identifier of the repository that an endpoint names. -/
def repositoryId (endpoint : String) : Except LibraryError String :=
  match Endpoint.segments? endpoint.toList with
  | some segments => .ok (String.ofList (Endpoint.joined segments))
  | none => .error (.invalidEndpoint endpoint)

namespace Endpoint

/-- The place of a clone below the library's directory: its identifier with `.git` at the end. -/
def clonePath (segments : List (List Char)) : List (List Char) :=
  segments.dropLast ++ [segments.getLast?.getD [] ++ gitSuffix]

/-- The place of the clone for an endpoint, below the library's directory. -/
def clonePath? (endpoint : String) : Except LibraryError (List (List Char)) :=
  match segments? endpoint.toList with
  | some segments => .ok (clonePath segments)
  | none => .error (.invalidEndpoint endpoint)

/-- A path below a directory.  A slash stands between them unless the directory is empty or ends in
one. -/
def below (root : List Char) (path : List (List Char)) : List Char :=
  if root = [] ∨ root.getLast? = some '/' then root ++ joined path
  else root ++ '/' :: joined path

/-- Takes user and password out of a URL that is spoken over HTTP. -/
def stripCredentials (url : List Char) : List Char :=
  match Text.cutAt schemeMark url with
  | none => url
  | some (scheme, rest) =>
    match Text.cutAtChar '@' rest with
    | none => url
    | some (_, host) =>
      match Text.afterLead ['h', 't', 't', 'p'] scheme with
      | some _ => scheme ++ schemeMark ++ host
      | none => url

/-- The scheme of endpoints that a token may be sent to. -/
def secureScheme : List Char := ['h', 't', 't', 'p', 's', ':', '/', '/']

/-- The host that a token may be sent to for an endpoint: that of a plain HTTPS endpoint without a
user. -/
def secureHost? (endpoint : List Char) : Option (List Char) :=
  match Text.afterLead secureScheme endpoint with
  | none => none
  | some rest =>
    let host := rest.takeWhile (· ≠ '/')
    if host = [] ∨ '@' ∈ host then none else some host

end Endpoint

/-- Where the clone for an endpoint lives in a library. -/
def repositoryPath (root endpoint : String) : Except LibraryError String :=
  match Endpoint.clonePath? endpoint with
  | .ok path => .ok (String.ofList (Endpoint.below root.toList path))
  | .error error => .error error

end RepoCollector
