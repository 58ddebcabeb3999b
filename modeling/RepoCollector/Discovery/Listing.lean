import RepoCollector.Discovery.Error
import RepoCollector.Discovery.RateLimit
import RepoCollector.Discovery.Status
import RepoCollector.Repository
import RepoCollector.Text.Percent

/-!
# The listing of an organization

The repositories of an organization are listed page by page, the oldest first, so that new ones
appear at the end.  `OrgListing` hands them out one at a time: it keeps what is left of the last
page and the names that it has handed out, and it knows the page to ask for next.  A page that is
not full is the last one for now; when it is used up the listing reports its end once, and asks for
that page again afterwards.

`OrgListing.next` is what can be said without asking: a repository, the end, or the page that has to
be fetched first.  `OrgListing.absorb` takes the repositories of a page that was fetched.  A fetch
that fails changes nothing.
-/

namespace RepoCollector

/-- The settings of a listing. -/
structure ListingConfig where
  /-- Repositories on a full page. -/
  perPage : Nat := 100
  /-- The delay suggested after the last page. -/
  pollInterval : Duration := .ofSecs 3600
  skipForks : Bool := false
  skipArchived : Bool := false
  /-- The base URL of the API. -/
  apiBase : String := "https://api.github.com"
  requestTimeout : Duration := .ofSecs 60
deriving DecidableEq, Repr

/-- A page size within what the API accepts. -/
def ListingConfig.clampPage (perPage : Nat) : Nat := max 1 (min perPage 100)

/-- A request for a page. -/
structure PageRequest where
  method : String
  url : String
  accept : String
  agent : String
  version : String
  authorization : Option String
deriving DecidableEq, Repr

namespace PageRequest

/-- Whether a text may be sent as the value of a header. -/
def isHeaderValue (value : String) : Bool :=
  (Text.bytesOf value).all fun byte => (32 ≤ byte && byte != 127) || byte == 9

/-- Whether the request can be sent at all. -/
def isSendable (request : PageRequest) : Bool :=
  match request.authorization with
  | some value => isHeaderValue value
  | none => true

end PageRequest

/-- A response to a request for a page. -/
structure PageResponse where
  status : Nat := 200
  headers : Headers := []
  body : String := ""
deriving DecidableEq, Repr

/-- The delay suggested after failures of the server or of the connection. -/
def serverErrorRetry : Duration := .ofSecs 5

/-- The outcome of a request that got no response. -/
def connectionFailure (text : String) : DiscoveryError :=
  .http text (some serverErrorRetry)

/-- The overflow at which the reading of a response breaks off at a given second, if it does: the
time until a rate limit is lifted leaves the range of its numbers. -/
def PageResponse.overflow? (response : PageResponse) (now : Int) : Option Overflow :=
  if isRateLimited response.status response.headers then
    match rateLimitDelay response.headers now with
    | .ok _ => none
    | .error overflow => some overflow
  else none

/-- The repositories of a response, read at a given second, when the reading does not break off. -/
def PageResponse.repositories (response : PageResponse) (now : Int) :
    Except DiscoveryError (List Repository) :=
  if isRateLimited response.status response.headers then
    let delay := match rateLimitDelay response.headers now with
      | .ok delay => delay
      | .error _ => none
    .error (.rateLimited delay)
  else if 200 ≤ response.status ∧ response.status < 300 then
    match Repository.readPage? response.body with
    | some repos => .ok repos
    | none => .error (.parse "Failed to parse repositories")
  else
    let text := "API returned status " ++ statusText response.status ++ ": " ++ response.body
    let transient := 500 ≤ response.status ∧ response.status < 600
    .error (.http text (if transient then some serverErrorRetry else none))

/-- The repositories of one organization. -/
structure OrgListing where
  org : String
  token : Option String
  config : ListingConfig
  /-- The page to fetch next. -/
  page : Nat := 1
  /-- What is left of the pages fetched. -/
  buffer : List Repository := []
  /-- The names handed out or in the buffer. -/
  seen : List String := []
  /-- Whether the last page has been fetched. -/
  atEnd : Bool := false
deriving DecidableEq, Repr

/-- What a listing says when it is asked for the next repository. -/
inductive ListingMove where
  | answer (answer : Except DiscoveryError Repository)
  /-- A page has to be fetched first. -/
  | fetch (page : Nat)

namespace OrgListing

/-- A listing from the beginning; an empty token counts as none. -/
def make (org : String) (token : Option String) (config : ListingConfig) : OrgListing :=
  { org, token := token.filter (· ≠ ""), config }

def hasToken (listing : OrgListing) : Bool := listing.token.isSome

/-- A text without the slashes at its end. -/
def withoutTrailingSlashes (text : String) : String :=
  String.ofList (text.toList.reverse.dropWhile (· = '/')).reverse

/-- The path and query of a page below the base URL. -/
def pageTarget (listing : OrgListing) (page : Nat) : String :=
  "/orgs/" ++ Text.percentEncoded listing.org ++
    s!"/repos?type=all&sort=created&direction=asc&per_page={listing.config.perPage}&page={page}"

/-- The request for a page. -/
def request (listing : OrgListing) (page : Nat) : PageRequest :=
  { method := "GET"
    url := withoutTrailingSlashes listing.config.apiBase ++ listing.pageTarget page
    accept := "application/vnd.github+json"
    agent := "gitcollector/1.0"
    version := "2022-11-28"
    authorization := listing.token.map ("Bearer " ++ ·) }

/-- The next repository, the end of the listing, or the page to fetch. -/
def next (listing : OrgListing) : OrgListing × ListingMove :=
  match listing.buffer with
  | repo :: buffer => ({ listing with buffer }, .answer (.ok repo))
  | [] =>
    if listing.atEnd then
      ({ listing with atEnd := false },
        .answer (.error (.endOfSource (some listing.config.pollInterval))))
    else (listing, .fetch listing.page)

/-- Whether the settings let a repository through. -/
def passes (config : ListingConfig) (repo : Repository) : Bool :=
  !(config.skipForks && repo.fork) && !(config.skipArchived && repo.archived)

/-- Takes one repository of a page into the buffer, unless it is filtered or was seen before. -/
def accept (listing : OrgListing) (repo : Repository) : OrgListing :=
  if passes listing.config repo ∧ repo.fullName ∉ listing.seen then
    { listing with buffer := listing.buffer ++ [repo], seen := repo.fullName :: listing.seen }
  else listing

/-- Takes the repositories of the page that was to be fetched. -/
def absorb (listing : OrgListing) (repos : List Repository) : OrgListing :=
  let listing :=
    if repos.length < listing.config.perPage then { listing with atEnd := true }
    else { listing with page := listing.page + 1 }
  repos.foldl accept listing

end OrgListing

end RepoCollector
