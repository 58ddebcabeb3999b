import RepoCollector.Discovery.Listing

/-!
# A server of listings

Answers requests for the pages of organizations by a script.  When the script has run out, every
page is empty.  A server that is not reachable never sees a request.
-/

namespace RepoCollector

/-- A server and the requests that it saw. -/
structure PageServer where
  reachable : Bool := true
  /-- The answers that are left, by the organization as it is spelled in a path.  Where an answer is
  missing, the connection is closed instead. -/
  answers : List (String × List (Option PageResponse)) := []
  /-- The last one first. -/
  requests : List PageRequest := []
deriving Repr

namespace PageServer

/-- The server's next answer for an organization. -/
def pull (server : PageServer) (org : String) : PageServer × Option PageResponse :=
  match server.answers.lookup org with
  | some (answer :: rest) =>
    let others := server.answers.filter (·.1 ≠ org)
    ({ server with answers := (org, rest) :: others }, answer)
  | _ => (server, some { body := "[]" })

/-- The outcome of a request. -/
def fetch (server : PageServer) (listing : OrgListing) (page : Nat) :
    PageServer × Except DiscoveryError (List Repository) :=
  let request := listing.request page
  if !request.isSendable || !server.reachable then (server, .error (connectionFailure "not sent"))
  else
    let (server, answer) := server.pull (Text.percentEncoded listing.org)
    let server := { server with requests := request :: server.requests }
    match answer with
    | some response => (server, response.repositories 0)
    | none => (server, .error (connectionFailure "connection closed"))

/-- Asks a listing for its next repository, fetching pages as long as they are needed. -/
def next (cancelled : Bool) :
    Nat → PageServer → OrgListing → PageServer × OrgListing × Except DiscoveryError Repository
  | 0, server, listing => (server, listing, .error .cancelled)
  | fuel + 1, server, listing =>
    match listing.next with
    | (listing, .answer answer) => (server, listing, answer)
    | (listing, .fetch page) =>
      if cancelled then (server, listing, .error .cancelled)
      else
        match server.fetch listing page with
        | (server, .ok repos) => next cancelled fuel server (listing.absorb repos)
        | (server, .error failure) => (server, listing, .error failure)

/-- How many pages a listing may have to fetch until there is an answer. -/
def patience (server : PageServer) : Nat :=
  server.answers.foldl (fun sum entry => sum + entry.2.length) 0 + 3

/-- A listing's next repository, or why there is none. -/
def serve (server : PageServer) (cancelled : Bool) (listing : OrgListing) :
    PageServer × OrgListing × Except DiscoveryError Repository :=
  next cancelled server.patience server listing

end PageServer

end RepoCollector
