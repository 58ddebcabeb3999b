import RepoCollector.CommandLine.Arguments
import RepoCollector.Discovery.Listing
import RepoCollector.Discovery.Provider
import RepoCollector.Library.Git
import RepoCollector.Pool.Basic
import RepoCollector.Text.Blank
import RepoCollector.Text.Quoted

/-!
# From arguments to settings

What the arguments of a command mean for the parts that it is made of: the pool, the library, the
listings and the providers.
-/

namespace RepoCollector

namespace PoolArguments

/-- The number of workers: as asked for, or twice the number of processors. -/
def workerCount (arguments : PoolArguments) (processors : Nat) : Nat :=
  if arguments.workers > 0 then arguments.workers else processors * 2

def poolConfig (arguments : PoolArguments) (processors : Nat) : PoolConfig :=
  { workers := arguments.workerCount processors
    jobTimeout := arguments.jobTimeout.map .ofSecs }

def libraryConfig (arguments : PoolArguments) : LibraryConfig :=
  { root := arguments.library }

end PoolArguments

namespace DownloadArguments

/-- The organizations that have a name. -/
def organizations (arguments : DownloadArguments) : List String :=
  (arguments.orgs.map Text.trimmed).filter (· ≠ "")

/-- A download never fetches into a clone that is in place: updates do that, unless they are not
wanted. -/
def libraryConfig (arguments : DownloadArguments) : LibraryConfig :=
  (arguments.pool.libraryConfig).withToken arguments.token

def listingConfig (arguments : DownloadArguments) : ListingConfig :=
  { skipForks := arguments.noForks
    skipArchived := arguments.noArchived
    pollInterval := .ofSecs arguments.pollInterval }

/-- The listing of an organization. -/
def listing (arguments : DownloadArguments) (org : String) : OrgListing :=
  .make org arguments.token arguments.listingConfig

def providerOpts (arguments : DownloadArguments) : ProviderOpts :=
  { waitNewRepos := arguments.waitNewRepos
    waitOnRateLimit := arguments.waitOnRateLimit
    enqueueTimeout := .ofSecs arguments.enqueueTimeout
    stopTimeout := .ofSecs arguments.stopTimeout }

end DownloadArguments

/-- The settings of the library that a command works on. -/
def Command.libraryConfig : Command → LibraryConfig
  | .download arguments => arguments.libraryConfig
  | .update arguments => arguments.libraryConfig

/-- What a command is going to do. -/
def Command.plan (processors : Nat) : Command → String
  | .download arguments =>
    s!"Starting download: orgs={Text.quotedList arguments.organizations}, " ++
      s!"workers={arguments.pool.workerCount processors}, library={arguments.pool.library}"
  | .update arguments =>
    s!"Starting update: workers={arguments.workerCount processors}, " ++
      s!"library={arguments.library}"

/-- Why a command failed. -/
inductive CommandError where
  /-- No organization has a name. -/
  | noOrganizations
  /-- Some providers ended otherwise than by being stopped. -/
  | providersFailed (count : Nat)
  /-- The library could not be listed. -/
  | unlisted (cause : ProviderError)
deriving DecidableEq, Repr

/-- The text of a failure and the texts of its causes. -/
def CommandError.texts : CommandError → List String
  | .noOrganizations => ["No organizations given"]
  | .providersFailed count => [s!"{count} provider(s) failed"]
  | .unlisted cause =>
    "Failed to list library repositories" :: cause.message :: cause.causes

end RepoCollector
