import RepoCollector.Duration
import RepoCollector.Library.Error

/-!
# Failures of discovery

`DiscoveryError` is what a source of repositories answers when it has none to give, and
`ProviderError` is how a provider's run ends.  Provider errors are told apart by their kind, never
by their text.
-/

namespace RepoCollector

/-- Why a source gave no repository. -/
inductive DiscoveryError where
  /-- There is nothing new for now. -/
  | endOfSource (retryAfter : Option Duration)
  | rateLimited (retryAfter : Option Duration)
  /-- A request failed; a hint marks a failure that is worth another try. -/
  | http (text : String) (retryAfter : Option Duration)
  | parse (text : String)
  | cancelled
deriving DecidableEq, Repr

namespace DiscoveryError

/-- The name of the kind of failure. -/
def name : DiscoveryError → String
  | .endOfSource _ => "EndOfSource"
  | .rateLimited _ => "RateLimited"
  | .http _ _ => "Http"
  | .parse _ => "Parse"
  | .cancelled => "Cancelled"

/-- The source's hint when to ask again. -/
def retryAfter : DiscoveryError → Option Duration
  | .endOfSource hint => hint
  | .rateLimited hint => hint
  | .http _ hint => hint
  | _ => none

def message : DiscoveryError → String
  | .endOfSource _ => "No new repositories in source"
  | .rateLimited hint => s!"Rate limited: retry after {Duration.describeOption hint}"
  | .http text _ => s!"HTTP request failed: {text}"
  | .parse text => s!"Failed to parse response: {text}"
  | .cancelled => "Discovery cancelled"

end DiscoveryError

/-- The kinds of provider errors. -/
inductive ProviderErrorKind where
  /-- The provider ended on request, or because its source ran dry and it was not to wait. -/
  | providerStopped
  /-- The provider did not acknowledge a stop in time. -/
  | providerStop
  /-- A repository has no usable endpoint. -/
  | endpointsNotFound
  | newRepositoriesNotFound
  | rateLimitExceeded
  /-- Any other failure of discovery. -/
  | discovery
deriving DecidableEq, Repr, Inhabited

/-- The name of a kind of provider errors. -/
def ProviderErrorKind.name : ProviderErrorKind → String
  | .providerStopped => "ProviderStopped"
  | .providerStop => "ProviderStop"
  | .endpointsNotFound => "EndpointsNotFound"
  | .newRepositoriesNotFound => "NewRepositoriesNotFound"
  | .rateLimitExceeded => "RateLimitExceeded"
  | .discovery => "Discovery"

def ProviderErrorKind.message : ProviderErrorKind → String
  | .providerStopped => "provider stopped"
  | .providerStop => "provider failed on stop"
  | .endpointsNotFound => "endpoints not found"
  | .newRepositoriesNotFound => "couldn't find new repositories"
  | .rateLimitExceeded => "rate limit requests exceeded"
  | .discovery => "discovery failed"

/-- The text of the error that a closed queue gives to those who no longer hold the job. -/
def queueClosedMessage (queue : String) : String :=
  s!"Queue '{queue}' is closed"

/-- How a provider ended: a kind, and what caused it if anything did. -/
inductive ProviderError where
  | plain (kind : ProviderErrorKind)
  /-- The error names the repository it is about. -/
  | about (kind : ProviderErrorKind) (repository : String)
  | byText (kind : ProviderErrorKind) (text : String)
  | byProvider (kind : ProviderErrorKind) (cause : ProviderError)
  | byDiscovery (kind : ProviderErrorKind) (cause : DiscoveryError)
  | byLibrary (kind : ProviderErrorKind) (cause : LibraryError)
  /-- The named queue was closed. -/
  | byQueue (kind : ProviderErrorKind) (queue : String)
deriving DecidableEq, Repr, Inhabited

namespace ProviderError

/-- A requested end. -/
def stopped : ProviderError := .plain .providerStopped

/-- An end that another provider error caused. -/
def stoppedBy (cause : ProviderError) : ProviderError := .byProvider .providerStopped cause

/-- A stop that was not acknowledged in time. -/
def stopFailed (timeout : Duration) : ProviderError :=
  .byText .providerStop s!"no acknowledgement within {timeout.describe}"

def kind : ProviderError → ProviderErrorKind
  | .plain kind | .about kind _ | .byText kind _ | .byProvider kind _ | .byDiscovery kind _
  | .byLibrary kind _ | .byQueue kind _ => kind

/-- The repository that the error is about. -/
def repository? : ProviderError → Option String
  | .about _ repository => some repository
  | _ => none

/-- The kind of the cause, if the cause is itself a provider error. -/
def causeKind? : ProviderError → Option ProviderErrorKind
  | .byProvider _ cause => some cause.kind
  | _ => none

@[simp]
theorem kind_stopped : stopped.kind = .providerStopped := rfl

@[simp]
theorem causeKind?_stopped : stopped.causeKind? = none := rfl

@[simp]
theorem kind_stoppedBy (cause : ProviderError) : (stoppedBy cause).kind = .providerStopped := rfl

@[simp]
theorem causeKind?_stoppedBy (cause : ProviderError) :
    (stoppedBy cause).causeKind? = some cause.kind := rfl

def message (error : ProviderError) : String :=
  match error.repository? with
  | some repository => error.kind.message ++ ": " ++ repository
  | none => error.kind.message

/-- The texts of the causes, the nearest first. -/
def causes : ProviderError → List String
  | .plain _ | .about _ _ => []
  | .byText _ text => [text]
  | .byProvider _ cause => cause.message :: cause.causes
  | .byDiscovery _ cause => [cause.message]
  | .byLibrary _ cause => cause.message :: cause.causes
  | .byQueue _ queue => [queueClosedMessage queue]

end ProviderError

end RepoCollector
