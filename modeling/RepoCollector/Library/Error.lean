/-!
# Failures of the library

What can go wrong when the library looks at its files or runs git, with the text of each failure and
the texts of its successive causes.
-/

namespace RepoCollector

/-- A failure that the file system reports. -/
inductive FileFault where
  | notFound
  | alreadyExists
  | notDirectory
  | isDirectory
  | notEmpty
  | other (text : String)
deriving DecidableEq, Repr

namespace FileFault

/-- The text of a failure, with the system's number for it. -/
def message : FileFault → String
  | .notFound => "No such file or directory (os error 2)"
  | .alreadyExists => "File exists (os error 17)"
  | .notDirectory => "Not a directory (os error 20)"
  | .isDirectory => "Is a directory (os error 21)"
  | .notEmpty => "Directory not empty (os error 39)"
  | .other text => text

end FileFault

/-- A failure of a library operation. -/
inductive LibraryError where
  /-- The endpoint names no repository. -/
  | invalidEndpoint (endpoint : String)
  /-- The library holds no clone for the endpoint. -/
  | repositoryNotFound (repository : String)
  /-- A git command ended with a failure status. -/
  | git (operation endpoint stderr : String)
  /-- No endpoint of a job led to a success; `last` is the failure of the last one. -/
  | allEndpointsFailed (repository : String) (attempts : Nat) (last : LibraryError)
  | cancelled
  /-- A file operation or the start of git failed. -/
  | io (fault : FileFault)
deriving DecidableEq, Repr, Inhabited

namespace LibraryError

/-- The name of the kind of failure. -/
def name : LibraryError → String
  | .invalidEndpoint _ => "InvalidEndpoint"
  | .repositoryNotFound _ => "RepositoryNotFound"
  | .git _ _ _ => "Git"
  | .allEndpointsFailed _ _ _ => "AllEndpointsFailed"
  | .cancelled => "Cancelled"
  | .io _ => "Io"

def message : LibraryError → String
  | .invalidEndpoint endpoint => s!"Invalid endpoint '{endpoint}'"
  | .repositoryNotFound repository => s!"Repository '{repository}' is not in the library"
  | .git operation endpoint stderr => s!"git {operation} failed for {endpoint}: {stderr}"
  | .allEndpointsFailed repository attempts _ =>
    s!"All {attempts} endpoints failed for '{repository}'"
  | .cancelled => "Operation cancelled"
  | .io fault => s!"IO error: {fault.message}"

/-- The texts of the causes, the nearest first. -/
def causes : LibraryError → List String
  | .allEndpointsFailed _ _ last => last.message :: last.causes
  | .io fault => [fault.message]
  | _ => []

end LibraryError

end RepoCollector
