import RepoCollector.Library.Files
import RepoCollector.Text.Base64

/-!
# Running git

The library leaves the work on clones to the git program.  `GitAction` is what git is asked to do;
its command line and its environment follow from the action and the library's settings.

A token goes to git as a header that git sends to one host only, and only for plain HTTPS endpoints.
It is never written into a clone.
-/

namespace RepoCollector

/-- The settings of a library. -/
structure LibraryConfig where
  /-- The library's directory. -/
  root : String := "library"
  /-- Fetch into a clone that a download finds in place. -/
  updateOnDownload : Bool := false
  gitBinary : String := "git"
  authToken : Option String := none
deriving DecidableEq, Repr

namespace LibraryConfig

/-- The settings with a token; an empty token counts as none. -/
def withToken (config : LibraryConfig) (token : Option String) : LibraryConfig :=
  { config with authToken := token.filter (· ≠ "") }

/-- The full path of a place. -/
def path (config : LibraryConfig) (place : Place) : String :=
  String.ofList (Endpoint.below config.root.toList place)

/-- The setting of git, name and value, that carries the token to the host of an endpoint. -/
def authHeader? (config : LibraryConfig) (endpoint : String) : Option (String × String) :=
  match config.authToken, Endpoint.secureHost? endpoint.toList with
  | some token, some host =>
    some ("http.https://" ++ String.ofList host ++ "/.extraHeader",
      "Authorization: Basic " ++ Text.base64Of ("x-access-token:" ++ token))
  | _, _ => none

end LibraryConfig

/-- What git is asked to do. -/
inductive GitAction where
  /-- Clone a repository into a new directory. -/
  | clone (endpoint : String) (target : Place)
  /-- Fetch from an endpoint into a clone. -/
  | refresh (endpoint : String) (place : Place)
  /-- Print the URL that a clone was made from. -/
  | readOrigin (place : Place)
deriving DecidableEq, Repr

namespace GitAction

/-- The name of the operation in messages. -/
def name : GitAction → String
  | .clone _ _ => "clone"
  | .refresh _ _ => "remote update"
  | .readOrigin _ => "config"

/-- What messages name as the subject: the endpoint, or the path of the clone. -/
def subject (config : LibraryConfig) : GitAction → String
  | .clone endpoint _ => endpoint
  | .refresh endpoint _ => endpoint
  | .readOrigin place => config.path place

/-- The arguments of the command. -/
def arguments (config : LibraryConfig) : GitAction → List String
  | .clone endpoint target => ["clone", "--mirror", "--quiet", endpoint, config.path target]
  | .refresh _ place => ["-C", config.path place, "remote", "update", "--prune"]
  | .readOrigin place => ["-C", config.path place, "config", "--get", "remote.origin.url"]

end GitAction

/-- A git command as it is run. -/
structure GitCommand where
  program : String
  arguments : List String
  /-- Whether git may ask for a password on the terminal: `0` means never. -/
  prompt : String
  /-- A setting that holds for this command only. -/
  setting : Option (String × String)
deriving DecidableEq, Repr

/-- The command that an action is. -/
def GitAction.command (config : LibraryConfig) (action : GitAction) : GitCommand :=
  { program := config.gitBinary, arguments := action.arguments config, prompt := "0",
    setting := config.authHeader? (action.subject config) }

/-- What git leaves behind when it ends. -/
structure GitReport where
  exit : Nat := 0
  stdout : String := ""
  stderr : String := ""
deriving DecidableEq, Repr

/-- What git printed, or the failure that its status means. -/
def GitReport.result (report : GitReport) (config : LibraryConfig) (action : GitAction) :
    Except LibraryError String :=
  if report.exit = 0 then .ok report.stdout
  else .error (.git action.name (action.subject config) (Text.trimmed report.stderr))

/-- The URL that a clone was made from, as printed by git, without user and password. -/
def originOf (printed : String) : String :=
  String.ofList (Endpoint.stripCredentials (Text.trim printed.toList))

end RepoCollector
