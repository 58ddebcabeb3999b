import RepoCollector.Endpoint

/-!
# The files of a library

Everything below the directory of a library, and the file operations that the library makes on it.
A place is known by the names that lead to it from the library's directory, which is the place
without names and may itself be missing or be a file.

`Files.at?` is what stands at a place.  An operation fails as a file system does: it finds nothing
where a directory on the way is missing, and refuses a way that leads through a file.
-/

namespace RepoCollector

/-- The names that lead to a file or directory from the library's directory. -/
abbrev Place := List (List Char)

namespace Place

/-- The directories that lead to a place, the outermost first. -/
def above (place : Place) : List Place :=
  (List.range place.length).map (place.take ·)

/-- Whether a place is a directory itself or lies somewhere in it. -/
def isWithin (directory place : Place) : Bool :=
  directory.isPrefixOf place

/-- The same place below another directory. -/
def moved (source target place : Place) : Place :=
  target ++ place.drop source.length

end Place

/-- What stands at a place. -/
inductive Entry where
  | directory
  | file (text : String)
deriving DecidableEq, Repr

/-- The files and directories of a library; no place is listed twice. -/
structure Files where
  entries : List (Place × Entry) := []
deriving DecidableEq, Repr

namespace Files

/-- What stands at a place. -/
def at? (files : Files) (place : Place) : Option Entry :=
  files.entries.lookup place

/-- Puts an entry at a place, instead of what stands there. -/
def put (files : Files) (place : Place) (entry : Entry) : Files :=
  { entries := (place, entry) :: files.entries.filter (·.1 ≠ place) }

/-- Leaves out a place and everything in it. -/
def without (files : Files) (place : Place) : Files :=
  { entries := files.entries.filter fun entry => !place.isWithin entry.1 }

/-- Why the directory that holds a place cannot be reached. -/
def obstacle? (files : Files) (place : Place) : Option FileFault :=
  place.above.findSome? fun directory =>
    match files.at? directory with
    | some .directory => none
    | some (.file _) => some .notDirectory
    | none => some .notFound

/-- Whether something stands at a place. -/
def contains? (files : Files) (place : Place) : Except FileFault Bool :=
  match files.obstacle? place with
  | none => .ok (files.at? place).isSome
  | some .notFound => .ok false
  | some fault => .error fault

/-- Makes a directory where nothing stands. -/
def addDirectory (files : Files) (place : Place) : Files :=
  if (files.at? place).isSome then files else files.put place .directory

/-- Makes a directory and all directories that lead to it. -/
def makeDirectories (files : Files) (place : Place) : Except FileFault Files :=
  match files.obstacle? place, files.at? place with
  | some .notDirectory, _ => .error .notDirectory
  | _, some (.file _) => .error .alreadyExists
  | _, _ => .ok ((place.above ++ [place]).foldl addDirectory files)

/-- Whether something stands in a directory. -/
def isOccupied (files : Files) (place : Place) : Bool :=
  files.entries.any fun entry => place.isWithin entry.1 && entry.1 ≠ place

/-- Everything at and in a place is found at another place instead. -/
def relocate (files : Files) (source target : Place) : Files :=
  let rest := (files.without target).entries
  { entries := rest.map fun (place, entry) =>
      if source.isWithin place then (source.moved target place, entry) else (place, entry) }

/-- Gives a place another name.  An empty directory may be replaced by a directory, and a file by a
file. -/
def rename (files : Files) (source target : Place) : Except FileFault Files :=
  match files.obstacle? source, files.at? source with
  | some fault, _ => .error fault
  | none, none => .error .notFound
  | none, some entry =>
    match files.obstacle? target with
    | some fault => .error fault
    | none =>
      match entry, files.at? target with
      | .directory, some (.file _) => .error .notDirectory
      | .file _, some .directory => .error .isDirectory
      | .directory, some .directory =>
        if files.isOccupied target then .error .notEmpty else .ok (files.relocate source target)
      | _, _ => .ok (files.relocate source target)

/-- Removes a directory with everything in it. -/
def removeTree (files : Files) (place : Place) : Except FileFault Files :=
  match files.obstacle? place, files.at? place with
  | some fault, _ => .error fault
  | none, none => .error .notFound
  | none, some (.file _) => .error .notDirectory
  | none, some .directory => .ok (files.without place)

/-- The extension that the directories of clones have: a dot and letters behind a name. -/
def isCloneName (name : List Char) : Bool :=
  Endpoint.gitSuffix.isSuffixOf name && Endpoint.gitSuffix.length < name.length

/-- Whether a place counts as a clone: its own name has the extension of clones, and no directory on
the way to it has. -/
def isClonePlace (place : Place) : Bool :=
  place.getLast?.any isCloneName && !place.dropLast.any isCloneName

/-- The clones of the library.  A library whose directory is missing has none. -/
def clones (files : Files) : Except FileFault (List Place) :=
  match files.at? [] with
  | none => .ok []
  | some (.file _) => .error .notDirectory
  | some .directory =>
    .ok ((files.entries.filter fun (place, entry) =>
      entry = .directory && isClonePlace place).map (·.1))

/-- Every place below the library's directory as a text, sorted; directories end in a slash. -/
def tree (files : Files) : List String :=
  let texts := (files.entries.filter (·.1 ≠ [])).map fun (place, entry) =>
    match entry with
    | .directory => String.ofList (Endpoint.joined place ++ ['/'])
    | .file _ => String.ofList (Endpoint.joined place)
  texts.mergeSort (· ≤ ·)

/-- Leaving out the places that fail a test leaves every other place as it was. -/
theorem lookup_filter (keep : Place → Bool) (entries : List (Place × Entry)) (place : Place) :
    (entries.filter fun entry => keep entry.1).lookup place =
      if keep place then entries.lookup place else none := by
  induction entries with
  | nil => simp
  | cons entry rest ih =>
    obtain ⟨standing, held⟩ := entry
    rw [List.filter_cons, List.lookup_cons]
    by_cases same : place = standing
    · subst same
      cases kept : keep place <;> simp [kept, ih]
    · have differs : (place == standing) = false := beq_eq_false_iff_ne.mpr same
      cases keep standing <;> simp [differs, List.lookup_cons, ih]

theorem at?_put (files : Files) (place other : Place) (entry : Entry) :
    (files.put place entry).at? other =
      if other = place then some entry else files.at? other := by
  simp only [at?, put, List.lookup_cons, lookup_filter fun standing => standing ≠ place]
  by_cases same : other = place
  · simp [same]
  · have differs : (other == place) = false := beq_eq_false_iff_ne.mpr same
    simp [same, differs]

theorem at?_without (files : Files) (place other : Place) :
    (files.without place).at? other =
      if place.isWithin other then none else files.at? other := by
  simp only [at?, without, lookup_filter fun standing => !place.isWithin standing]
  cases place.isWithin other <;> rfl

end Files

end RepoCollector
