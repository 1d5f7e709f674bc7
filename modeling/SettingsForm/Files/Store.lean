import SettingsForm.Files.Access
import SettingsForm.Text.Split

/-!
# A store of files

Files and directories as a value. A place in the store is the list of names that leads there from the top.
`FileStore.locate` finds the place that a path means; every part of the path but its last must be a
directory. Reading, writing and copying are operations on places.
-/

namespace SettingsForm

/-- A place in a store: the names of the directories that lead to it, and its own. -/
abbrev Place := List String

/-- Files and directories by their places. -/
structure FileStore where
  files : List (Place × String)
  /-- All directories but the top one. -/
  directories : List Place
  /-- Where the paths start that do not start at the top. -/
  workingDirectory : Place
  deriving Repr

namespace FileStore

/-- The content of the file at a place. -/
def content? (store : FileStore) (place : Place) : Option String := store.files.lookup place

/-- A directory is at the place. There always is one at the top. -/
def isDirectory (store : FileStore) (place : Place) : Bool :=
  place = [] || store.directories.contains place

/-- Why one cannot go on from a place to one below it, if so. -/
def obstacle? (store : FileStore) (place : Place) : Option FileError :=
  if store.isDirectory place then none
  else if (store.content? place).isSome then some .notADirectory
  else some .notFound

/-- Goes along the parts of a path. An empty part and a single point stay where they are, a double point
leads upwards. -/
def walk (store : FileStore) (place : Place) : List String → Except FileError Place
  | [] => .ok place
  | part :: rest =>
    match store.obstacle? place with
    | some error => .error error
    | none =>
      if part = "" ∨ part = "." then walk store place rest
      else if part = ".." then walk store place.dropLast rest
      else walk store (place ++ [part]) rest

/-- The place that a path means. There need not be anything yet. -/
def locate (store : FileStore) (path : String) : Except FileError Place :=
  let start := if path.toList.head? = some '/' then [] else store.workingDirectory
  store.walk start ((Split.parts '/' path.toList).map String.ofList)

/-- The content of the file that a path means. -/
def read (store : FileStore) (path : String) : Except FileError String := do
  let place ← store.locate path
  match store.content? place with
  | some content => .ok content
  | none => .error (if store.isDirectory place then .isADirectory else .notFound)

/-- There is a file or a directory where the path leads. -/
def isPresent (store : FileStore) (path : String) : Except FileError Bool :=
  match store.locate path with
  | .ok place => .ok (store.isDirectory place || (store.content? place).isSome)
  | .error .notFound => .ok false
  | .error error => .error error

/-- Gives a place a content. -/
def put (store : FileStore) (place : Place) (content : String) : FileStore :=
  { store with files := (place, content) :: store.files.filter fun (other, _) => other ≠ place }

/-- Gives the place that a path means a content, unless it is a directory. -/
def write (store : FileStore) (path content : String) : Except FileError FileStore := do
  let place ← store.locate path
  if store.isDirectory place then .error .isADirectory else .ok (store.put place content)

/-- Gives the place that a path means the content of another. -/
def copy (store : FileStore) (source target : String) : Except FileError FileStore := do
  store.write target (← store.read source)

/-- Keeps the store as it is when an operation fails. -/
def commit (operation : FileStore → Except FileError FileStore) :
    StateM FileStore (Except FileError Unit) :=
  fun store => match operation store with
    | .ok changed => (.ok (), changed)
    | .error error => (.error error, store)

/-- Commands can work on a store of files as on those of a computer. A change that fails is not made. -/
instance : FileAccess (StateM FileStore) where
  read path store := (store.read path, store)
  isPresent path store := (store.isPresent path, store)
  copy source target := commit (·.copy source target)
  write path content := commit (·.write path content)

end FileStore

end SettingsForm
