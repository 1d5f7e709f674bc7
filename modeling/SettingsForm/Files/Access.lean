/-!
# Access to files

What a program needs of the files around it. The operations are given for a monad, so that the same program
runs on the files of a machine and on a `FileStore`.
-/

namespace SettingsForm

/-- Why a file could not be read or written. -/
inductive FileError where
  | notFound
  /-- A part of the path that leads to the file is itself a file. -/
  | notADirectory
  /-- The path leads to a directory. -/
  | isADirectory
  | other (message : String)
  deriving DecidableEq, Repr

/-- The message of the operating system for an error. -/
def FileError.message : FileError → String
  | notFound => "No such file or directory (os error 2)"
  | notADirectory => "Not a directory (os error 20)"
  | isADirectory => "Is a directory (os error 21)"
  | other message => message

/-- Files that can be read and written in a monad. Files are addressed by their paths. -/
class FileAccess (m : Type → Type) where
  /-- The content of a file. -/
  read : (path : String) → m (Except FileError String)
  /-- Tells whether there is a file or a directory. -/
  isPresent : (path : String) → m (Except FileError Bool)
  /-- Gives a file the content of another one. -/
  copy : (source target : String) → m (Except FileError Unit)
  /-- Gives a file a content, and creates the file if there is none. -/
  write : (path content : String) → m (Except FileError Unit)

end SettingsForm
