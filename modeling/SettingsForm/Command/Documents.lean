import SettingsForm.Command.Failure
import SettingsForm.Config
import SettingsForm.Files.Path
import SettingsForm.Wire.Reader

/-!
# Documents in files

Loading forms, values and configurations from files, and saving values. The extension of a path tells the
format. `Documents.save` first makes sure that the value can be written, then keeps a copy of the file that
it overwrites, and writes last.
-/

namespace SettingsForm

/-- Work on files that may fail. -/
abbrev Attempt (m : Type → Type) (α : Type) := ExceptT Failure m α

namespace Attempt

variable {m : Type → Type} [Monad m]

/-- A result as work that needs no files. -/
def ofResult {ε α : Type} (report : ε → Failure) : Except ε α → Attempt m α
  | .ok value => pure value
  | .error error => throw (report error)

/-- An operation on files, with the failure that it is reported as. -/
def perform {α : Type} (report : FileError → Failure) (operation : m (Except FileError α)) : Attempt m α := do
  ofResult report (← ExceptT.lift operation)

end Attempt

/-- The format that the extension of a path stands for. -/
def Format.ofPath (path : String) : Except Failure Format :=
  let extension := String.ofList ((FilePath.extension? path.toList).getD [])
  match Format.ofExtension? extension with
  | some format => .ok format
  | none => .error (.unsupportedExtension extension)

namespace Documents

variable {m : Type → Type} [Monad m] [FileAccess m]

/-- Loads a document. -/
def load (path : String) : Attempt m Value := do
  let format ← Attempt.ofResult id (Format.ofPath path)
  let text ← Attempt.perform (.notRead path) (FileAccess.read path)
  match Document.read? format text with
  | some value => return value
  | none => throw (.notParsed path format)

/-- Loads the groups of a form. -/
def loadForm (path : String) : Attempt m (List Group) := do
  Attempt.ofResult (.invalidForm path) (Wire.readGroups (← load path))

/-- Loads a mapping of values; without a path it is empty. -/
def loadValues : Option String → Attempt m Mapping
  | none => return []
  | some path => do
    match ← load path with
    | .mapping entries => return entries
    | found => throw (.notAMapping path found)

/-- Loads a configuration; without a path it is the standard one. -/
def loadConfig : Option String → Attempt m Config
  | none => return Config.standard
  | some path => do
    match Config.ofValue? (← load path) with
    | some config => return config
    | none => throw (.invalidConfig path)

/-- Saves a value as a document, and returns the path of the copy of the file that was there before. The
seconds since the start of 1970 name the copy. -/
def save (path : String) (seconds : Nat) (value : Value) : Attempt m (Option String) := do
  let format ← Attempt.ofResult id (Format.ofPath path)
  let text ← Attempt.ofResult .notRendered (Document.render format value)
  let isPresent ← Attempt.perform .notKept (FileAccess.isPresent path)
  let kept := FilePath.backup path seconds
  if isPresent then Attempt.perform .notKept (FileAccess.copy path kept)
  Attempt.perform (.notWritten path) (FileAccess.write path text)
  return if isPresent then some kept else none

end Documents

end SettingsForm
