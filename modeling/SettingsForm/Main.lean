import SettingsForm.Command.Run
import Std.Time.DateTime.Timestamp

/-!
# The program

Runs the command that the arguments name on the files of the machine, prints what it has to say and ends
with its status.
-/

namespace SettingsForm

namespace Machine

/-- Why an operation of the machine failed. -/
def errorOf : IO.Error → FileError
  | .noFileOrDirectory _ _ _ => .notFound
  | error => .other (toString error)

/-- Performs an operation and returns its failure. -/
def attempt {α : Type} (operation : IO α) : IO (Except FileError α) := do
  try return .ok (← operation)
  catch error => return .error (errorOf error)

/-- A path is present if its content can be read, or if that fails for another reason than its absence. -/
def isPresent (path : String) : IO (Except FileError Bool) := do
  match ← attempt (IO.FS.readBinFile path) with
  | .ok _ => return .ok true
  | .error .notFound => return .ok false
  | .error error => return .error error

/-- Files of the computer. Failures of the system are reported with its messages. -/
instance : FileAccess IO where
  read path := attempt (IO.FS.readFile path)
  isPresent := isPresent
  copy source target := attempt do IO.FS.writeBinFile target (← IO.FS.readBinFile source)
  write path content := attempt (IO.FS.writeFile path content)

end Machine

/-- Runs the program. -/
def run (arguments : List String) : IO UInt32 := do
  let now ← Std.Time.Timestamp.now
  let ending ← (Invocation.read arguments).run now.toSecondsSinceUnixEpoch.val.toNat
  IO.print ending.stdout
  IO.eprint ending.stderr
  return UInt32.ofNat ending.status

end SettingsForm

/-- Runs the program with the arguments that it was called with. -/
def main (arguments : List String) : IO UInt32 := SettingsForm.run arguments
