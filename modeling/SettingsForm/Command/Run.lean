import SettingsForm.Command.ConfigSchema
import SettingsForm.Command.Documents
import SettingsForm.Command.Help
import SettingsForm.Command.Overview
import SettingsForm.Command.Summary

/-!
# Running commands

A command reads files, may write one, and prints lines. Whatever fails before a file is written leaves all
files as they are. An invocation ends with an exit status and the texts for the two outputs.
-/

namespace SettingsForm

namespace Command

variable {m : Type → Type} [Monad m] [FileAccess m]

/-- Validates a form. -/
def runCheck (form : String) : Attempt m (List String) := do
  let schema ← Attempt.ofResult .rejectedForm (Schema.build (← Documents.loadForm form) 0)
  return s!"✓ {form}" :: (Summary.ofGroups schema.groups).lines

/-- Starts a session over a form with the values of files. -/
def startSession (form : String) (files : ValueFiles) : Attempt m (Controller StaticHost) := do
  let groups ← Documents.loadForm form
  let values ← Documents.loadValues files.values
  let fallback ← Documents.loadValues files.defaults
  Attempt.ofResult .rejectedForm
    (Controller.start groups (StaticHost.ofValues values fallback) Config.standard)

/-- Shows the sections of a form. -/
def runOverview (form : String) (files : ValueFiles) (asJson : Bool) : Attempt m (List String) := do
  let controller ← startSession form files
  let sections ← Attempt.ofResult .session controller.sections
  return if asJson then [Overview.json sections] else Overview.lines sections

/-- The edits that assignments to a form lead to. -/
def computeEdits (form : String) (files : ValueFiles) (config : Option String)
    (assignments : List Assignment) : Attempt m Value := do
  let config ← Documents.loadConfig config
  let groups ← Documents.loadForm form
  let values ← Documents.loadValues files.values
  let fallback ← Documents.loadValues files.defaults
  return .mapping (← Attempt.ofResult .script (Script.run groups values fallback config assignments))

/-- Prints edits, or saves them and reports where. -/
def writeEdits (edits : Value) (seconds : Nat) : Option String → Attempt m (List String)
  | none => return [edits.pretty]
  | some path => do
    let kept ← Documents.save path seconds edits
    return (kept.toList.map fun kept => s!"previous content kept in {kept}") ++
      [s!"changes written to {path}"]

/-- Runs a command and returns the lines that it prints. The seconds since the start of 1970 name the copy
of a file that is overwritten. -/
def run (seconds : Nat) : Command → Attempt m (List String)
  | check form => runCheck form
  | overview form files asJson => runOverview form files asJson
  | apply form files config assignments output => do
    writeEdits (← computeEdits form files config assignments) seconds output
  | configSchema => return [ConfigSchema.json]

end Command

/-- How an invocation ended. -/
structure Exit where
  status : Nat
  stdout : String
  stderr : String
  deriving DecidableEq, Repr

namespace Exit

/-- Every line ends in a line feed. -/
def linesText (lines : List String) : String := String.join (lines.map (· ++ "\n"))

/-- A successful end with lines of output. -/
def printed (lines : List String) : Exit := ⟨0, linesText lines, ""⟩

/-- A failed command has printed nothing. -/
def ofResult : Except Failure (List String) → Exit
  | .ok lines => printed lines
  | .error failure => ⟨1, "", failure.report⟩

end Exit

/-- Carries out what the arguments ask for. -/
def Invocation.run {m : Type → Type} [Monad m] [FileAccess m] (seconds : Nat) : Invocation → m Exit
  | command c => do return Exit.ofResult (← (c.run seconds).run)
  | help topic => return Exit.printed (Help.lines topic)
  | version => return Exit.printed [Help.versionLine]
  | misuse error => return ⟨2, "", s!"error: {error.message}\n"⟩

end SettingsForm
