import SettingsForm.Document
import SettingsForm.Files.Access
import SettingsForm.Script.Run
import SettingsForm.Text.Columns
import SettingsForm.Text.Quoted

/-!
# Failed commands

Why a command did not do its work, and the report of it. A report starts with the outermost circumstance
and then lists what caused it, down to the root.
-/

namespace SettingsForm

/-- Why a command failed. -/
inductive Failure where
  /-- The extension of a path stands for no format. -/
  | unsupportedExtension (extension : String)
  | notRead (path : String) (cause : FileError)
  | notParsed (path : String) (format : Format)
  /-- A document was not read as a form. -/
  | invalidForm (path : String) (cause : SchemaError)
  | invalidConfig (path : String)
  /-- A document of values is no mapping. -/
  | notAMapping (path : String) (found : Value)
  /-- A form was not accepted. -/
  | rejectedForm (cause : SchemaError)
  | session (cause : SettingsError)
  | script (cause : ScriptError)
  | notRendered (cause : RenderError)
  /-- A file that would be overwritten could not be saved from that. -/
  | notKept (cause : FileError)
  | notWritten (path : String) (cause : FileError)

namespace Failure

/-- What a value is, for a reader of messages. -/
def kindOf : Value → String
  | .null => "null"
  | .bool _ => "a boolean"
  | .number _ => "a number"
  | .string _ => "a string"
  | .list _ => "a list"
  | .mapping _ => "a mapping"

/-- The sentences that report a failure, from the outermost circumstance to the cause. -/
def messages : Failure → List String
  | unsupportedExtension extension => [s!"Unsupported document extension: {Quoted.quote extension}"]
  | notRead path cause => [s!"failed to read {path}", cause.message]
  | notParsed path format => [s!"failed to parse {path}", s!"not a valid {format.name} document"]
  | invalidForm path cause => [s!"invalid schema {path}", cause.message]
  | invalidConfig path => [s!"invalid config {path}", "a field has the wrong type"]
  | notAMapping path found =>
    [s!"{path}: expected a mapping of identifiers to values, got {kindOf found}"]
  | rejectedForm cause => [cause.message]
  | session cause => [cause.message]
  | script cause => cause.messages
  | notRendered cause => [cause.message]
  | notKept cause => [cause.message]
  | notWritten path cause => [s!"failed to write {path}", cause.message]

/-- A sentence with a label before its first line. Further lines are indented as far as the label is long. -/
def labelled (label sentence : String) : String :=
  let indentation := "\n" ++ String.ofList (List.replicate label.length ' ')
  label ++ String.intercalate indentation (sentence.splitOn "\n")

/-- The list of causes. Two or more are numbered from the outermost one on. -/
def causesText (causes : List String) : String :=
  let lines : List String := match causes with
    | [cause] => [labelled "    " cause]
    | causes => causes.zipIdx.map fun (cause, place) =>
      labelled (Columns.padLeft 5 (toString place) ++ ": ") cause
  if causes = [] then "" else "\nCaused by:\n" ++ String.join (lines.map (· ++ "\n"))

/-- The report of a failure. -/
def report (failure : Failure) : String :=
  match failure.messages with
  | [] => ""
  | outermost :: causes => s!"Error: {outermost}\n" ++ causesText causes

end Failure

end SettingsForm
