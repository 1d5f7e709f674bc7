import SettingsForm.Json.Reader
import SettingsForm.Text.Blank
import SettingsForm.Text.Split

/-!
# Assignments

One `PATH=VALUE` argument. The path lists the merge keys of nested forms and ends in the identifier of a
row; its parts are separated by points and may have blanks around them. The value is read as JSON, and taken
as a plain string where it is none.
-/

namespace SettingsForm

/-- A value for the key at the end of a path through nested forms. -/
structure Assignment where
  path : List String
  value : Value
  deriving Repr

/-- Why an argument is not an assignment. -/
inductive AssignmentError where
  /-- The argument has no equals sign. -/
  | noEquals (argument : String)
  /-- A part of the path is blank. -/
  | emptySegment (argument : String)
  deriving DecidableEq, Repr

/-- The words for an argument that is not an assignment. -/
def AssignmentError.message : AssignmentError → String
  | noEquals argument => s!"expected PATH=VALUE, got `{argument}`"
  | emptySegment argument => s!"empty path segment in `{argument}`"

namespace Assignment

/-- An argument is split at its first equals sign. What follows is a value if it is JSON, and a text
otherwise. -/
def read (argument : String) : Except AssignmentError Assignment :=
  match argument.toList.dropWhile (· ≠ '=') with
  | [] => .error (.noEquals argument)
  | _ :: text =>
    let path := (Split.parts '.' (argument.toList.takeWhile (· ≠ '='))).map Blank.trimChars
    if path.any List.isEmpty then .error (.emptySegment argument)
    else
      let text := String.ofList text
      .ok ⟨path.map String.ofList, (Json.read? text).getD (.string text)⟩

end Assignment

end SettingsForm
