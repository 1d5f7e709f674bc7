import SettingsForm.Json.Printer
import SettingsForm.Json.Reader
import SettingsForm.Text.Blank
import SettingsForm.Toml.Printer
import SettingsForm.Toml.Reader

/-!
# Documents

A document is a value in one of two formats. A blank text is an empty mapping in either format. Every value
can be written as JSON; a TOML document must be a mapping.
-/

namespace SettingsForm

/-- The format of a document. -/
inductive Format where
  | json
  | toml
  deriving DecidableEq, Repr

namespace Format

/-- The format that a file extension stands for. -/
def ofExtension? (extension : String) : Option Format :=
  if extension = "json" then some json
  else if extension = "toml" ∨ extension = "tml" then some toml
  else none

/-- The name of the format, which is also its usual extension. -/
def name : Format → String
  | json => "json"
  | toml => "toml"

end Format

/-- Why a value was not written as a document. -/
inductive RenderError where
  /-- A TOML document would have to be a mapping. -/
  | notATable
  /-- The value has a part that TOML cannot hold. -/
  | unwritable (defect : Toml.Unwritable)
  deriving DecidableEq, Repr

/-- Why a value could not be written. -/
def RenderError.message : RenderError → String
  | notATable => "TOML documents must be a table at the top level"
  | unwritable defect => defect.message

namespace Document

/-- Reads a document. -/
def read? (format : Format) (text : String) : Option Value :=
  if Blank.trimChars text.toList = [] then some (.mapping [])
  else match format with
    | .json => Json.read? text
    | .toml => Toml.read? text

/-- Writes a document. -/
def render (format : Format) (value : Value) : Except RenderError String :=
  match format, value with
  | .json, value => .ok value.pretty
  | .toml, .mapping entries => (Toml.render entries).mapError .unwritable
  | .toml, _ => .error .notATable

end Document

end SettingsForm
