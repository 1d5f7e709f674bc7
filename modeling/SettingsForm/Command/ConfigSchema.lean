import SettingsForm.Config
import SettingsForm.Json.Printer

/-!
# Schema of configuration files

The JSON schema that describes the documents from which a configuration is read.
-/

namespace SettingsForm.ConfigSchema

/-- A text. -/
def text (s : String) : Json.Block := Json.valueBlock (.string s)

/-- A flag. -/
def flag (b : Bool) : Json.Block := Json.valueBlock (.bool b)

/-- A number. -/
def count (n : Nat) : Json.Block := fun _ => toString n

/-- The setting that texts are converted. -/
def lenientStrings : Json.Block :=
  Json.objectBlock
    [("description", text (String.intercalate "\n"
        ["Parse strings committed to integer, decimal, boolean and list rows,",
          "and take unix timestamps for date rows.",
          "",
          "When false, only native JSON numbers and booleans are accepted, and",
          "date rows only take date strings."])),
      ("type", text "boolean"),
      ("default", flag Config.standard.lenientStrings)]

/-- The limit of nesting. -/
def maxNesting : Json.Block :=
  Json.objectBlock
    [("description", text "Deepest nesting level a child session may have (root is 0)."),
      ("type", text "integer"),
      ("format", text "uint"),
      ("default", count Config.standard.maxNesting),
      ("minimum", count 0)]

/-- The setting that the host is told of every commit. -/
def notifyUnchanged : Json.Block :=
  Json.objectBlock
    [("description", text "Notify the delegate even when a commit leaves the value unchanged."),
      ("type", text "boolean"),
      ("default", flag Config.standard.notifyUnchanged)]

/-- The schema as indented JSON. -/
def json : String :=
  Json.objectBlock
    [("$schema", text "https://json-schema.org/draft/2020-12/schema"),
      ("title", text "SessionConfig"),
      ("description", text "Configuration of a [`SessionController`](crate::SessionController)."),
      ("type", text "object"),
      ("properties", Json.objectBlock
        [("lenient_strings", lenientStrings),
          ("max_nesting", maxNesting),
          ("notify_unchanged", notifyUnchanged)])] 0

end SettingsForm.ConfigSchema
