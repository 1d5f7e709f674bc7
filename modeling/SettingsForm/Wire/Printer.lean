import SettingsForm.Row.Basic

/-!
# The canonical document of a form

Every row is written with all of its fields under their current names, and every group with its title, its
rows and those texts that are set. Reading the canonical document of a well-formed form gives it back.
-/

namespace SettingsForm

/-- The object of one choice. -/
def Choice.toValue (choice : Choice) : Value :=
  .mapping [("name", .string choice.name), ("value", choice.value)]

/-- The field of an optional text, absent when it is not set. -/
def Wire.textField (name : String) (text : Option String) : Mapping :=
  match text with
  | some s => [(name, .string s)]
  | none => []

mutual

/-- The object of a row, with all of its fields. -/
def Row.toValue : Row → Value
  | ⟨name, identifier, payload, editable, keyboard, flags⟩ =>
    .mapping
      [("edit", .bool editable), ("flags", .string flags), ("identifier", .string identifier),
        ("keyboardHint", .string keyboard.name), ("name", .string name),
        ("type", .string payload.rowType.name), ("value", payload.toValue)]

/-- What is written as the value of a row: its nested form, its choices, or its declared value. -/
def Payload.toValue : Payload → Value
  | .multiLevel none | .propertyList none => .null
  | .multiLevel (some groups) => .list (groupValues groups)
  | .propertyList (some group) => group.toValue
  | .multiValue choices | .pickerList choices | .pickerView choices => .list (choices.map Choice.toValue)
  | leaf => leaf.declaredValue

/-- The object of a group. Texts that the group does not have are left out. -/
def Group.toValue : Group → Value
  | ⟨title, key, header, footer, rows⟩ =>
    .mapping
      (Wire.textField "footer" footer ++ Wire.textField "header" header ++ Wire.textField "key" key ++
        [("rows", .list (rowValues rows)), ("title", .string title)])

/-- The objects of rows. -/
def rowValues : List Row → List Value
  | [] => []
  | row :: rest => row.toValue :: rowValues rest

/-- The objects of groups. -/
def groupValues : List Group → List Value
  | [] => []
  | group :: rest => group.toValue :: groupValues rest

end

/-- The canonical document of a list of groups. -/
def Wire.document (groups : List Group) : Value := .list (groupValues groups)

end SettingsForm
