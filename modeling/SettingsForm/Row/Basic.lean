import SettingsForm.Row.Keyboard
import SettingsForm.Row.Type

/-!
# Rows and groups

A form is a list of titled groups of rows. Rows and groups contain one another: a nesting row may carry
the groups, or the one group, of the form that it opens. A nesting row without them leaves the nested form
to the host.
-/

namespace SettingsForm

/-- One entry of a set of choices: a label and the value that picking it stores. -/
structure Choice where
  name : String
  value : Value
  deriving Repr, Inhabited, BEq

/-- Decimals that rows declare are compared by their numeric equality. -/
instance : BEq Binary64 := ⟨Binary64.equals⟩

mutual

/-- One entry of a group. The name is what is displayed, the identifier is the key under which a value is
stored; either may be set without the other. -/
structure Row where
  name : String
  identifier : String
  payload : Payload
  editable : Bool
  keyboard : Keyboard
  flags : String

/-- What a row carries besides its labels: a declared fallback value, choices, or a nested form. -/
inductive Payload where
  | plain (value : Value)
  | string (value : String)
  | integer (value : Option Int64)
  | decimal (value : Option Binary64)
  | boolean (value : Bool)
  | date (value : Option String)
  | multilineText (value : String)
  | richText (value : String)
  | simpleList (items : List Value)
  | custom (value : Value)
  | choice (value : Value)
  | multiLevel (groups : Option (List Group))
  | multiValue (choices : List Choice)
  | pickerList (choices : List Choice)
  | pickerView (choices : List Choice)
  | propertyList (group : Option Group)
  | action

/-- A titled section of rows. The key names the group for replacements, header and footer are texts
around the rows. -/
structure Group where
  title : String
  key : Option String
  header : Option String
  footer : Option String
  rows : List Row

end

deriving instance BEq for Row, Payload, Group
deriving instance Inhabited for Payload
deriving instance Inhabited for Row, Group

namespace Payload

/-- Every payload belongs to one row type. -/
def rowType : Payload → RowType
  | plain _ => .plain
  | string _ => .string
  | integer _ => .integer
  | decimal _ => .decimal
  | boolean _ => .boolean
  | date _ => .date
  | multilineText _ => .multilineText
  | richText _ => .richText
  | simpleList _ => .simpleList
  | custom _ => .custom
  | choice _ => .choice
  | multiLevel _ => .multiLevel
  | multiValue _ => .multiValue
  | pickerList _ => .pickerList
  | pickerView _ => .pickerView
  | propertyList _ => .propertyList
  | action => .action

/-- The value that a row shows as long as none is stored. A decimal that is not finite counts as absent. -/
def declaredValue : Payload → Value
  | plain value | custom value | choice value => value
  | string value | multilineText value | richText value => .string value
  | integer value => value.elim .null fun i => .number (.ofInt64 i)
  | decimal value => (value.bind Number.ofBinary64?).elim .null .number
  | boolean value => .bool value
  | date value => value.elim .null .string
  | simpleList items => .list items
  | multiLevel _ | multiValue _ | pickerList _ | pickerView _ | propertyList _ | action => .null

/-- The set of choices, empty for rows that have none. -/
def choices : Payload → List Choice
  | multiValue choices | pickerList choices | pickerView choices => choices
  | _ => []

/-- The groups of the nested form that a nesting row carries. -/
def childGroups? : Payload → Option (List Group)
  | multiLevel groups => groups
  | propertyList group => group.map ([·])
  | _ => none

end Payload

namespace Row

/-- An editable row with the general keyboard and no flags. -/
def ofPayload (name identifier : String) (payload : Payload) : Row :=
  { name, identifier, payload, editable := true, keyboard := .general, flags := "" }

/-- A row with a whole number, edited with the keyboard of digits. -/
def ofInteger (name identifier : String) (value : Int64) : Row :=
  { ofPayload name identifier (.integer (some value)) with keyboard := .numberPad }

/-- The row as one that shows its value and refuses edits. -/
def readOnly (row : Row) : Row := { row with editable := false }

/-- The type of the row. -/
def rowType (row : Row) : RowType := row.payload.rowType

/-- The value that the row declares. -/
def declaredValue (row : Row) : Value := row.payload.declaredValue

/-- The choices that the row offers. -/
def choices (row : Row) : List Choice := row.payload.choices

/-- The groups of the nested form that the row carries. -/
def childGroups? (row : Row) : Option (List Group) := row.payload.childGroups?

/-- The row stores a value under its identifier. -/
def isPersisted (row : Row) : Bool := !row.rowType.isStructural

/-- The row carries the flag. -/
def hasFlag (row : Row) (flag : Char) : Bool := row.flags.toList.contains flag

/-- The key under which the edits of the nested form are stored: the identifier if it is set, else the key
of the one nested group if it is set, else the name. -/
def mergeKey (row : Row) : String :=
  if row.identifier ≠ "" then row.identifier
  else match row.payload with
    | .propertyList (some group) =>
      match group.key with
      | some key => if key ≠ "" then key else row.name
      | none => row.name
    | _ => row.name

end Row

end SettingsForm
