import SettingsForm.Contract.Basic
import SettingsForm.Schema.Error

/-!
# Reading a form from a document

A document is a list of groups, or an object that holds the list under `groups`. Unknown fields are
ignored. The fields of a group or row are checked in a fixed order and the first one that does not fit is
reported with its place. Declared values are converted leniently, as if they were committed to the row.
-/

namespace SettingsForm

namespace Wire

/-- The result of reading a part of a document. -/
abbrev Reading := Except SchemaError

/-- The content of a field that has to be there, which may be null. -/
def required (path : Path) (field : Field) (fields : Mapping) : Reading Value :=
  match Mapping.get? field.label fields with
  | some value => .ok value
  | none => .error (.missingField path field)

/-- A string that has to be there. -/
def requiredString (path : Path) (field : Field) (fields : Mapping) : Reading String := do
  match ← required path field fields with
  | .string s => .ok s
  | other => .error (.invalidField path field (.notAString other))

/-- A string that may be absent or null. -/
def optionalString (path : Path) (field : Field) (fields : Mapping) : Reading (Option String) :=
  match Mapping.get? field.label fields with
  | none | some .null => .ok none
  | some (.string s) => .ok (some s)
  | some other => .error (.invalidField path field (.notAString other))

/-- The type of a row, by its name or its early code. -/
def rowType (path : Path) (fields : Mapping) : Reading RowType := do
  let found ← required path .type fields
  match RowType.ofValue? found with
  | some t => .ok t
  | none => .error (.unknownRowType path found)

/-- A boolean, or the integer zero or one. -/
def flag? : Value → Option Bool
  | .bool b => some b
  | .number n =>
    match n.toNat? with
    | some 0 => some false
    | some 1 => some true
    | _ => none
  | _ => none

/-- Whether a row can be edited. -/
def editable (path : Path) (fields : Mapping) : Reading Bool := do
  let found ← required path .edit fields
  match flag? found with
  | some b => .ok b
  | none => .error (.invalidField path .edit (.notABoolean found))

/-- The keyboard, which early documents kept under `kbType`. -/
def keyboard (path : Path) (fields : Mapping) : Reading Keyboard :=
  match (Mapping.get? "keyboardHint" fields).or (Mapping.get? "kbType" fields) with
  | none => .ok .general
  | some found =>
    match Keyboard.ofValue? found with
    | some k => .ok k
    | none => .error (.invalidField path .keyboardHint (.unknownKeyboard found))

/-- A declared value, converted by the built-in contract of the type. -/
def declared (path : Path) (t : RowType) (name identifier : String) (raw : Value) : Reading Value :=
  match (Contract.builtin t).coerce identifier (Row.ofPayload name identifier (.plain .null)) raw true with
  | .ok value => .ok value
  | .error error => .error (.invalidField path .value (.unfitValue error))

/-- A choice is an object with a name and a value. -/
def choice (path : Path) : Value → Reading Choice
  | .mapping fields => do
    let name ← requiredString path .name fields
    let value ← required path .value fields
    .ok ⟨name, value⟩
  | _ => .error (.invalidField path .choice .notAnObject)

/-- Choices from a place on. -/
def choiceList (path : Path) (index : Nat) : List Value → Reading (List Choice)
  | [] => .ok []
  | item :: rest => do
    let first ← choice (path.element index) item
    let others ← choiceList path (index + 1) rest
    .ok (first :: others)

/-- A list of at least one choice. -/
def choices (path : Path) : Value → Reading (List Choice)
  | .list [] => .error (.emptyChoiceSet path)
  | .list items => choiceList path 0 items
  | _ => .error (.notAList path)

/-- What a row carries that holds a converted value. -/
def holding (t : RowType) (converted : Value) : Payload :=
  match t with
  | .string => .string (converted.asString?.getD "")
  | .multilineText => .multilineText (converted.asString?.getD "")
  | .richText => .richText (converted.asString?.getD "")
  | .integer => .integer (match converted with
    | .number n => n.toInt64?
    | _ => none)
  | .decimal => .decimal (match converted with
    | .number n => some n.toBinary64
    | _ => none)
  | .boolean => .boolean (converted.asBool?.getD false)
  | .date => .date converted.asString?
  | .simpleList => .simpleList (converted.asList?.getD [])
  | .custom => .custom converted
  | .choice => .choice converted
  | _ => .plain converted

/-- The declared value of a row that is neither nesting nor a set of choices; null stands for none. -/
def leafPayload (path : Path) (t : RowType) (name identifier : String) (raw : Value) : Reading Payload := do
  let converted ← match t, raw with
    | .plain, _ | .custom, _ | .choice, _ | _, .null => .ok raw
    | _, _ => declared path t name identifier raw
  .ok (holding t converted)

/-- What a row without a nested form carries. -/
def flatPayload (path : Path) (t : RowType) (name identifier : String) (fields : Mapping) :
    Reading Payload := do
  let raw ← required path .value fields
  match t with
  | .multiValue => .ok (.multiValue (← choices path.valueOf raw))
  | .pickerList => .ok (.pickerList (← choices path.valueOf raw))
  | .pickerView => .ok (.pickerView (← choices path.valueOf raw))
  | t => leafPayload path t name identifier raw

mutual

/-- A list of groups. -/
def groupList (path : Path) : Value → Reading (List Group)
  | .list items => groupItems path 0 items
  | _ => .error (.notAList path)

/-- Groups from a place on. -/
def groupItems (path : Path) (index : Nat) : List Value → Reading (List Group)
  | [] => .ok []
  | item :: rest => do
    let first ← group (path.element index) item
    let others ← groupItems path (index + 1) rest
    .ok (first :: others)

/-- A group; its rows are read before the texts that may be missing. -/
def group (path : Path) : Value → Reading Group
  | .mapping fields => do
    let title ← requiredString path .title fields
    let rows ← rowsField path fields
    let key ← optionalString path .key fields
    let header ← optionalString path .header fields
    let footer ← optionalString path .footer fields
    .ok { title, key, header, footer, rows }
  | _ => .error (.invalidField path .group .notAnObject)

/-- The rows of a group, found among its fields. -/
def rowsField (path : Path) : List (String × Value) → Reading (List Row)
  | [] => .error (.missingField path .rows)
  | (field, value) :: rest =>
    if field = "rows" then rowList path.rowsOf value else rowsField path rest

/-- A list of rows. -/
def rowList (path : Path) : Value → Reading (List Row)
  | .list items => rowItems path 0 items
  | _ => .error (.notAList path)

/-- Rows from a place on. -/
def rowItems (path : Path) (index : Nat) : List Value → Reading (List Row)
  | [] => .ok []
  | item :: rest => do
    let first ← row (path.element index) item
    let others ← rowItems path (index + 1) rest
    .ok (first :: others)

/-- A row; what it carries is read last, by its type. -/
def row (path : Path) : Value → Reading Row
  | .mapping fields => do
    let name ← requiredString path .name fields
    let identifier ← requiredString path .identifier fields
    let t ← rowType path fields
    let editable ← editable path fields
    let keyboard ← keyboard path fields
    let flags ← optionalString path .flags fields
    let payload ← match t with
      | .multiLevel => do .ok (.multiLevel (← groupsValue path fields))
      | .propertyList => do .ok (.propertyList (← groupValue path fields))
      | .action => .ok .action
      | t => flatPayload path t name identifier fields
    .ok { name, identifier, payload, editable, keyboard, flags := flags.getD "" }
  | _ => .error (.invalidField path .row .notAnObject)

/-- The groups of a nested form, found among the fields of its row; absent or null leaves them to the
host. -/
def groupsValue (path : Path) : List (String × Value) → Reading (Option (List Group))
  | [] => .ok none
  | (field, value) :: rest =>
    if field = "value" then
      match value with
      | .null => .ok none
      | value => do .ok (some (← groupList path.valueOf value))
    else groupsValue path rest

/-- The one group of a nested form, found among the fields of its row. -/
def groupValue (path : Path) : List (String × Value) → Reading (Option Group)
  | [] => .ok none
  | (field, value) :: rest =>
    if field = "value" then
      match value with
      | .null => .ok none
      | value => do .ok (some (← group path.valueOf value))
    else groupValue path rest

end

/-- Reads a whole document. -/
def readGroups (document : Value) : Reading (List Group) :=
  match document with
  | .mapping fields => do groupList .groups (← required .document .groups fields)
  | list => groupList .groups list

/-- Reads a list of rows that stands for itself. -/
def readRows (value : Value) : Reading (List Row) := rowList .rows value

end Wire

end SettingsForm
