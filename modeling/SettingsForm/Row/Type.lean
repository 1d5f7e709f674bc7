import SettingsForm.Value.Basic

/-!
# Row types

The closed set of row types with their names, the numeric codes that early documents used, and the
three classes that the rest of the library asks about: rows that nest a further form, rows that hold no
value of their own, and rows that choose from a declared set.
-/

namespace SettingsForm

/-- What kind of entry a row is. -/
inductive RowType where
  /-- Shows its value. -/
  | plain
  | string
  | integer
  | decimal
  | boolean
  | date
  | multilineText
  | richText
  | simpleList
  /-- Drawn by the host, which may also replace its contract. -/
  | custom
  /-- One alternative of a set that spans several rows. -/
  | choice
  /-- Opens a nested form of several groups. -/
  | multiLevel
  /-- Picks from the row's own set of choices. -/
  | multiValue
  | pickerList
  | pickerView
  /-- Opens a nested form of one group. -/
  | propertyList
  /-- Fires an effect of the host and holds no value. -/
  | action
  deriving DecidableEq, Repr

namespace RowType

/-- All row types. -/
def all : List RowType :=
  [plain, string, integer, decimal, boolean, date, multilineText, richText, simpleList, custom, choice,
    multiLevel, multiValue, pickerList, pickerView, propertyList, action]

/-- The name of the type in documents. -/
def name : RowType → String
  | plain => "default"
  | string => "string"
  | integer => "integer"
  | decimal => "decimal"
  | boolean => "boolean"
  | date => "date"
  | multilineText => "multilineText"
  | richText => "richText"
  | simpleList => "simpleList"
  | custom => "custom"
  | choice => "choice"
  | multiLevel => "multiLevel"
  | multiValue => "multiValue"
  | pickerList => "pickerList"
  | pickerView => "pickerView"
  | propertyList => "propertyList"
  | action => "action"

/-- The row type with a name. -/
def ofName? (name : String) : Option RowType := all.find? (·.name = name)

/-- The numeric codes of early documents. -/
def ofCode? : Nat → Option RowType
  | 0 => some plain
  | 1 => some string
  | 2 => some integer
  | 3 => some boolean
  | 4 => some simpleList
  | 5 => some choice
  | 10 => some multiLevel
  | 11 => some multiValue
  | 12 => some propertyList
  | 13 => some action
  | _ => none

/-- Reads a type from its name or from its numeric code. -/
def ofValue? : Value → Option RowType
  | .string s => ofName? s
  | .number n => n.toNat?.bind ofCode?
  | _ => none

/-- Rows of these types open a nested form instead of holding a value. -/
def isNesting : RowType → Bool
  | multiLevel | propertyList => true
  | _ => false

/-- Rows of these types hold no value of their own, and may share their identifiers. -/
def isStructural (t : RowType) : Bool := t.isNesting || t = action

/-- Rows of these types pick from a declared set of choices. -/
def hasChoices : RowType → Bool
  | multiValue | pickerList | pickerView => true
  | _ => false

end RowType

end SettingsForm
