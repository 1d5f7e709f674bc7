import SettingsForm.Json.Printer
import SettingsForm.Session.Descriptor
import SettingsForm.Text.Columns

/-!
# Overview of a form

The sections of a form with the values in effect, as lines for a reader or as JSON.
-/

namespace SettingsForm.Overview

/-- The value of a row for a reader. Strings are written as they are. -/
def valueText : Value → String
  | .null => "-"
  | .string s => s
  | value => value.compact

/-- What stands beside the name of a row. -/
def contentText (row : RowDescriptor) : String :=
  if row.rowType.isNesting then "›"
  else if row.rowType = .action then "[run]"
  else valueText row.value

/-- A row on one line, its name padded to a column. -/
def rowLine (row : RowDescriptor) : String :=
  s!"  {Columns.padRight 24 row.name} {contentText row}"

/-- A header or footer, if it is set. -/
def textLine (text : Option String) : List String := text.toList.map ("  " ++ ·)

/-- The lines of a section; the last one is blank. -/
def sectionLines (s : Section) : List String :=
  [s.title] ++ textLine s.header ++ s.rows.map rowLine ++ textLine s.footer ++ [""]

/-- Sections, line by line. -/
def lines (sections : List Section) : List String := sections.flatMap sectionLines

/-- A field with a text. -/
def stringField (name value : String) : String × Json.Block := (name, Json.valueBlock (.string value))

/-- A field with a flag. -/
def flagField (name : String) (value : Bool) : String × Json.Block := (name, Json.valueBlock (.bool value))

/-- A field with a number. -/
def countField (name : String) (value : Nat) : String × Json.Block := (name, fun _ => toString value)

/-- The field of an optional text, absent when it is not set. -/
def textField (name : String) (text : Option String) : List (String × Json.Block) :=
  text.toList.map (stringField name)

/-- The field of a row's height, absent when the host asks for none. -/
def heightField (height : Option Binary64) : List (String × Json.Block) :=
  height.toList.map fun h => ("height", Json.valueBlock ((Number.ofBinary64? h).elim .null .number))

/-- A row as an object, with its fields in the order of their declaration. -/
def rowBlock (row : RowDescriptor) : Json.Block :=
  Json.objectBlock <|
    [("position", Json.objectBlock
        [countField "group" row.position.group, countField "row" row.position.row]),
      stringField "name" row.name,
      stringField "identifier" row.identifier,
      stringField "rowType" row.rowType.name,
      stringField "interaction" row.interaction.name,
      ("value", Json.valueBlock row.value),
      flagField "editable" row.editable,
      stringField "keyboard" row.keyboard.name,
      stringField "flags" row.flags,
      flagField "dirty" row.dirty,
      flagField "active" row.active] ++
    heightField row.height

/-- A section as an object. Texts that it does not have are left out. -/
def sectionBlock (s : Section) : Json.Block :=
  Json.objectBlock <|
    [stringField "title" s.title] ++ textField "key" s.key ++ textField "header" s.header ++
      textField "footer" s.footer ++ [("rows", Json.listBlock (s.rows.map rowBlock))]

/-- The sections as indented JSON. -/
def json (sections : List Section) : String := Json.listBlock (sections.map sectionBlock) 0

end SettingsForm.Overview
