import SettingsForm.Row.Position

/-!
# Paths into a document

A path names a place in a document of groups: it starts at the whole document, at the list of groups or at
a list of rows, and goes down into elements of a list, the rows of a group and the value of a row.
-/

namespace SettingsForm

/-- A place in a document. -/
inductive Path where
  /-- The document as a whole. -/
  | document
  /-- The list of all groups. -/
  | groups
  /-- A list of rows that stands for itself. -/
  | rows
  /-- An element of the list at a place. -/
  | element (list : Path) (index : Nat)
  /-- The rows of the group at a place. -/
  | rowsOf (group : Path)
  /-- The value of the row at a place. -/
  | valueOf (row : Path)
  deriving DecidableEq, Repr

namespace Path

/-- The text of a place, from the outermost part inwards. -/
def render : Path → String
  | document => "document"
  | groups => "groups"
  | rows => "rows"
  | element list index => s!"{list.render}[{index}]"
  | rowsOf group => s!"{group.render}.rows"
  | valueOf row => s!"{row.render}.value"

/-- The place of a row in a list of groups. -/
def ofPosition (position : Position) : Path :=
  element (rowsOf (element groups position.group)) position.row

end Path

end SettingsForm
