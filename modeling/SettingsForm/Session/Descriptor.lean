import SettingsForm.Contract.Basic
import SettingsForm.Row.Position

/-!
# Descriptors

What a presentation needs to know about the rows and choices of the innermost session.
-/

namespace SettingsForm

/-- All that is shown of one row. -/
structure RowDescriptor where
  position : Position
  name : String
  identifier : String
  rowType : RowType
  interaction : Interaction
  /-- The value in effect; for a nesting row, the mapping stored under its merge key. -/
  value : Value
  editable : Bool
  keyboard : Keyboard
  flags : String
  /-- The session holds an edit of the row. -/
  dirty : Bool
  /-- The row is being edited, or a nested session was opened from it. -/
  active : Bool
  /-- The height that the host asks for, custom rows only. -/
  height : Option Binary64

/-- All that is shown of one group. -/
structure Section where
  title : String
  key : Option String
  header : Option String
  footer : Option String
  rows : List RowDescriptor

/-- One entry of a list of choices. -/
structure ChoiceDescriptor where
  index : Nat
  name : String
  value : Value
  /-- The value in effect is this choice. -/
  selected : Bool

end SettingsForm
