import SettingsForm.Schema.Error

/-!
# Failed operations

Why an operation on a running form failed, with the sentence that reports it.
-/

namespace SettingsForm

/-- The number of a session; numbers are never given twice. -/
abbrev SessionId := Nat

/-- A session was addressed that does not take the operation. -/
inductive NavigationError where
  /-- The session has a nested session open. -/
  | childActive (session : SessionId)
  /-- The session was dismissed or never existed. -/
  | dismissed (session : SessionId)
  /-- The session is live but not the innermost one. -/
  | notOnTop (session : SessionId)
  /-- The row does not open a nested form. -/
  | notNavigable (key : String)
  /-- Neither the row nor the host has a nested form. -/
  | noChildSchema (key : String)
  /-- The nested session would lie too deep. -/
  | tooDeep (limit : Nat)
  /-- No edit is open. -/
  | noActiveEdit
  deriving DecidableEq, Repr

/-- The words for an error of navigation. -/
def NavigationError.message : NavigationError → String
  | childActive session => s!"session #{session} already has an active child"
  | dismissed session => s!"session #{session} has been dismissed"
  | notOnTop session => s!"session #{session} is not the innermost session"
  | notNavigable key => s!"row `{key}` does not open a child schema"
  | noChildSchema key => s!"no child schema available for `{key}`"
  | tooDeep limit => s!"nesting limit of {limit} reached"
  | noActiveEdit => "no row is being edited"

/-- Why an operation on a running form failed. -/
inductive SettingsError where
  | schema (error : SchemaError)
  | coercion (error : CoercionError)
  | navigation (error : NavigationError)
  /-- No row has the identifier. -/
  | unknownRow (key : String)
  /-- No row stands at the position. -/
  | unknownPosition (position : Position)
  /-- The row is not editable. -/
  | readOnly (key : String)
  deriving Repr

/-- The words for an error. -/
def SettingsError.message : SettingsError → String
  | schema error => error.message
  | coercion error => error.message
  | navigation error => error.message
  | unknownRow key => s!"no row with identifier `{key}`"
  | unknownPosition position => s!"no row at group {position.group}, row {position.row}"
  | readOnly key => s!"row `{key}` is not editable"

end SettingsForm
