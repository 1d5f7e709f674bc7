import SettingsForm.Session.Stack

/-!
# The host of a session

The host supplies values and nested forms, hears of changes, and may replace the schema. A host is a type
of states with a function for each question; a question may change the state. Only the input values must
be supplied, every other question has an answer that does nothing.

`StaticHost` answers from fixed values. It records the changes that it hears of and the actions that fire
its hooks.
-/

namespace SettingsForm

/-- What the host wants done with the schema after a change. -/
inductive Refresh where
  | unchanged
  /-- Put other groups in place of all groups. -/
  | groups (groups : List Group)
  /-- Put other rows into the group with a key. -/
  | rows (key : String) (rows : List Row)
  deriving Inhabited

/-- The questions that a running form asks its host. -/
class Host (σ : Type) where
  /-- The input values of the root session. -/
  initialValues : σ → Mapping × σ
  /-- The values that the root session falls back to. -/
  defaultValues : σ → Mapping × σ := fun state => ([], state)
  /-- The nested form of a row that carries none. -/
  rowsForChild : Row → σ → Option (List Group) × σ := fun _ state => (none, state)
  /-- The input values of a nested session. Without them it gets the parent's nested value. -/
  childValues : Row → σ → Option Mapping × σ := fun _ state => (none, state)
  /-- A commit changed a value. -/
  rowChanged : Value → Row → σ → σ := fun _ _ state => state
  /-- Asked right after a change, with the groups of the innermost session. -/
  refreshSchema : List Group → Row → σ → Refresh × σ := fun _ _ state => (.unchanged, state)
  willDismiss : Session → σ → σ := fun _ state => state
  didDismiss : Session → σ → σ := fun _ state => state
  /-- An action row was activated. -/
  action : Row → σ → σ := fun _ state => state
  /-- The contract of a custom row, in place of that of its type. -/
  customContract : Row → σ → Option Contract := fun _ _ => none
  /-- The height of a custom row. -/
  customHeight : Row → σ → Option Binary64 := fun _ _ => none
  /-- A custom row was selected; the answer tells whether that was handled. -/
  customSelect : Row → σ → Bool × σ := fun _ state => (false, state)
  /-- The deletion of a row was asked for; the answer tells whether it was done. -/
  deleteRow : Row → σ → Bool × σ := fun _ state => (false, state)
  /-- A row was laid out. -/
  laidOut : Row → σ → σ := fun _ state => state
  /-- A row was touched without being activated. -/
  touched : Row → σ → σ := fun _ state => state

/-- One question put to the host, with what it was asked about. -/
inductive HostCall where
  | initialValues
  | defaultValues
  | rowsForChild (row : Row)
  | childValues (row : Row)
  | rowChanged (value : Value) (row : Row)
  | refreshSchema (groups : List Group) (row : Row)
  | willDismiss (session : Session)
  | didDismiss (session : Session)
  | action (row : Row)
  | customSelect (row : Row)
  | deleteRow (row : Row)
  | laidOut (row : Row)
  | touched (row : Row)

/-- A host with fixed values. -/
structure StaticHost where
  values : Mapping
  fallback : Mapping
  /-- Nested forms by merge key. -/
  children : List (String × List Group)
  /-- The identifiers of action rows that hooks wait for, one for each hook. -/
  hooks : List String
  /-- The changes heard of, oldest first. -/
  changes : List (String × Value)
  /-- The hooks that fired, by their place among the hooks, with the name of the row; oldest first. -/
  fired : List (Nat × String)
  deriving Inhabited

namespace StaticHost

/-- A host with given values, no nested forms and no hooks. -/
def ofValues (values fallback : Mapping) : StaticHost :=
  { values, fallback, children := [], hooks := [], changes := [], fired := [] }

/-- A host of fixed values hands out what it holds, records the changes that it hears of, and fires the hooks
that wait for an action. -/
instance : Host StaticHost where
  initialValues host := (host.values, host)
  defaultValues host := (host.fallback, host)
  rowsForChild row host := (host.children.lookup row.mergeKey, host)
  rowChanged value row host := { host with changes := host.changes ++ [(row.identifier, value)] }
  action row host :=
    let waiting := host.hooks.zipIdx.filter fun (identifier, _) => identifier = row.identifier
    { host with fired := host.fired ++ waiting.map fun (_, place) => (place, row.name) }

end StaticHost

end SettingsForm
