import SettingsForm.Row.Basic
import SettingsForm.Schema.Error

/-!
# Schemas

A schema is a list of groups that has passed validation, with an index from identifiers to positions and one
from group keys to places. Identifiers are scoped to one nesting level: the rows of a nested form have a scope
of their own, and a nested form that a row carries is validated along with the row.

Rows that hold values have distinct identifiers. Nesting and action rows may share identifiers; the index
keeps the first one that it met. `Schema.build` validates from scratch, `Schema.replaceRows` indexes only
the new rows of one group again and keeps the keys, which rows have no part in.

Levels are 64-bit numbers. Validation counts one level up for each nested form, and a session one for the
form that is opened from it; what is said here of levels is meant of those for which this count stays in
range.
-/

namespace SettingsForm

/-- Positions by identifier, for rows that hold values and for the others. -/
structure Index where
  values : List (String × Position)
  structural : List (String × Position)
  deriving Repr

namespace Index

/-- No row is indexed. -/
def empty : Index := ⟨[], []⟩

/-- Adds a row. A row without identifier is not indexed, and of structural rows with one identifier the
first stays. -/
def insert (index : Index) (level : Nat) (position : Position) (row : Row) : Except SchemaError Index :=
  if row.identifier = "" then .ok index
  else if row.isPersisted then
    match index.values.lookup row.identifier with
    | some first => .error (.duplicateIdentifier row.identifier level first position)
    | none => .ok { index with values := (row.identifier, position) :: index.values }
  else if (index.structural.lookup row.identifier).isSome then .ok index
  else .ok { index with structural := (row.identifier, position) :: index.structural }

/-- Forgets the rows of one group. -/
def withoutGroup (index : Index) (group : Nat) : Index :=
  { values := index.values.filter (·.2.group ≠ group)
    structural := index.structural.filter (·.2.group ≠ group) }

/-- The position of an identifier; rows that hold values are found first. -/
def find? (index : Index) (identifier : String) : Option Position :=
  (index.values.lookup identifier).or (index.structural.lookup identifier)

end Index

/-- Adds the keys of groups, the first of which stands at a place, to those that are known. A key may occur
only once; the group at which one occurs again is reported. -/
def indexGroupKeys (known : List (String × Nat)) (place : Nat) :
    List Group → Except SchemaError (List (String × Nat))
  | [] => .ok known
  | group :: rest =>
    match group.key with
    | none => indexGroupKeys known (place + 1) rest
    | some key =>
      if (known.lookup key).isSome then
        .error (.invalidField (.element .groups place) .key (.duplicateKey key))
      else indexGroupKeys ((key, place) :: known) (place + 1) rest

mutual

/-- Indexes groups from a place on. -/
def indexGroups (level place : Nat) (index : Index) : List Group → Except SchemaError Index
  | [] => .ok index
  | ⟨_, _, _, _, rows⟩ :: rest => do
    let index ← indexRows level ⟨place, 0⟩ index rows
    indexGroups level (place + 1) index rest

/-- Indexes the rows of one group from a position on, after validating what they carry. -/
def indexRows (level : Nat) (position : Position) (index : Index) :
    List Row → Except SchemaError Index
  | [] => .ok index
  | row :: rest => do
    if row.rowType.hasChoices ∧ row.choices.isEmpty then
      throw (.emptyChoiceSet (.ofPosition position))
    checkRow level row
    let index ← index.insert level position row
    indexRows level ⟨position.group, position.row + 1⟩ index rest

/-- Validates the nested form that a row carries. -/
def checkRow (level : Nat) : Row → Except SchemaError Unit
  | ⟨_, _, payload, _, _, _⟩ => checkPayload level payload

/-- Validates the groups, or the single group, of a nested form one level deeper. A single group has no key
to share. -/
def checkPayload (level : Nat) : Payload → Except SchemaError Unit
  | .multiLevel (some groups) => do
    let _ ← indexGroupKeys [] 0 groups
    let _ ← indexGroups (level + 1) 0 .empty groups
  | .propertyList (some ⟨_, _, _, _, rows⟩) => do
    let _ ← indexRows (level + 1) ⟨0, 0⟩ .empty rows
  | _ => .ok ()

end

/-- Groups that passed validation at a nesting level, with their index and the places of their keys. -/
structure Schema where
  level : Nat
  groups : List Group
  index : Index
  groupKeys : List (String × Nat)

namespace Schema

/-- Validates and indexes groups at a level. The forms that rows carry are validated at the levels that follow,
which have to be 64-bit numbers as well. -/
def build (groups : List Group) (level : Nat) : Except SchemaError Schema := do
  let groupKeys ← indexGroupKeys [] 0 groups
  let index ← indexGroups level 0 .empty groups
  .ok { level, groups, index, groupKeys }

/-- The row at a position. -/
def rowAt? (schema : Schema) (position : Position) : Option Row := do
  let group ← schema.groups[position.group]?
  group.rows[position.row]?

/-- The position of the row that an identifier leads to. -/
def positionOf? (schema : Schema) (identifier : String) : Option Position :=
  schema.index.find? identifier

/-- The row that an identifier leads to. -/
def rowFor? (schema : Schema) (identifier : String) : Option Row :=
  (schema.positionOf? identifier).bind schema.rowAt?

/-- The place of the group with a key. -/
def groupIndex? (schema : Schema) (key : String) : Option Nat :=
  schema.groupKeys.lookup key

/-- All rows in display order with their positions. -/
def rows (schema : Schema) : List (Position × Row) :=
  schema.groups.zipIdx.flatMap fun (group, g) =>
    group.rows.zipIdx.map fun (row, r) => (⟨g, r⟩, row)

/-- Puts new rows into the group with a key. Only they are validated and indexed. -/
def replaceRows (schema : Schema) (key : String) (rows : List Row) : Except SchemaError Schema := do
  match schema.groupIndex? key with
  | none => .error (.unknownGroup key)
  | some g =>
    let index ← indexRows schema.level ⟨g, 0⟩ (schema.index.withoutGroup g) rows
    .ok { schema with
      index
      groups := schema.groups.modify g fun group => { group with rows } }

/-- Puts other groups in place of all groups, at the same level. -/
def replaceGroups (schema : Schema) (groups : List Group) : Except SchemaError Schema :=
  build groups schema.level

end Schema

end SettingsForm
