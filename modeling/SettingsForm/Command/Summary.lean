import SettingsForm.Row.Basic
import SettingsForm.Text.Columns

/-!
# Summary of a form

How many groups and rows a form has on all levels, how deep its nested forms go, how many rows there are of
each type, and how many nested forms are left to the host.
-/

namespace SettingsForm

/-- What is counted in a form and in the forms that its rows carry. -/
structure Summary where
  groups : Nat
  /-- The deepest level; that of the form itself is 0. -/
  depth : Nat
  /-- The types of all rows. -/
  rowTypes : List RowType
  /-- The number of nesting rows that carry no form. -/
  openForms : Nat
  deriving DecidableEq, Repr

namespace Summary

/-- Nothing counted yet. -/
def empty : Summary := { groups := 0, depth := 0, rowTypes := [], openForms := 0 }

/-- Counts a form on a level with so many groups, whose rows are counted apart. -/
def enter (level count : Nat) (s : Summary) : Summary :=
  { s with groups := s.groups + count, depth := max s.depth level }

mutual

/-- Counts the rows of groups on a level, and the forms nested in them. -/
def addGroups (level : Nat) : List Group → Summary → Summary
  | [], s => s
  | group :: rest, s => addGroups level rest (addGroup level group s)

/-- Counts the rows of a group. -/
def addGroup (level : Nat) : Group → Summary → Summary
  | ⟨_, _, _, _, rows⟩, s => addRows level rows s

/-- Counts rows with what they carry. -/
def addRows (level : Nat) : List Row → Summary → Summary
  | [], s => s
  | row :: rest, s => addRows level rest (addRow level row s)

/-- Counts a row by its type, and what it carries. -/
def addRow (level : Nat) : Row → Summary → Summary
  | ⟨_, _, payload, _, _, _⟩, s =>
    addNested level payload { s with rowTypes := payload.rowType :: s.rowTypes }

/-- Counts the form that a payload carries. -/
def addNested (level : Nat) : Payload → Summary → Summary
  | .multiLevel (some groups), s => addGroups (level + 1) groups (s.enter (level + 1) groups.length)
  | .propertyList (some group), s => addGroup (level + 1) group (s.enter (level + 1) 1)
  | .multiLevel none, s | .propertyList none, s => { s with openForms := s.openForms + 1 }
  | _, s => s

end

/-- Counts groups at the top. -/
def ofGroups (groups : List Group) : Summary := addGroups 0 groups (empty.enter 0 groups.length)

/-- The types of the rows in the order of their names, with the number of rows of each. -/
def counts (s : Summary) : List (RowType × Nat) :=
  ((RowType.all.mergeSort fun a b => decide (a.name ≤ b.name)).map fun t => (t, s.rowTypes.count t)).filter
    fun (_, count) => count ≠ 0

/-- The lines that report a summary. -/
def lines (s : Summary) : List String :=
  [s!"  {s.groups} groups, {s.rowTypes.length} rows, nesting depth {s.depth}"] ++
    (s.counts.map fun (t, count) => s!"  {Columns.padRight 14 t.name} {count}") ++
    (if s.openForms = 0 then [] else [s!"  {s.openForms} nested sections are supplied by the host"])

end Summary

end SettingsForm
