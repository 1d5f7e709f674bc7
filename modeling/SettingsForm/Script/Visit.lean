import SettingsForm.Script.Assignment

/-!
# Visits

Assignments grouped by the nested forms that they lead into. A nested form is visited once for all
assignments below it, because the edits of a later visit would replace those of an earlier one. Both the
commits of a form and its nested forms are listed in the order of their first assignment.
-/

namespace SettingsForm

/-- What is to be committed in a form, and what in the forms nested in it. -/
inductive Visit where
  | mk (commits : List (String × Value)) (children : List (String × Visit))
  deriving Inhabited

namespace Visit

/-- The values committed in the form itself. -/
def commits : Visit → List (String × Value)
  | mk commits _ => commits

/-- The visits of nested forms, each under the key of its form. -/
def children : Visit → List (String × Visit)
  | mk _ children => children

/-- Nothing is to be done. -/
def empty : Visit := mk [] []

/-- Changes the visit of a nested form, which is added at the end if it is new. -/
def updateChild (key : String) (change : Visit → Visit) : List (String × Visit) → List (String × Visit)
  | [] => [(key, change empty)]
  | (k, child) :: rest =>
    if k = key then (k, change child) :: rest else (k, child) :: updateChild key change rest

/-- Adds the assignment of a value to a path. -/
def insert (value : Value) : List String → Visit → Visit
  | [], visit => visit
  | [key], mk commits children => mk (commits ++ [(key, value)]) children
  | key :: rest, mk commits children => mk commits (updateChild key (insert value rest) children)

/-- Groups assignments. -/
def ofAssignments (assignments : List Assignment) : Visit :=
  assignments.foldl (fun visit a => visit.insert a.value a.path) empty

end Visit

end SettingsForm
