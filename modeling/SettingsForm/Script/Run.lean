import SettingsForm.Script.Visit
import SettingsForm.Session.Controller

/-!
# Scripted runs

A script is a list of assignments. It is run over a static host: the commits of a form first, then its
nested forms, each of which is opened, visited and dismissed. The first failure ends the run.
-/

namespace SettingsForm

/-- Why a script failed. Failures inside a form name the path that led there. -/
inductive ScriptError where
  /-- An assignment was refused. -/
  | notSet (path : List String) (cause : SettingsError)
  /-- A form has no nesting row with the merge key that ends the path. -/
  | noNestedForm (path : List String) (key : String)
  /-- The session failed outside an assignment. -/
  | session (cause : SettingsError)
  deriving Repr

/-- A path with points between its parts. -/
def ScriptError.dotted (path : List String) : String := String.intercalate "." path

/-- The sentences that report a failure, from the outermost circumstance to the cause. -/
def ScriptError.messages : ScriptError → List String
  | notSet path cause => [s!"cannot set `{dotted path}`", cause.message]
  | noNestedForm path key => [s!"at `{dotted path}`", s!"no nested section `{key}`"]
  | session cause => [cause.message]

namespace Script

/-- A step of a script over a running form. -/
abbrev Step (σ α : Type) := ExceptT ScriptError (StateM (Controller σ)) α

variable {σ : Type} [Host σ]

/-- Runs an operation; its failure becomes one of the script. -/
def perform {α : Type} (operation : Operation σ α) (report : SettingsError → ScriptError) : Step σ α :=
  ExceptT.mk do
    match ← operation.run with
    | .ok value => return .ok value
    | .error error => return .error (report error)

/-- The position of the nesting row with a merge key. -/
def nestingRow? (schema : Schema) (key : String) : Option Position :=
  (schema.rows.find? fun (_, row) => row.rowType.isNesting && row.mergeKey = key).map Prod.fst

/-- Commits values one after the other. -/
def commitAll (trail : List String) : List (String × Value) → Step σ Unit
  | [] => pure ()
  | (key, value) :: rest => do
    let _ ← perform (Controller.commit key value) (.notSet (trail ++ [key]))
    commitAll trail rest

/-- Opens the nested form with a merge key. -/
def enter (trail : List String) (key : String) : Step σ SessionId := do
  let session ← perform (Controller.query Controller.current) .session
  match nestingRow? session.schema key with
  | none => throw (.noNestedForm (trail ++ [key]) key)
  | some position => perform (Controller.push session.id position) .session

mutual

/-- Carries out a visit in the innermost session, which the trail leads to. -/
def visit (trail : List String) : Visit → Step σ Unit
  | .mk commits children => do
    commitAll trail commits
    visitChildren trail children

/-- Opens each nested form, carries out the visit in it, and dismisses it again. -/
def visitChildren (trail : List String) : List (String × Visit) → Step σ Unit
  | [] => pure ()
  | (key, child) :: rest => do
    let id ← enter trail key
    visit (trail ++ [key]) child
    let _ ← perform (Controller.pop id) .session
    visitChildren trail rest

end

/-- Runs assignments over a form and returns the edits of the root session. -/
def run (groups : List Group) (values fallback : Mapping) (config : Config)
    (assignments : List Assignment) : Except ScriptError Mapping := do
  match Controller.start groups (StaticHost.ofValues values fallback) config with
  | .error error => .error (.session (.schema error))
  | .ok controller =>
    let steps : Step StaticHost Mapping := do
      visit [] (Visit.ofAssignments assignments)
      perform Controller.finish .session
    (steps.run controller).fst

end Script

end SettingsForm
