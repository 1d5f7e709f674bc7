import SettingsForm.Value.Basic

/-!
# Session configuration

How deep sessions may be nested, whether conversions are lenient, and whether the host hears of commits that
change nothing. A configuration is read from an object, in which every field may be missing, or from a list
of the fields in order, which may end early.
-/

namespace SettingsForm

/-- How a form behaves, whatever its groups. -/
structure Config where
  /-- The deepest nesting level that a session may have; the root has level 0. -/
  maxNesting : Nat
  /-- Texts are converted to numbers, booleans and lists, and timestamps to dates. -/
  lenientStrings : Bool
  /-- The host is told of every accepted commit, not only of changes. -/
  notifyUnchanged : Bool
  deriving DecidableEq, Repr

namespace Config

/-- The configuration that is in force if none is given. -/
def standard : Config := { maxNesting := 8, lenientStrings := true, notifyUnchanged := false }

/-- A configuration is the standard one unless another is given. -/
instance : Inhabited Config := ⟨standard⟩

/-- The value of a field, or what it is when the field is missing. -/
def field? {α : Type} (read : Value → Option α) (missing : α) : Option Value → Option α
  | none => some missing
  | some value => read value

/-- Reads the three fields; one that is present must have the right type. -/
def ofFields? (maxNesting lenientStrings notifyUnchanged : Option Value) : Option Config := do
  some {
    maxNesting := ← field? Value.asNat? standard.maxNesting maxNesting
    lenientStrings := ← field? Value.asBool? standard.lenientStrings lenientStrings
    notifyUnchanged := ← field? Value.asBool? standard.notifyUnchanged notifyUnchanged }

/-- Reads a configuration from an object or from a list of at most three fields. -/
def ofValue? : Value → Option Config
  | .mapping fields =>
    ofFields? (Mapping.get? "max_nesting" fields) (Mapping.get? "lenient_strings" fields)
      (Mapping.get? "notify_unchanged" fields)
  | .list items =>
    if items.length ≤ 3 then ofFields? items[0]? items[1]? items[2]? else none
  | _ => none

end Config

end SettingsForm
