import SettingsForm.Contract.Coercion

/-!
# Contracts

A contract tells how a row is presented and activated, whether it opens a nested form, whether it stores a
value, and how values are converted for it. Every row type has a built-in contract; a registry lets the
host replace the contracts of types.
-/

namespace SettingsForm

/-- How a user interacts with a row. -/
inductive Interaction where
  /-- The value is shown and not edited in place. -/
  | display
  | textEntry
  | multilineEntry
  /-- Activation flips a boolean. -/
  | toggle
  | dateEntry
  | listEntry
  /-- Activation offers choices. -/
  | selection
  /-- Activation opens a nested form. -/
  | navigate
  /-- Activation fires an effect. -/
  | trigger
  /-- The host decides. -/
  | custom
  deriving DecidableEq, Repr

/-- The name of an interaction in an overview. -/
def Interaction.name : Interaction → String
  | display => "display"
  | textEntry => "textEntry"
  | multilineEntry => "multilineEntry"
  | toggle => "toggle"
  | dateEntry => "dateEntry"
  | listEntry => "listEntry"
  | selection => "selection"
  | navigate => "navigate"
  | trigger => "trigger"
  | custom => "custom"

/-- The editing contract of a row. -/
structure Contract where
  interaction : Interaction
  coercion : Coercion
  /-- Activation opens a nested form. -/
  recurses : Bool
  /-- The row stores a value under its identifier. -/
  persisted : Bool

namespace Contract

/-- A contract for a row that stores a value and opens no form. -/
def storing (interaction : Interaction) (coercion : Coercion) : Contract :=
  { interaction, coercion, recurses := false, persisted := true }

/-- The contract that a type has unless it is replaced. -/
def builtin : RowType → Contract
  | .plain => storing .display .any
  | .string => storing .textEntry .text
  | .integer => storing .textEntry .integer
  | .decimal => storing .textEntry .decimal
  | .boolean => storing .toggle .boolean
  | .date => storing .dateEntry .date
  | .multilineText => storing .multilineEntry .text
  | .richText => storing .display .text
  | .simpleList => storing .listEntry .list
  | .custom => storing .custom .any
  | .choice => storing .selection .declared
  | .multiValue | .pickerList | .pickerView => storing .selection .selection
  | .multiLevel | .propertyList =>
    { interaction := .navigate, coercion := .refuse, recurses := true, persisted := false }
  | .action =>
    { interaction := .trigger, coercion := .refuse, recurses := false, persisted := false }

/-- Converts a value for the row stored under a key. -/
def coerce (contract : Contract) (key : String) (row : Row) (raw : Value) (lenient : Bool) :
    Except CoercionError Value :=
  contract.coercion.apply key row raw lenient

end Contract

/-- The contracts that the host has put in place of built-in ones. -/
structure Registry where
  override? : RowType → Option Contract

namespace Registry

/-- No contract is replaced. -/
def empty : Registry := ⟨fun _ => none⟩

/-- The default registry replaces nothing. -/
instance : Inhabited Registry := ⟨empty⟩

/-- The contract in force for a type. -/
def contractFor (registry : Registry) (rowType : RowType) : Contract :=
  (registry.override? rowType).getD (Contract.builtin rowType)

/-- Replaces the contract of a type. -/
def register (registry : Registry) (rowType : RowType) (contract : Contract) : Registry :=
  ⟨fun t => if t = rowType then some contract else registry.override? t⟩

/-- Restores the built-in contract of a type. -/
def reset (registry : Registry) (rowType : RowType) : Registry :=
  ⟨fun t => if t = rowType then none else registry.override? t⟩

end Registry

end SettingsForm
