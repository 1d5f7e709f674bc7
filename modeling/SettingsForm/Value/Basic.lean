import SettingsForm.Number.Basic

/-!
# Values

The data that rows hold and documents are made of. A mapping is a list of entries in ascending order of
their keys, with at most one entry for a key; `Mapping.insert` keeps it so. Equality of values, written
`==`, compares numbers numerically within their kind and everything else by structure.
-/

namespace SettingsForm

/-- A value of a settings document. -/
inductive Value where
  | null
  | bool (value : Bool)
  | number (value : Number)
  | string (value : String)
  | list (items : List Value)
  | mapping (entries : List (String × Value))
  deriving Repr, Inhabited

namespace Value

mutual

/-- Equality by structure, in which numbers are compared numerically within their kind. -/
def equals : Value → Value → Bool
  | .null, .null => true
  | .bool a, .bool b => a == b
  | .number a, .number b => a == b
  | .string a, .string b => a == b
  | .list items, .list others => equalsItems items others
  | .mapping entries, .mapping others => equalsEntries entries others
  | _, _ => false

/-- The lists have as many items, equal in turn. -/
def equalsItems : List Value → List Value → Bool
  | [], [] => true
  | item :: rest, other :: others => item.equals other && equalsItems rest others
  | _, _ => false

/-- The mappings have the same keys with equal values, in order. -/
def equalsEntries : List (String × Value) → List (String × Value) → Bool
  | [], [] => true
  | (key, value) :: rest, (other, compared) :: others =>
    key == other && value.equals compared && equalsEntries rest others
  | _, _ => false

end

/-- Values are compared by structure. -/
instance : BEq Value := ⟨equals⟩

end Value

/-- Entries of a mapping, in ascending order of their keys. -/
abbrev Mapping := List (String × Value)

namespace Mapping

/-- The value stored under a key. -/
def get? (key : String) : Mapping → Option Value
  | [] => none
  | (k, v) :: rest => if k = key then some v else get? key rest

/-- The mapping has a value under the key. -/
def contains (key : String) (m : Mapping) : Bool := (get? key m).isSome

/-- Stores a value under a key, replacing any earlier one, and keeps the keys ascending. -/
def insert (key : String) (value : Value) : Mapping → Mapping
  | [] => [(key, value)]
  | (k, v) :: rest =>
    if key < k then (key, value) :: (k, v) :: rest
    else if k = key then (key, value) :: rest
    else (k, v) :: insert key value rest

/-- Collects entries; of several with one key the last one counts. -/
def ofEntries (entries : List (String × Value)) : Mapping :=
  entries.foldl (fun m (k, v) => insert k v m) []

/-- The keys of a mapping, in order. -/
def keys (m : Mapping) : List String := m.map Prod.fst

end Mapping

namespace Value

/-- The text of a string. -/
def asString? : Value → Option String
  | .string s => some s
  | _ => none

/-- The truth value of a boolean. -/
def asBool? : Value → Option Bool
  | .bool b => some b
  | _ => none

/-- The items of a list. -/
def asList? : Value → Option (List Value)
  | .list items => some items
  | _ => none

/-- The entries of a mapping. -/
def asMapping? : Value → Option Mapping
  | .mapping entries => some entries
  | _ => none

/-- The natural number that an integer value is. -/
def asNat? : Value → Option Nat
  | .number n => n.toNat?
  | _ => none

/-- Neither a list, a mapping nor null. -/
def isScalar : Value → Bool
  | .null | .list _ | .mapping _ => false
  | _ => true

end Value

end SettingsForm
