import SettingsForm.Contract.Basic
import SettingsForm.Store.IndexedKey

/-!
# Layered values

The values of one session lie in three mappings: those the host supplied, those it falls back to, and the
edits made so far. A look-up asks the edits first, then the input, then the fallback; what a row declares
comes last. Only the edits are ever written, by commits and by the dismissal of a nested session.
-/

namespace SettingsForm

/-- Which mapping answered a look-up. -/
inductive Layer where
  | edits
  | input
  | fallback
  deriving DecidableEq, Repr

/-- What a commit did: the value now in effect, and whether it differs from the one before. -/
structure Committed where
  value : Value
  changed : Bool
  deriving Repr

/-- The three mappings of one session. -/
structure Store where
  input : Mapping
  fallback : Mapping
  edits : Mapping
  deriving Repr, Inhabited

namespace Store

/-- A store without edits. -/
def ofValues (input fallback : Mapping) : Store := { input, fallback, edits := [] }

/-- The first layer that holds a key, with its value. -/
def lookup? (store : Store) (key : String) : Option (Value × Layer) :=
  ((Mapping.get? key store.edits).map (·, .edits)).or <|
    ((Mapping.get? key store.input).map (·, .input)).or <|
      (Mapping.get? key store.fallback).map (·, .fallback)

/-- The value that a look-up finds for a key in the layers. -/
def get? (store : Store) (key : String) : Option Value := (store.lookup? key).map Prod.fst

/-- The value in effect for a key, given what its row declares. -/
def effective (store : Store) (key : String) (declared : Value) : Value := (store.get? key).getD declared

/-- The key was written in this session. -/
def isDirty (store : Store) (key : String) : Bool := Mapping.contains key store.edits

/-- A value is in effect if the effective value equals it, or converts to it leniently. -/
def isInEffect (store : Store) (key : String) (row : Row) (contract : Contract) (value : Value) : Bool :=
  let current := store.effective key row.declaredValue
  current == value || match contract.coerce key row current true with
    | .ok converted => converted == value
    | .error _ => false

/-- Converts a value and writes it under a key, unless it is in effect already. -/
def commit (store : Store) (key : String) (row : Row) (contract : Contract) (raw : Value)
    (lenient : Bool) : Except CoercionError (Committed × Store) := do
  let value ← contract.coerce key row raw lenient
  if store.isInEffect key row contract value then .ok (⟨value, false⟩, store)
  else .ok (⟨value, true⟩, { store with edits := Mapping.insert key value store.edits })

/-- Stores the edits of a nested session under a key, in place of any earlier value. No edits change
nothing. -/
def mergeChild (store : Store) (key : String) (edits : Mapping) : Store :=
  if edits.isEmpty then store
  else { store with edits := Mapping.insert key (.mapping edits) store.edits }

/-- The nested mapping in effect for a key, if the value in effect is one. -/
def nestedEffective? (store : Store) (key : String) : Option Mapping :=
  (store.get? key).bind Value.asMapping?

/-- The nested mapping in the fallback values. -/
def nestedFallback? (store : Store) (key : String) : Option Mapping :=
  (Mapping.get? key store.fallback).bind Value.asMapping?

/-- Inserts an entry into a list with ascending indexes, in place of one with the same index. -/
def insertEntry (new : Nat × Value) : List (Nat × Value) → List (Nat × Value)
  | [] => [new]
  | entry :: rest =>
    if new.1 < entry.1 then new :: entry :: rest
    else if new.1 = entry.1 then new :: rest
    else entry :: insertEntry new rest

/-- What a key contributes to the entries of a name: its index and the value in effect for it, if it is an
indexed key of the name. -/
def contribution? (store : Store) (name : String) (key : String) : Option (Nat × Value) := do
  let decoded ← IndexedKey.decode? key
  if decoded.name = name then
    let value ← store.get? key
    some (decoded.index, value)
  else none

/-- The values in effect for the indexed keys of a name in any layer, by ascending index. -/
def indexed (store : Store) (name : String) : List (Nat × Value) :=
  let keys := Mapping.keys store.fallback ++ Mapping.keys store.input ++ Mapping.keys store.edits
  (keys.filterMap (store.contribution? name)).foldl (fun found entry => insertEntry entry found) []

/-- One more than the largest index in use for a name, absent when that has no successor in sixty-four
bits. -/
def nextIndex? (store : Store) (name : String) : Option Nat :=
  match (store.indexed name).getLast? with
  | none => some 0
  | some (index, _) => if index + 1 < 0x10000000000000000 then some (index + 1) else none

end Store

end SettingsForm
