import SettingsForm.Proofs.Store.Layers

/-!
# Values along paths

A path of merge keys leads through nested forms to a key of the last one. Each form on the way hands its
nested mapping down twice: the one in effect becomes the input of the nested form, and the one among the
fallback values becomes its fallback. So a nested form finds every value of the outer fallback again in its
own, also where the outer input hides it or has nothing to hand down.

A value that is stored at the end of a path is therefore found there, and nothing changes along any path that
neither leads to that one nor continues it, even if mappings had to be put on the way.
-/

namespace SettingsForm

namespace Mapping

/-- The nested mapping that is stored under a key, empty if there is none. -/
def inner (key : String) (m : Mapping) : Mapping := ((get? key m).bind Value.asMapping?).getD []

/-- Stores a value at the end of a path. A mapping is put under each key on the way that has none. -/
def storeAt (value : Value) : List String → Mapping → Mapping
  | [], m => m
  | [key], m => insert key value m
  | key :: rest, m => insert key (.mapping (storeAt value rest (inner key m))) m

/-- Only the first key of the path is written. -/
theorem storeAt_cons (value : Value) (key : String) (rest : List String) (m : Mapping) :
    ∃ written, storeAt value (key :: rest) m = insert key written m := by
  cases rest with
  | nil => exact ⟨value, rfl⟩
  | cons next others => exact ⟨_, rfl⟩

/-- Storing along a longer path stores along its rest in the nested mapping. -/
theorem inner_storeAt (value : Value) (key : String) {rest : List String} (further : rest ≠ []) (m : Mapping) :
    get? key (storeAt value (key :: rest) m) = some (.mapping (storeAt value rest (inner key m))) := by
  obtain ⟨next, others, rfl⟩ := List.exists_cons_of_ne_nil further
  exact get?_insert_self key _ m

end Mapping

namespace Store

variable {store other : Store} {key : String} {path rest : List String}

/-- The store that the nested form with a merge key starts from, where the host supplies no values for it. -/
def inner (key : String) (store : Store) : Store :=
  .ofValues ((store.nestedEffective? key).getD []) (Mapping.inner key store.fallback)

/-- The value in effect at the end of a path through nested forms in which nothing was edited. -/
def along? : List String → Store → Option Value
  | [], _ => none
  | [key], store => store.get? key
  | key :: rest, store => along? rest (store.inner key)

/-- A longer path goes on in the store of the nested form. -/
theorem along?_cons (further : rest ≠ []) : along? (key :: rest) store = along? rest (store.inner key) := by
  obtain ⟨next, others, rfl⟩ := List.exists_cons_of_ne_nil further
  rfl

/-- In a store without edits a key is looked up in the input, then in the fallback. -/
theorem get?_ofValues (input fallback : Mapping) (key : String) :
    (ofValues input fallback).get? key = (Mapping.get? key input).or (Mapping.get? key fallback) := by
  rw [get?_eq]
  rfl

/-- What is found along a path depends on the first look-up and on the fallback. -/
theorem along?_congr (same : store.get? key = other.get? key) (fallback : store.fallback = other.fallback) :
    along? (key :: rest) store = along? (key :: rest) other := by
  cases rest with
  | nil => exact same
  | cons next others =>
    have inner : store.inner key = other.inner key := by
      simp only [Store.inner, nestedEffective?, same, fallback]
    rw [along?_cons (List.cons_ne_nil next others), along?_cons (List.cons_ne_nil next others), inner]

/-- A nested form finds the same values whether or not its input repeats its fallback. -/
theorem along?_inner (input fallback : Mapping) (key : String) (path : List String) :
    along? path (ofValues (Mapping.inner key input) (Mapping.inner key fallback)) =
      along? path ((ofValues input fallback).inner key) := by
  cases path with
  | nil => rfl
  | cons next others =>
    refine along?_congr ?_ rfl
    rw [inner, get?_ofValues, get?_ofValues, nestedEffective?, get?_ofValues, Mapping.inner]
    cases Mapping.get? key input with
    | some value => rfl
    | none =>
      -- The input hands nothing down, so the nested input is the nested fallback.
      rw [Option.none_or, ← Mapping.inner]
      change (Mapping.get? next []).or (Mapping.get? next (Mapping.inner key fallback)) =
        (Mapping.get? next (Mapping.inner key fallback)).or (Mapping.get? next (Mapping.inner key fallback))
      rw [Option.or_self]
      rfl

/-- The store of a nested form into which a path leads that a value is stored along. -/
theorem inner_storeAt (further : rest ≠ []) (value : Value) (input fallback : Mapping) :
    (ofValues (Mapping.storeAt value (key :: rest) input) fallback).inner key =
      ofValues (Mapping.storeAt value rest (Mapping.inner key input)) (Mapping.inner key fallback) := by
  rw [inner, nestedEffective?, get?_ofValues, Mapping.inner_storeAt value key further]
  rfl

/-- A value is found at the end of the path that it is stored along. -/
theorem along?_storeAt_self (named : path ≠ []) (value : Value) (input fallback : Mapping) :
    along? path (ofValues (Mapping.storeAt value path input) fallback) = some value := by
  induction path generalizing input fallback with
  | nil => exact absurd rfl named
  | cons key rest inductionHypothesis =>
    by_cases last : rest = []
    · subst last
      rw [along?, get?_ofValues, Mapping.storeAt, Mapping.get?_insert_self, Option.some_or]
    · rw [along?_cons last, inner_storeAt last]
      exact inductionHypothesis last _ _

/-- Along a path that neither leads to the written one nor continues it, everything stays as it is. -/
theorem along?_storeAt_apart {written : List String} (leads : ¬ path <+: written)
    (continues : ¬ written <+: path) (value : Value) (input fallback : Mapping) :
    along? path (ofValues (Mapping.storeAt value written input) fallback) =
      along? path (ofValues input fallback) := by
  induction path generalizing written input fallback with
  | nil => exact absurd List.nil_prefix leads
  | cons key rest inductionHypothesis =>
    cases written with
    | nil => exact absurd List.nil_prefix continues
    | cons head tail =>
      by_cases same : head = key
      · subst same
        rw [List.prefix_cons_inj] at leads continues
        have further : rest ≠ [] := by
          rintro rfl
          exact leads List.nil_prefix
        have more : tail ≠ [] := by
          rintro rfl
          exact continues List.nil_prefix
        rw [along?_cons further, inner_storeAt more, inductionHypothesis leads continues, along?_inner,
          along?_cons further]
      · obtain ⟨stored, stores⟩ := Mapping.storeAt_cons value head tail input
        refine along?_congr ?_ rfl
        rw [stores, get?_ofValues, get?_ofValues,
          Mapping.get?_insert_of_ne head key stored input (Ne.symm same)]

end Store

end SettingsForm
