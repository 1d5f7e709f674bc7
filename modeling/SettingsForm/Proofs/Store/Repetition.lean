import Mathlib.Logic.Function.Iterate
import SettingsForm.Proofs.Store.Effect

/-!
# Commits that are repeated

A commit counts as a change just if the value in effect for its key is another one afterwards. It reports a
change only when it writes, and it writes only a value that is not in effect. What it writes is in effect from
then on, so the same commit finds nothing to do the next time, and any number of equal commits leaves what one
of them leaves. A refused commit leaves the store as it was, however often it is repeated.

Conversions are functions of the value, also those of a host; nothing else is asked of them.
-/

namespace SettingsForm

namespace Store

/-- The store that a commit leaves, which is the one before if the value is refused. -/
def afterCommit (store : Store) (key : String) (row : Row) (contract : Contract) (raw : Value) (lenient : Bool) :
    Store :=
  match store.commit key row contract raw lenient with
  | .ok (_, after) => after
  | .error _ => store

/-- An accepted commit leaves the store that it returns. -/
theorem afterCommit_ok {store after : Store} {key : String} {row : Row} {contract : Contract} {raw : Value}
    {lenient : Bool} {committed : Committed}
    (stored : store.commit key row contract raw lenient = .ok (committed, after)) :
    store.afterCommit key row contract raw lenient = after := by
  rw [afterCommit, stored]

/-- A refused commit leaves the store that it found. -/
theorem afterCommit_error {store : Store} {key : String} {row : Row} {contract : Contract} {raw : Value}
    {lenient : Bool} {error : CoercionError}
    (refused : store.commit key row contract raw lenient = .error error) :
    store.afterCommit key row contract raw lenient = store := by
  rw [afterCommit, refused]

/-- How an accepted commit that led from one store to another relates to both. -/
structure Exact (store after : Store) (key : String) (row : Row) (contract : Contract) (raw : Value)
    (lenient : Bool) (committed : Committed) : Prop where
  /-- It counts as a change just if the value in effect has changed. -/
  changed : committed.changed = true ↔
    (store.effective key row.declaredValue == after.effective key row.declaredValue) = false
  input : after.input = store.input
  fallback : after.fallback = store.fallback
  others : ∀ other, other ≠ key → Mapping.get? other after.edits = Mapping.get? other store.edits
  /-- The same commit returns the same value again and changes nothing. -/
  again : after.commit key row contract raw lenient = .ok (⟨committed.value, false⟩, after)

/-- What is written under a key counts as in effect for it. -/
theorem isInEffect_write (store : Store) (key : String) (row : Row) (contract : Contract) (value : Value) :
    isInEffect { store with edits := Mapping.insert key value store.edits } key row contract value = true := by
  refine isInEffect_iff.mpr (Or.inl ?_)
  rw [effective_write]
  exact BEq.rfl

/-- Whether it wrote its value or found it in effect, an accepted commit leaves it so. -/
theorem inEffect_of_commit {store after : Store} {key : String} {row : Row} {contract : Contract} {raw : Value}
    {lenient : Bool} {committed : Committed}
    (stored : store.commit key row contract raw lenient = .ok (committed, after)) :
    after.isInEffect key row contract committed.value = true := by
  obtain ⟨-, ⟨-, inEffect, rfl⟩ | ⟨-, -, rfl⟩⟩ := commit_cases stored
  · exact inEffect
  · exact isInEffect_write store key row contract committed.value

/-- An accepted commit changes just what it reports. Its value is in effect from then on, so that the same
commit writes nothing more. -/
theorem exact_of_commit {store after : Store} {key : String} {row : Row} {contract : Contract} {raw : Value}
    {lenient : Bool} {committed : Committed}
    (stored : store.commit key row contract raw lenient = .ok (committed, after)) :
    Exact store after key row contract raw lenient committed := by
  obtain ⟨converted, ends⟩ := commit_cases stored
  obtain ⟨frame, others⟩ := commit_frame stored
  refine ⟨?_, by rw [frame], by rw [frame], others, ?_⟩
  · rcases ends with ⟨unchanged, -, rfl⟩ | ⟨changed, absent, rfl⟩
    · rw [unchanged, BEq.rfl]
      decide
    · have differs : (store.effective key row.declaredValue == committed.value) = false := by
        rw [isInEffect, Bool.or_eq_false_iff] at absent
        exact absent.1
      rw [effective_write, changed, differs]
      decide
  · exact commit_of_inEffect converted (inEffect_of_commit stored)

/-- The store that a commit leaves is left as it is by the same commit. -/
theorem afterCommit_again (store : Store) (key : String) (row : Row) (contract : Contract) (raw : Value)
    (lenient : Bool) :
    (store.afterCommit key row contract raw lenient).afterCommit key row contract raw lenient =
      store.afterCommit key row contract raw lenient := by
  cases stored : store.commit key row contract raw lenient with
  | error error => rw [afterCommit_error stored, afterCommit_error stored]
  | ok result => rw [afterCommit_ok stored, afterCommit_ok (exact_of_commit stored).again]

/-- A refused commit leaves the store as it was. An accepted one counts as a change just if the value in
effect has changed, writes at most its own key of the edits, and finds nothing to do when it is repeated; so
any number of equal commits, and one of them, leave the same store. -/
theorem commit_exact (store : Store) (key : String) (row : Row) (contract : Contract) (raw : Value)
    (lenient : Bool) :
    (match store.commit key row contract raw lenient with
      | .error _ => store.afterCommit key row contract raw lenient = store
      | .ok (committed, after) => store.afterCommit key row contract raw lenient = after ∧
          Exact store after key row contract raw lenient committed) ∧
      ∀ more : Nat, (fun store => store.afterCommit key row contract raw lenient)^[more + 1] store =
        store.afterCommit key row contract raw lenient := by
  constructor
  · cases stored : store.commit key row contract raw lenient with
    | error error => exact afterCommit_error stored
    | ok result => exact ⟨afterCommit_ok stored, exact_of_commit stored⟩
  · intro more
    rw [Function.iterate_succ_apply]
    exact Function.iterate_fixed (afterCommit_again store key row contract raw lenient) more

end Store

end SettingsForm
