import SettingsForm.Store.Basic

/-!
# What is written

An accepted commit puts the converted value under its key in the edits, or writes nothing because the
value is in effect already. Edits that are handed back are put under their key in the same way, unless
there are none. Input and fallback are never written, and neither is any other key of the edits. The order
of the entries plays no part in these laws.
-/

namespace SettingsForm

namespace Mapping

/-- Storing a value under one key leaves what is stored under every other key. -/
theorem get?_insert_of_ne (key other : String) (value : Value) (m : Mapping)
    (different : other ≠ key) : get? other (insert key value m) = get? other m := by
  induction m with
  | nil => simp [insert, get?, different.symm]
  | cons entry rest inductionHypothesis =>
    obtain ⟨present, stored⟩ := entry
    by_cases before : key < present
    · simp [insert, before, get?, different.symm]
    · by_cases same : present = key
      · subst same
        simp only [insert, before, ↓reduceIte, get?, different.symm]
      · simp only [insert, before, ↓reduceIte, same, get?]
        rw [inductionHypothesis]

/-- What is stored under a key is found there. -/
theorem get?_insert_self (key : String) (value : Value) (m : Mapping) :
    get? key (insert key value m) = some value := by
  induction m with
  | nil => simp [insert, get?]
  | cons entry rest inductionHypothesis =>
    obtain ⟨present, stored⟩ := entry
    by_cases before : key < present
    · simp [insert, before, get?]
    · by_cases same : present = key
      · subst same
        simp only [insert, before, ↓reduceIte, get?]
      · simp only [insert, before, ↓reduceIte, same, get?]
        exact inductionHypothesis

/-- Only the key that is written is looked up with another result. -/
theorem get?_insert (key other : String) (value : Value) (m : Mapping) :
    get? other (insert key value m) = if other = key then some value else get? other m := by
  by_cases same : other = key
  · rw [if_pos same, same, get?_insert_self]
  · rw [if_neg same, get?_insert_of_ne key other value m same]

/-- Values under different keys are stored in either order. -/
theorem insert_comm {key other : String} (different : other ≠ key) (value written : Value) (m : Mapping) :
    insert key value (insert other written m) = insert other written (insert key value m) := by
  have total : key < other ∨ other < key := by
    by_cases before : key < other
    · exact Or.inl before
    · by_cases after : other < key
      · exact Or.inr after
      · exact absurd (String.le_antisymm (String.not_lt.mp before) (String.not_lt.mp after)) different
  induction m with
  | nil =>
    rcases total with before | after
    · simp [insert, before, String.lt_asymm before, different.symm]
    · simp [insert, after, String.lt_asymm after, different]
  | cons entry rest inductionHypothesis =>
    -- Both keys are compared with the first one that is present.
    obtain ⟨present, stored⟩ := entry
    grind [insert, String.lt_trans, String.lt_asymm]

end Mapping

namespace Store

/-- A value is in effect if the effective value equals it or converts to it. -/
theorem isInEffect_iff {store : Store} {key : String} {row : Row} {contract : Contract} {value : Value} :
    store.isInEffect key row contract value = true ↔
      (store.effective key row.declaredValue == value) = true ∨
        ∃ converted, contract.coerce key row (store.effective key row.declaredValue) true = .ok converted ∧
          (converted == value) = true := by
  rw [isInEffect, Bool.or_eq_true]
  cases contract.coerce key row (store.effective key row.declaredValue) true <;> simp

/-- An accepted commit returns the converted value. Either that value was in effect, and nothing is
written, or it was not, and the edits hold it under the key from now on. -/
theorem commit_cases {store after : Store} {key : String} {row : Row} {contract : Contract}
    {raw : Value} {lenient : Bool} {committed : Committed}
    (stored : store.commit key row contract raw lenient = .ok (committed, after)) :
    contract.coerce key row raw lenient = .ok committed.value ∧
      (committed.changed = false ∧ store.isInEffect key row contract committed.value = true ∧
          after = store ∨
        committed.changed = true ∧ store.isInEffect key row contract committed.value = false ∧
          after = { store with edits := Mapping.insert key committed.value store.edits }) := by
  cases converted : contract.coerce key row raw lenient with
  | error error => simp [commit, converted, bind, Except.bind] at stored
  | ok value =>
    simp only [commit, converted, bind, Except.bind] at stored
    by_cases inEffect : store.isInEffect key row contract value = true
    · rw [if_pos inEffect] at stored
      obtain ⟨rfl, rfl⟩ := Prod.mk.inj (Except.ok.inj stored)
      exact ⟨rfl, Or.inl ⟨rfl, inEffect, rfl⟩⟩
    · rw [if_neg inEffect] at stored
      obtain ⟨rfl, rfl⟩ := Prod.mk.inj (Except.ok.inj stored)
      exact ⟨rfl, Or.inr ⟨rfl, Bool.eq_false_iff.mpr inEffect, rfl⟩⟩

/-- A converted value that is in effect is accepted, and nothing is written. -/
theorem commit_of_inEffect {store : Store} {key : String} {row : Row} {contract : Contract} {raw value : Value}
    {lenient : Bool} (converted : contract.coerce key row raw lenient = .ok value)
    (inEffect : store.isInEffect key row contract value = true) :
    store.commit key row contract raw lenient = .ok (⟨value, false⟩, store) := by
  simp only [commit, converted, bind, Except.bind, inEffect, if_true]

/-- A converted value that is not in effect is written. -/
theorem commit_of_not_inEffect {store : Store} {key : String} {row : Row} {contract : Contract} {raw value : Value}
    {lenient : Bool} (converted : contract.coerce key row raw lenient = .ok value)
    (differs : store.isInEffect key row contract value = false) :
    store.commit key row contract raw lenient =
      .ok (⟨value, true⟩, { store with edits := Mapping.insert key value store.edits }) := by
  simp only [commit, converted, bind, Except.bind, differs, Bool.false_eq_true, if_false]

/-- An accepted commit touches at most one key of the edits, and no other layer. -/
theorem commit_frame {store after : Store} {key : String} {row : Row} {contract : Contract}
    {raw : Value} {lenient : Bool} {committed : Committed}
    (stored : store.commit key row contract raw lenient = .ok (committed, after)) :
    after = { store with edits := after.edits } ∧
      ∀ other, other ≠ key → Mapping.get? other after.edits = Mapping.get? other store.edits := by
  obtain ⟨-, ⟨-, -, rfl⟩ | ⟨-, -, rfl⟩⟩ := commit_cases stored
  · exact ⟨rfl, fun _ _ => rfl⟩
  · exact ⟨rfl, fun other different => Mapping.get?_insert_of_ne key other _ _ different⟩

/-! ## Reading the layers -/

/-- A key is looked up in the edits, then in the input, then in the fallback. -/
theorem get?_eq (store : Store) (key : String) :
    store.get? key = ((Mapping.get? key store.edits).or (Mapping.get? key store.input)).or
      (Mapping.get? key store.fallback) := by
  rw [get?, lookup?]
  cases Mapping.get? key store.edits with
  | some value => rfl
  | none =>
    cases Mapping.get? key store.input with
    | some value => rfl
    | none => cases Mapping.get? key store.fallback <;> rfl

/-- The nested values under a key are those handed back last, if any were. -/
theorem nestedEffective?_mergeChild (store : Store) (key : String) (edits : Mapping) :
    (store.mergeChild key edits).nestedEffective? key =
      if edits = [] then store.nestedEffective? key else some edits := by
  cases edits with
  | nil => rfl
  | cons entry rest =>
    have written : Mapping.get? key (store.mergeChild key (entry :: rest)).edits =
        some (.mapping (entry :: rest)) := Mapping.get?_insert_self key _ _
    rw [nestedEffective?, get?_eq, written]
    rfl

/-- Merging the edits of a nested form leaves the fallback alone. -/
theorem fallback_mergeChild (store : Store) (key : String) (edits : Mapping) :
    (store.mergeChild key edits).fallback = store.fallback := by
  cases edits <;> rfl

end Store

end SettingsForm
