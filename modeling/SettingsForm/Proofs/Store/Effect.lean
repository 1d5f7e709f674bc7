import SettingsForm.Proofs.Contract.Conversion
import SettingsForm.Proofs.Store.Layers

/-!
# Which committed values are in effect

A commit returns the converted value as the one in effect from now on. So it is if the commit wrote it. A
commit that writes nothing leaves the value in effect as it was, and that may be another value which hides
the committed one by converting to it, as the text "42" hides the number 42 in a row of integers. This is
the only way in which a committed value is not in effect (`Effect.inEffect`). What a built-in contract has
converted hides nothing (`Effect.builtin`), so values of the host do, and those that were committed do not.
-/

namespace SettingsForm

namespace Store

/-- The value in effect for a key is not the given value, but converts to it. -/
structure Hides (store : Store) (key : String) (row : Row) (contract : Contract) (value : Value) : Prop where
  different : (store.effective key row.declaredValue == value) = false
  converts : ∃ converted, contract.coerce key row (store.effective key row.declaredValue) true = .ok converted ∧
    (converted == value) = true

/-- What a commit that led from one store to another brought into effect. -/
structure Effect (store after : Store) (key : String) (row : Row) (contract : Contract) (committed : Committed) :
    Prop where
  /-- A value equal to the committed one, unless the value in effect before hides that. -/
  inEffect : (after.effective key row.declaredValue == committed.value) = true ↔
    ¬ store.Hides key row contract committed.value
  /-- Nothing, if the value in effect before hides the committed one. -/
  hidden : store.Hides key row contract committed.value → committed.changed = false ∧ after = store
  /-- The committed value itself, if it counts as a change. -/
  written : committed.changed = true → after.effective key row.declaredValue = committed.value
  /-- A value equal to the committed one, if a built-in contract has converted the value in effect before. -/
  builtin : ∀ type raw lenient, contract = .builtin type →
    contract.coerce key row raw lenient = .ok (store.effective key row.declaredValue) →
      (after.effective key row.declaredValue == committed.value) = true

/-- What is written under a key is in effect for it. -/
theorem effective_write (store : Store) (key : String) (value declared : Value) :
    effective { store with edits := Mapping.insert key value store.edits } key declared = value := by
  rw [effective, get?_eq, Mapping.get?_insert_self]
  rfl

/-- A value is hidden just if it counts as the one in effect without being equal to it. -/
theorem hides_iff {store : Store} {key : String} {row : Row} {contract : Contract} {value : Value} :
    store.Hides key row contract value ↔ (store.effective key row.declaredValue == value) = false ∧
      store.isInEffect key row contract value = true := by
  rw [isInEffect_iff]
  constructor
  · rintro ⟨different, converts⟩
    exact ⟨different, Or.inr converts⟩
  · rintro ⟨different, equal | converts⟩
    · rw [different] at equal
      cases equal
    · exact ⟨different, converts⟩

/-- A value that a built-in contract has converted hides no other. -/
theorem not_hides_of_converted {store : Store} {key : String} {row : Row} {type : RowType}
    {raw value : Value} {lenient : Bool}
    (current : (Contract.builtin type).coerce key row raw lenient = .ok (store.effective key row.declaredValue)) :
    ¬ store.Hides key row (.builtin type) value := by
  rintro ⟨different, converted, again, equal⟩
  have same := BEq.trans (BEq.symm (Contract.coerce_again current again)) equal
  rw [different] at same
  cases same

/-- An accepted commit brings its value into effect, unless the value in effect before hides it. -/
theorem commit_effect {store after : Store} {key : String} {row : Row} {contract : Contract} {raw : Value}
    {lenient : Bool} {committed : Committed}
    (stored : store.commit key row contract raw lenient = .ok (committed, after)) :
    Effect store after key row contract committed := by
  have inEffect : (after.effective key row.declaredValue == committed.value) = true ↔
      ¬ store.Hides key row contract committed.value := by
    rw [hides_iff]
    obtain ⟨-, ⟨-, same, rfl⟩ | ⟨-, changed, rfl⟩⟩ := commit_cases stored
    · simp [same]
    · simp [changed, effective_write]
  refine ⟨inEffect, ?_, ?_, ?_⟩
  · intro hides
    obtain ⟨-, ⟨unchanged, -, rfl⟩ | ⟨-, changed, -⟩⟩ := commit_cases stored
    · exact ⟨unchanged, rfl⟩
    · rw [(hides_iff.mp hides).2] at changed
      cases changed
  · intro writes
    obtain ⟨-, ⟨unchanged, -, -⟩ | ⟨-, -, rfl⟩⟩ := commit_cases stored
    · rw [unchanged] at writes
      cases writes
    · exact effective_write store key committed.value _
  · rintro type raw lenient rfl current
    exact inEffect.mpr (not_hides_of_converted current)

/-- An age that the host supplies as a text. -/
def textAge : Store := .ofValues [("age", .string "42")] []

/-- Another age is committed, and is in effect. -/
theorem commit_effect_age :
    ∃ after, textAge.commit "age" (.ofInteger "Age" "age" 0) (.builtin .integer) (.string "43") true =
        .ok (⟨.number (.ofInt64 43), true⟩, after) ∧
      after.effective "age" (.number (.ofInt64 0)) = .number (.ofInt64 43) := by
  have stored : textAge.commit "age" (.ofInteger "Age" "age" 0) (.builtin .integer) (.string "43") true =
      .ok (⟨.number (.ofInt64 43), true⟩, { textAge with edits := [("age", .number (.ofInt64 43))] }) := by rfl
  exact ⟨_, stored, (commit_effect stored).written rfl⟩

/-- The age itself is committed as a number, but the text stays in effect. -/
theorem text_hides_age :
    textAge.commit "age" (.ofInteger "Age" "age" 0) (.builtin .integer) (.number (.ofInt64 42)) true =
        .ok (⟨.number (.ofInt64 42), false⟩, textAge) ∧
      (textAge.effective "age" (.number (.ofInt64 0)) == .number (.ofInt64 42)) = false :=
  ⟨by rfl, by rfl⟩

end Store

end SettingsForm
