import SettingsForm.Proofs.Session.Steady
import SettingsForm.Proofs.Store.Effect
import SettingsForm.Proofs.Store.Indexes

/-!
# Entries for indexed keys

A row that holds a value is the pattern for the indexed keys of its identifier. A commit to such a key goes
through the pattern row, while the entries of a name are read off the layers alone. The two disagree on what
the pattern row declares: a commit takes it for the value in effect, but nobody who reads the key does. So a
commit of that value to a key that no layer holds is accepted and leaves no entry (`Withholds.declared`). The
other way for an accepted value not to become an entry is that the entry there converts to it
(`Withholds.hidden`). There is no third one (`commit_indexed`).
-/

namespace SettingsForm

namespace IndexedKey

/-- An indexed key is longer than its name, which is not empty. -/
theorem name_of_encode? {name key : String} {index : Nat} (encoded : encode? name index = some key) :
    name ≠ "" ∧ name ≠ key := by
  obtain ⟨named, written⟩ := Option.ite_none_right_eq_some.mp encoded
  obtain rfl := Option.some.inj written
  obtain ⟨start, c, ends, -⟩ := ends_of_isName named
  constructor
  · rintro rfl
    simp at ends
  · intro same
    have digits : Digits.ofNat index ≠ [] := Nat.toDigits_ne_nil
    have letters := congrArg String.toList same
    rw [String.toList_ofList, List.self_eq_append_right] at letters
    exact digits letters

end IndexedKey

namespace Store

/-- A value that is committed to an indexed key through its pattern row does not become an entry. -/
inductive Withholds (store : Store) (key : String) (row : Row) (contract : Contract) (value : Value) : Prop where
  /-- No layer holds the key, and what the pattern row declares equals the value or converts to it. -/
  | declared (absent : store.get? key = none) (counts : store.isInEffect key row contract value = true)
  /-- The entry that is there differs from the value but converts to it. -/
  | hidden (present : (store.get? key).isSome = true) (hides : store.Hides key row contract value)

/-- A commit that counts as a change has written its value. -/
theorem get?_of_changed {store after : Store} {key : String} {row : Row} {contract : Contract} {raw : Value}
    {lenient : Bool} {committed : Committed}
    (stored : store.commit key row contract raw lenient = .ok (committed, after))
    (changed : committed.changed = true) : after.get? key = some committed.value := by
  obtain ⟨-, ⟨unchanged, -, -⟩ | ⟨-, -, rfl⟩⟩ := commit_cases stored
  · rw [unchanged] at changed
    cases changed
  · rw [get?_eq, Mapping.get?_insert_self]
    rfl

/-- A commit that does not count as a change has written nothing. -/
theorem eq_of_unchanged {store after : Store} {key : String} {row : Row} {contract : Contract} {raw : Value}
    {lenient : Bool} {committed : Committed}
    (stored : store.commit key row contract raw lenient = .ok (committed, after))
    (unchanged : committed.changed = false) : after = store := by
  obtain ⟨-, ⟨-, -, same⟩ | ⟨changed, -, -⟩⟩ := commit_cases stored
  · exact same
  · rw [unchanged] at changed
    cases changed

/-- After an accepted commit some layer holds a value equal to the committed one, unless that is withheld. -/
theorem holds_iff {store after : Store} {key : String} {row : Row} {contract : Contract} {raw : Value}
    {lenient : Bool} {committed : Committed}
    (stored : store.commit key row contract raw lenient = .ok (committed, after)) :
    (∃ value, (value == committed.value) = true ∧ after.get? key = some value) ↔
      ¬ store.Withholds key row contract committed.value := by
  obtain ⟨-, ⟨-, inEffect, rfl⟩ | ⟨changed, differs, -⟩⟩ := commit_cases stored
  · cases held : after.get? key with
    | none =>
      refine iff_of_false (by simp) ?_
      exact fun kept => kept (.declared held inEffect)
    | some present =>
      have current : after.effective key row.declaredValue = present := by rw [effective, held, Option.getD_some]
      constructor
      · rintro ⟨value, equal, same⟩ (⟨absent, -⟩ | ⟨-, hides⟩)
        · rw [held] at absent
          cases absent
        · obtain rfl := Option.some.inj same
          have different := hides.different
          rw [current, equal] at different
          cases different
      · intro kept
        refine ⟨present, ?_, rfl⟩
        rw [← current, ← Bool.not_eq_false]
        exact fun different => kept (.hidden (by rw [held]; rfl) (hides_iff.mpr ⟨different, inEffect⟩))
  · refine iff_of_true ⟨committed.value, BEq.rfl, get?_of_changed stored changed⟩ ?_
    rintro (⟨-, counts⟩ | ⟨-, hides⟩)
    · rw [counts] at differs
      cases differs
    · rw [(hides_iff.mp hides).2] at differs
      cases differs

end Store

namespace Controller

open Operation

variable {σ : Type}

/-- The innermost session shows a value as the entry of a name under an index. -/
structure Enlists (c : Controller σ) (name key : String) (index : Nat) (value : Value) : Prop where
  listed : (index, value) ∈ c.indexed name
  effective : c.effective? key = some value
  /-- The next index lies above this one, unless the largest one is in use. -/
  next : ∃ session, c.top? = some session ∧ match session.store.nextIndex? name with
    | some next => index < next
    | none => ∃ last, (IndexedKey.largest, last) ∈ c.indexed name

/-- An entry is shown just if some layer holds its value. -/
theorem enlists_iff {c : Controller σ} {session : Session} (top : c.top? = some session) {key : String} {row : Row}
    {index : Nat} {value : Value} (bounded : index ≤ IndexedKey.largest)
    (encoded : IndexedKey.encode? row.identifier index = some key)
    (resolved : session.schema.resolve? key = some row) :
    c.Enlists row.identifier key index value ↔ session.store.get? key = some value := by
  have read := effective?_indexed top resolved (IndexedKey.name_of_encode? encoded).2
  have entries : c.indexed row.identifier = session.store.indexed row.identifier := by rw [indexed, top]; rfl
  constructor
  · intro enlists
    rw [← read]
    exact enlists.effective
  · intro held
    have listed : (index, value) ∈ session.store.indexed row.identifier :=
      Store.mem_indexed_iff.mpr ⟨key, encoded, bounded, held⟩
    refine ⟨entries ▸ listed, read.trans held, session, top, ?_⟩
    rw [entries]
    exact Store.beyond_of_mem_indexed listed

variable [Host σ]

/-- A value is accepted for an indexed key that no row is declared for. An entry with an equal value is there
afterwards, unless the value is withheld; it holds the value itself if that counts as a change. What does not
count as a change leaves the innermost session as it was. -/
theorem commit_indexed (steady : Host.Steady σ) {c after : Controller σ} (reachable : Reachable c) {top : Session}
    (first : c.top? = some top) {position : Position} {row : Row} (there : top.schema.rowAt? position = some row)
    (persisted : row.isPersisted = true) {index : Nat} (bounded : index ≤ IndexedKey.largest) {key : String}
    (encoded : IndexedKey.encode? row.identifier index = some key)
    (undeclared : ∀ position other, top.schema.rowAt? position = some other → other.identifier ≠ key)
    {raw : Value} {outcome : Outcome} (accepted : perform (commit key raw) c = (.ok outcome, after)) :
    ((∃ value, (value == outcome.value) = true ∧ after.Enlists row.identifier key index value) ↔
        ¬ top.store.Withholds key { row with identifier := key } (c.contractFor row) outcome.value) ∧
      (outcome.changed = true → after.Enlists row.identifier key index outcome.value) ∧
      (outcome.changed = false → after.top? = some top) := by
  have consistent := reachable.formed top (mem_of_top? first)
  have resolved := consistent.resolve?_indexed there persisted (IndexedKey.name_of_encode? encoded).1
    (IndexedKey.decode?_of_encode? bounded encoded) undeclared
  obtain ⟨session, declared, store, present, found, stored, stores⟩ := stored_of_commit steady accepted
  obtain rfl := Option.some.inj (first.symm.trans present)
  obtain rfl := Option.some.inj (resolved.symm.trans found)
  have last := stores.top first
  refine ⟨?_, ?_, ?_⟩
  · rw [← Store.holds_iff stored]
    simp only [enlists_iff last bounded encoded resolved]
  · intro changed
    rw [enlists_iff last bounded encoded resolved]
    exact Store.get?_of_changed stored changed
  · intro unchanged
    obtain rfl := Store.eq_of_unchanged stored unchanged
    exact last

/-- The identifiers of a person's form are those of its two rows. -/
theorem undeclared_person {root : Session} (first : personStarted.top? = some root) {position : Position}
    {row : Row} (there : root.schema.rowAt? position = some row) : row.identifier ≠ "name2" := by
  obtain rfl := Option.some.inj first
  rcases List.mem_pair.mp (Schema.mem_rows.mpr there) with held | held
  · obtain ⟨-, rfl⟩ := Prod.mk.inj held
    decide
  · obtain ⟨-, rfl⟩ := Prod.mk.inj held
    decide

/-- A second name is entered, for which the row of the first one is the pattern. -/
theorem commit_indexed_person :
    Reachable personStarted ∧ ∃ outcome after,
      perform (commit "name2" (.string "Ann")) personStarted = (.ok outcome, after) ∧
        outcome.changed = true ∧ after.Enlists "name" "name2" 2 (.string "Ann") := by
  have reachable : Reachable personStarted := ⟨_, _, _, _, [], start_person, rfl⟩
  have there : personStarted.rowAt? ⟨0, 0⟩ = some (.ofPayload "Name" "name" (.string "")) := by rfl
  obtain ⟨root, first, found⟩ := Option.bind_eq_some_iff.mp there
  have accepted : ∃ after, perform (commit "name2" (.string "Ann")) personStarted =
      (.ok ⟨"name2", .string "Ann", true, false⟩, after) := ⟨_, rfl⟩
  obtain ⟨after, accepted⟩ := accepted
  have entered := commit_indexed StaticHost.steady reachable first found rfl
    (show 2 ≤ IndexedKey.largest by decide) (by rfl) (fun _ _ => undeclared_person first) accepted
  exact ⟨reachable, _, after, accepted, rfl, entered.2.1 rfl⟩

/-- The declared name is entered as a second name, which is accepted and leaves no entry. -/
theorem declared_name_withheld :
    Reachable personStarted ∧ IndexedKey.encode? "name" 2 = some "name2" ∧ ∃ outcome after,
      perform (commit "name2" (.string "")) personStarted = (.ok outcome, after) ∧
        outcome.value = .string "" ∧ after.indexed "name" = [] ∧ after.effective? "name2" = none :=
  ⟨⟨_, _, _, _, [], start_person, rfl⟩, rfl, _, _, rfl, rfl, rfl, rfl⟩

end Controller

end SettingsForm
