import SettingsForm.Proofs.Session.Editing

/-!
# Commits without refreshes

With a host that leaves every schema alone, an accepted commit has one effect beyond telling the host: the
innermost session holds the store that the commit made of its own. So the result of a commit and what can be
read afterwards are those of the store (`commit_of_stored`, `stored_of_commit`).

The value in effect for a key is read in two ways: for the identifier of a row, what the row declares counts;
for an indexed key, what the row after which it is named declares does not.
-/

namespace SettingsForm

/-- The host leaves every schema alone. -/
def Host.Steady (σ : Type) [Host σ] : Prop :=
  ∀ (groups : List Group) (row : Row) (host : σ), (Host.refreshSchema groups row host).1 = .unchanged

/-- A host of fixed values leaves every schema alone. -/
theorem StaticHost.steady : Host.Steady StaticHost := fun _ _ _ => rfl

namespace Schema

/-- The identifier of a row that holds a value resolves to that row. -/
theorem Consistent.resolve?_persisted {schema : Schema} (consistent : schema.Consistent) {position : Position}
    {row : Row} (there : schema.rowAt? position = some row) (persisted : row.isPersisted = true)
    (named : row.identifier ≠ "") : schema.resolve? row.identifier = some row := by
  rw [resolve?, (consistent.dependable.found position row there persisted named).2, Option.some_or]

/-- An indexed key that no row is declared for resolves to the row with its name. -/
theorem Consistent.resolve?_indexed {schema : Schema} (consistent : schema.Consistent) {position : Position}
    {row : Row} (there : schema.rowAt? position = some row) (persisted : row.isPersisted = true)
    (named : row.identifier ≠ "") {key : String} {index : Nat}
    (decoded : IndexedKey.decode? key = some ⟨row.identifier, index⟩)
    (undeclared : ∀ position other, schema.rowAt? position = some other → other.identifier ≠ key) :
    schema.resolve? key = some row := by
  have rowless : schema.rowFor? key = none := by
    cases found : schema.rowFor? key with
    | none => rfl
    | some other =>
      obtain ⟨place, -, present, bears⟩ := consistent.rowFor?_cases found
      exact absurd bears (undeclared place other present)
  have looked := (consistent.dependable.found position row there persisted named).2
  simp [resolve?, rowless, decoded, looked, persisted]

end Schema

namespace Controller

open Operation

variable {σ : Type}

/-- What a row declares counts for its own identifier. -/
theorem effective?_declared {c : Controller σ} {session : Session} (top : c.top? = some session) {row : Row}
    (resolved : session.schema.resolve? row.identifier = some row) :
    c.effective? row.identifier = some (session.store.effective row.identifier row.declaredValue) := by
  simp [effective?, top, resolved]

/-- For another key that resolves to the row, only the layers count. -/
theorem effective?_indexed {c : Controller σ} {session : Session} (top : c.top? = some session) {key : String}
    {row : Row} (resolved : session.schema.resolve? key = some row) (other : row.identifier ≠ key) :
    c.effective? key = session.store.get? key := by
  simp [effective?, top, resolved, other]

/-- The innermost session holds another store. Otherwise at most the host and the record of calls differ. -/
structure Stores (c after : Controller σ) (store : Store) : Prop where
  stack : after.stack = (c.storing store).stack
  registry : after.registry = c.registry
  config : after.config = c.config

/-- Afterwards the innermost session is the same one with the other store. -/
theorem Stores.top {c after : Controller σ} {store : Store} (stores : Stores c after store) {session : Session}
    (top : c.top? = some session) : after.top? = some { session with store } := by
  obtain ⟨rest, live⟩ := top?_eq_some_iff.mp top
  rw [top?, stores.stack, storing, modifyTop_of_sessions live]
  rfl

variable [Host σ]

/-- An editable row that a key resolves to is writable if its contract stores values. -/
theorem writableRow_of_resolve {c : Controller σ} {session : Session} (top : c.top? = some session) {key : String}
    {row : Row} (resolved : session.schema.resolve? key = some row) (editable : row.editable = true)
    (persisted : (c.contractFor row).persisted = true) :
    c.writableRow key = .ok ({ row with identifier := key }, c.contractFor row) := by
  simp [writableRow, current_of_top top, bind, Except.bind, resolved, editable, persisted]

/-- A host that leaves schemas alone declines every refresh. -/
theorem declined_of_steady (steady : Host.Steady σ) {c after : Controller σ} {session : Session} {row : Row}
    {result : Except SettingsError Bool} (run : RefreshRun c session row (result, after)) :
    result = .ok false ∧ after = c.consulted session.schema.groups row := by
  cases run with
  | declined answer => exact ⟨rfl, rfl⟩
  | accepted answer valid => exact absurd (steady _ _ _) answer
  | rejected invalid =>
    rw [advice, steady] at invalid
    cases invalid

/-- A value that can be stored is committed, and the innermost session holds the store then. -/
theorem commit_of_stored (steady : Host.Steady σ) {c : Controller σ} {session : Session} {key : String} {row : Row}
    {contract : Contract} {raw : Value} {committed : Committed} {store : Store} (top : c.top? = some session)
    (found : c.writableRow key = .ok (row, contract))
    (stored : session.store.commit key row contract raw c.config.lenientStrings = .ok (committed, store)) :
    ∃ after, perform (commit key raw) c = (.ok ⟨key, committed.value, committed.changed, false⟩, after) ∧
      Stores c after store := by
  have run := commit_run c key raw
  have same {present : Session} {written : Row} {inForce : Contract} {made : Committed} {kept : Store}
      (first : c.top? = some present) (again : c.writableRow key = .ok (written, inForce))
      (also : present.store.commit key written inForce raw c.config.lenientStrings = .ok (made, kept)) :
      made = committed ∧ kept = store := by
    obtain rfl := Option.some.inj (top.symm.trans first)
    obtain ⟨rfl, rfl⟩ := Prod.mk.inj (Except.ok.inj (found.symm.trans again))
    obtain ⟨rfl, rfl⟩ := Prod.mk.inj (Except.ok.inj (stored.symm.trans also))
    exact ⟨rfl, rfl⟩
  generalize perform (commit key raw) c = ended at run ⊢
  cases run with
  | unwritable refused =>
    rw [found] at refused
    cases refused
  | unfit first again failed =>
    obtain rfl := Option.some.inj (top.symm.trans first)
    obtain ⟨rfl, rfl⟩ := Prod.mk.inj (Except.ok.inj (found.symm.trans again))
    rw [stored] at failed
    cases failed
  | silent first again also unheard =>
    obtain ⟨rfl, rfl⟩ := same first again also
    exact ⟨_, rfl, rfl, rfl, rfl⟩
  | heard first again also notified answered =>
    obtain ⟨rfl, rfl⟩ := same first again also
    obtain ⟨declined, rfl⟩ := declined_of_steady steady answered
    obtain rfl := Except.ok.inj declined
    exact ⟨_, rfl, rfl, rfl, rfl⟩
  | rejected first again also notified answered =>
    obtain ⟨declined, -⟩ := declined_of_steady steady answered
    cases declined

/-- Whatever is committed was stored for the row that the key resolves to. -/
theorem stored_of_commit (steady : Host.Steady σ) {c after : Controller σ} {key : String} {raw : Value}
    {outcome : Outcome} (accepted : perform (commit key raw) c = (.ok outcome, after)) :
    ∃ session row store, c.top? = some session ∧ session.schema.resolve? key = some row ∧
      session.store.commit key { row with identifier := key } (c.contractFor row) raw c.config.lenientStrings =
        .ok (⟨outcome.value, outcome.changed⟩, store) ∧ Stores c after store := by
  have run := commit_run c key raw
  have reached {session : Session} {row : Row} {contract : Contract} {committed : Committed} {store : Store}
      (top : c.top? = some session) (found : c.writableRow key = .ok (row, contract))
      (stored : session.store.commit key row contract raw c.config.lenientStrings = .ok (committed, store)) :
      ∃ session row store, c.top? = some session ∧ session.schema.resolve? key = some row ∧
        session.store.commit key { row with identifier := key } (c.contractFor row) raw c.config.lenientStrings =
          .ok (⟨outcome.value, outcome.changed⟩, store) ∧ Stores c after store := by
    obtain ⟨present, declared, first, resolved, -, rfl, -, rfl⟩ := writableRow_cases found
    obtain rfl := Option.some.inj (top.symm.trans first)
    obtain ⟨last, committing, stores⟩ := commit_of_stored steady top found stored
    obtain ⟨same, rfl⟩ := Prod.mk.inj (accepted.symm.trans committing)
    obtain rfl := Except.ok.inj same
    exact ⟨_, _, _, first, resolved, stored, stores⟩
  rw [accepted] at run
  cases run with
  | silent top found stored unheard => exact reached top found stored
  | heard top found stored notified answered => exact reached top found stored

end Controller

end SettingsForm
