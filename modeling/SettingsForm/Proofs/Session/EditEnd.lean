import SettingsForm.Proofs.Session.Request
import SettingsForm.Proofs.Session.Commit

/-!
# The end of an edit

To commit an edit is to commit a value to its key and to end it then. A value that cannot be written there, or
that does not convert, changes nothing, and the edit stays open. A value that is taken ends the edit, with one
exception: the host hears of the value, and if it wants a schema that is refused then, the operation fails at
that point. The value stays, and so does the edit, which nothing has ended (`commitEdit_ends`).
-/

namespace SettingsForm

namespace Store

/-- A store took a value for a key. It was in effect, and the store is as it was, or the edits hold it under the
key from now on. -/
def Took (store after : Store) (key : String) (row : Row) (contract : Contract) (value : Value) : Prop :=
  store.isInEffect key row contract value = true ∧ after = store ∨
    store.isInEffect key row contract value = false ∧
      after = { store with edits := Mapping.insert key value store.edits }

/-- An accepted commit takes the value that it returns, and a value counts as changed if it was not in effect. -/
theorem took_of_commit {store after : Store} {key : String} {row : Row} {contract : Contract} {raw : Value}
    {lenient : Bool} {committed : Committed}
    (stored : store.commit key row contract raw lenient = .ok (committed, after)) :
    store.Took after key row contract committed.value ∧
      (committed.changed = true ↔ store.isInEffect key row contract committed.value = false) := by
  obtain ⟨-, ⟨unchanged, inEffect, same⟩ | ⟨changed, differs, written⟩⟩ := commit_cases stored
  · exact ⟨Or.inl ⟨inEffect, same⟩, by simp [unchanged, inEffect]⟩
  · exact ⟨Or.inr ⟨differs, written⟩, by simp [changed, differs]⟩

/-- A commit fails only if the value does not convert. -/
theorem coerce_of_commit_error {store : Store} {key : String} {row : Row} {contract : Contract} {raw : Value}
    {lenient : Bool} {error : CoercionError} (failed : store.commit key row contract raw lenient = .error error) :
    contract.coerce key row raw lenient = .error error := by
  cases converted : contract.coerce key row raw lenient with
  | error unfit =>
    simp only [commit, converted, bind, Except.bind] at failed
    obtain rfl := Except.error.inj failed
    rfl
  | ok value =>
    cases counts : store.isInEffect key row contract value with
    | true =>
      rw [commit_of_inEffect converted counts] at failed
      cases failed
    | false =>
      rw [commit_of_not_inEffect converted counts] at failed
      cases failed

end Store

namespace Controller

open Operation

variable {σ : Type}

/-- If only the innermost session was revised, it is the one that it was revised to. -/
theorem top?_of_revised {c after : Controller σ} {session revised : Session} (top : c.top? = some session)
    (stack : after.stack = c.stack.modifyTop fun _ => revised) : after.top? = some revised := by
  obtain ⟨rest, live⟩ := top?_eq_some_iff.mp top
  simp [top?, stack, Stack.top?, Stack.modifyTop, live]

/-- Storing values puts another store into the innermost session and changes nothing else of the stack. -/
theorem stack_storing {c : Controller σ} {session : Session} (top : c.top? = some session) (store : Store) :
    (c.storing store).stack = c.stack.modifyTop fun _ => { session with store } := by
  obtain ⟨rest, live⟩ := top?_eq_some_iff.mp top
  simp [storing, modifyTop, Stack.modifyTop, live]

/-- The edit of a form is that of its innermost session. -/
theorem editing?_of_top {c : Controller σ} {session : Session} (top : c.top? = some session) :
    c.editing? = session.editing? := by
  rw [editing?, top, Option.bind_some]

/-- The edit stays open if the session that replaces the innermost one has the same edit. -/
theorem editing?_of_revised {c after : Controller σ} {session revised : Session} (top : c.top? = some session)
    (stack : after.stack = c.stack.modifyTop fun _ => revised) (same : revised.editing? = session.editing?) :
    after.editing? = c.editing? := by
  rw [editing?_of_top (top?_of_revised top stack), editing?_of_top top, same]

/-- Dropping a stale edit leaves no edit open, or the one that was. -/
theorem editing?_dropStaleEdit (session : Session) :
    (dropStaleEdit session).editing? = none ∨ (dropStaleEdit session).editing? = session.editing? := by
  rcases dropStaleEdit_cases session with kept | ⟨-, ended⟩
  · exact Or.inr (congrArg Session.editing? kept)
  · exact Or.inl (congrArg Session.editing? ended)

variable [Host σ]

/-- What a commit takes for a key: the value that the contract of the row written through makes of what is
committed, if there is such a row and the value converts. -/
def taken? (c : Controller σ) (key : String) (raw : Value) : Option Value :=
  match c.writableRow key with
  | .ok (row, contract) => (contract.coerce key row raw c.config.lenientStrings).toOption
  | .error _ => none

/-- The innermost session took a value for a key. The other sessions are as they were. -/
def Took (c after : Controller σ) (key : String) (value : Value) : Prop :=
  ∃ session revised row contract, c.top? = some session ∧ c.writableRow key = .ok (row, contract) ∧
    after.stack = c.stack.modifyTop (fun _ => revised) ∧ session.store.Took revised.store key row contract value

/-- The host hears of a value for a key, and the schema that it wants then is refused. -/
def Refuses (c : Controller σ) (key : String) (value : Value) (fault : SchemaError) : Prop :=
  ∃ session row contract, c.top? = some session ∧ c.writableRow key = .ok (row, contract) ∧
    (session.store.isInEffect key row contract value = false ∨ c.config.notifyUnchanged = true) ∧
    refreshed session.schema
        (Host.refreshSchema session.schema.groups row (Host.rowChanged value row c.host)).1 = .error fault

/-- What a found row takes a raw value for is what its contract coerces the value to. -/
theorem taken?_of_found {c : Controller σ} {key : String} {raw : Value} {row : Row} {contract : Contract}
    (found : c.writableRow key = .ok (row, contract)) :
    c.taken? key raw = (contract.coerce key row raw c.config.lenientStrings).toOption := by
  rw [taken?, found]

/-- What is stored was taken. -/
theorem taken?_of_stored {c : Controller σ} {session : Session} {key : String} {raw : Value} {row : Row}
    {contract : Contract} {committed : Committed} {store : Store} (found : c.writableRow key = .ok (row, contract))
    (stored : session.store.commit key row contract raw c.config.lenientStrings = .ok (committed, store)) :
    c.taken? key raw = some committed.value := by
  rw [taken?_of_found found, (Store.commit_cases stored).1]
  rfl

/-- There is one innermost session and one row to write through, so a refusal is that of a certain answer. -/
theorem refuses_iff {c : Controller σ} {session : Session} {key : String} {row : Row} {contract : Contract}
    {value : Value} {fault : SchemaError} (top : c.top? = some session)
    (found : c.writableRow key = .ok (row, contract)) (store : Store) :
    c.Refuses key value fault ↔
      (session.store.isInEffect key row contract value = false ∨ c.config.notifyUnchanged = true) ∧
        refreshed session.schema (((c.storing store).announced value row).advice session.schema.groups row) =
          .error fault := by
  constructor
  · rintro ⟨present, written, inForce, first, again, heard, refused⟩
    obtain rfl := Option.some.inj (top.symm.trans first)
    obtain ⟨rfl, rfl⟩ := Prod.mk.inj (Except.ok.inj (found.symm.trans again))
    exact ⟨heard, refused⟩
  · rintro ⟨heard, refused⟩
    exact ⟨session, row, contract, top, found, heard, refused⟩

/-- An answer that was carried out was not refused. -/
theorem not_refused_of_answered {c after : Controller σ} {session : Session} {row : Row} {outcome : Bool}
    (answered : RefreshRun c session row (.ok outcome, after)) (fault : SchemaError) :
    refreshed session.schema (c.advice session.schema.groups row) ≠ .error fault := by
  cases answered with
  | declined answer =>
    rw [answer]
    exact nofun
  | accepted answer valid =>
    rw [valid]
    exact nofun

/-- A refresh that is not refused keeps the store, and it leaves no edit open or the one that was. -/
theorem kept_of_answered {c after : Controller σ} {session : Session} {store : Store} {value : Value} {row : Row}
    {refreshed : Bool} (top : c.top? = some session)
    (answered : RefreshRun ((c.storing store).announced value row) { session with store } row
      (.ok refreshed, after)) :
    ∃ revised, after.stack = c.stack.modifyTop (fun _ => revised) ∧ revised.store = store ∧
      (revised.editing? = none ∨ revised.editing? = session.editing?) := by
  cases answered with
  | declined answer => exact ⟨{ session with store }, stack_storing top store, rfl, Or.inr rfl⟩
  | @accepted schema answer valid =>
    refine ⟨dropStaleEdit { session with store, schema }, ?_, ?_, editing?_dropStaleEdit _⟩
    · obtain ⟨rest, live⟩ := top?_eq_some_iff.mp top
      simp [consulted, announced, storing, modifyTop, record, Stack.modifyTop, live]
    · rcases dropStaleEdit_cases { session with store, schema } with kept | ⟨-, ended⟩
      · rw [kept]
      · rw [ended]
        rfl

/-- The ways in which a commit can end, by what becomes of the value and of the open edit. -/
inductive TakenRun (c : Controller σ) (key : String) (raw : Value) :
    Except SettingsError Outcome × Controller σ → Prop where
  /-- The value is not taken, and nothing has changed. -/
  | untaken {error : SettingsError} (refused : c.taken? key raw = none) : TakenRun c key raw (.error error, c)
  /-- The value is taken. The edit may be over, if a refresh left no row for it. -/
  | kept {outcome : Outcome} {after : Controller σ} (named : outcome.key = key)
      (taken : c.taken? key raw = some outcome.value) (took : Took c after key outcome.value)
      (allowed : ∀ fault, ¬Refuses c key outcome.value fault)
      (edit : after.editing? = none ∨ after.editing? = c.editing?) : TakenRun c key raw (.ok outcome, after)
  /-- The value is taken, and the schema that the host wants then is refused. -/
  | stopped {value : Value} {fault : SchemaError} {after : Controller σ} (taken : c.taken? key raw = some value)
      (took : Took c after key value) (refuses : Refuses c key value fault)
      (edit : after.editing? = c.editing?) : TakenRun c key raw (.error (.schema fault), after)

/-- A commit ends in one of these ways. -/
theorem commit_takenRun (c : Controller σ) (key : String) (raw : Value) :
    TakenRun c key raw (perform (commit key raw) c) := by
  have run := commit_run c key raw
  generalize perform (commit key raw) c = ended at run ⊢
  cases run with
  | unwritable refused => exact .untaken (by rw [taken?, refused])
  | unfit top found failed =>
    exact .untaken (by rw [taken?_of_found found, Store.coerce_of_commit_error failed]; rfl)
  | @silent session row contract committed store top found stored unheard =>
    obtain ⟨took, differs⟩ := Store.took_of_commit stored
    have stack := stack_storing top store
    refine .kept rfl (taken?_of_stored found stored) ⟨session, _, row, contract, top, found, stack, took⟩ ?_
      (Or.inr (editing?_of_revised top stack rfl))
    intro fault refuses
    exact unheard (((refuses_iff top found store).mp refuses).1.imp_left differs.mpr)
  | @heard session row contract committed store refreshed after top found stored notified answered =>
    obtain ⟨took, -⟩ := Store.took_of_commit stored
    obtain ⟨revised, stack, same, edit⟩ := kept_of_answered top answered
    refine .kept rfl (taken?_of_stored found stored) ⟨session, revised, row, contract, top, found, stack, same ▸ took⟩
      ?_ ?_
    · intro fault refuses
      exact not_refused_of_answered answered fault ((refuses_iff top found store).mp refuses).2
    · rw [editing?_of_top (top?_of_revised top stack), editing?_of_top top]
      exact edit
  | @rejected session row contract committed store error after top found stored notified answered =>
    obtain ⟨took, differs⟩ := Store.took_of_commit stored
    cases answered with
    | rejected invalid =>
      -- The host has heard of the value and was asked, neither of which the stack shows.
      have stack : (((c.storing store).announced committed.value row).consulted session.schema.groups row).stack =
          c.stack.modifyTop fun _ => { session with store } := stack_storing top store
      have refuses := (refuses_iff top found store).mpr ⟨notified.imp_left differs.mp, invalid⟩
      exact .stopped (taken?_of_stored found stored) ⟨session, _, row, contract, top, found, stack, took⟩ refuses
        (editing?_of_revised top stack rfl)

/-- To end the edit takes nothing from the value. -/
theorem Took.endEdit {c after : Controller σ} {key : String} {value : Value} (took : Took c after key value) :
    Took c (after.modifyTop (·.withEditing none)) key value ∧
      (after.modifyTop (·.withEditing none)).editing? = none := by
  obtain ⟨session, revised, row, contract, top, found, stack, kept⟩ := took
  obtain ⟨rest, live⟩ := top?_eq_some_iff.mp top
  have ended : (after.modifyTop (·.withEditing none)).stack =
      c.stack.modifyTop fun _ => revised.withEditing none := by
    simp [modifyTop, stack, Stack.modifyTop, live]
  exact ⟨⟨session, revised.withEditing none, row, contract, top, found, ended, kept⟩,
    editing?_of_top (top?_of_revised top ended)⟩

/-- A failed commit ends the operation before the edit. -/
theorem commitEdit_error {c after : Controller σ} {key : String} (editing : c.editing? = some key) {raw : Value}
    {error : SettingsError} (failed : perform (commit key raw) c = (.error error, after)) :
    perform (commitEdit raw) c = (.error error, after) := by
  simp only [commitEdit, perform_get_bind, editing]
  rw [perform_bind_error failed]

/-- After an accepted commit the edit is ended, unless it is over already, and the value stays. -/
theorem commitEdit_ok {c after : Controller σ} {key : String} (editing : c.editing? = some key) {raw : Value}
    {outcome : Outcome} (accepted : perform (commit key raw) c = (.ok outcome, after))
    (took : Took c after key outcome.value) (edit : after.editing? = none ∨ after.editing? = c.editing?) :
    ∃ last, perform (commitEdit raw) c = (.ok outcome, last) ∧ Took c last key outcome.value ∧
      last.editing? = none := by
  simp only [commitEdit, perform_get_bind, editing]
  rw [perform_bind_ok accepted, perform_get_bind]
  by_cases still : after.editing? = some key
  · rw [if_pos still, perform_bind_ok (perform_modify _ _), perform_pure]
    exact ⟨_, rfl, took.endEdit⟩
  · rw [if_neg still, perform_pure]
    exact ⟨after, rfl, took, edit.resolve_right fun same => still (same.trans editing)⟩

/-- The end of an edit. If there is no writable row for its key, or the value does not convert, an error is
returned and nothing has changed, so the edit is still open. Otherwise the value is taken, and the edit is over
unless the host wanted a schema that is refused: then the error tells why, and the edit is still open. -/
theorem commitEdit_ends {c : Controller σ} {key : String} (editing : c.editing? = some key) (raw : Value) :
    match c.taken? key raw with
    | none => ∃ error, perform (commitEdit raw) c = (.error error, c)
    | some value => ∃ result after, perform (commitEdit raw) c = (result, after) ∧ Took c after key value ∧
        ((∃ outcome, result = .ok outcome ∧ outcome.key = key ∧ outcome.value = value) ∧
            after.editing? = none ∧ (∀ fault, ¬Refuses c key value fault) ∨
          ∃ fault, result = .error (.schema fault) ∧ after.editing? = some key ∧ Refuses c key value fault) := by
  have run := commit_takenRun c key raw
  generalize committing : perform (commit key raw) c = ended at run
  cases run with
  | untaken refused =>
    rw [refused]
    exact ⟨_, commitEdit_error editing committing⟩
  | kept named taken took allowed edit =>
    rw [taken]
    obtain ⟨last, course, stays, closed⟩ := commitEdit_ok editing committing took edit
    exact ⟨_, last, course, stays, Or.inl ⟨⟨_, rfl, named, rfl⟩, closed, allowed⟩⟩
  | stopped taken took refuses edit =>
    rw [taken]
    have course := commitEdit_error editing committing
    exact ⟨_, _, course, took, Or.inr ⟨_, rfl, edit.trans editing, refuses⟩⟩

/-- A name is edited and committed, which ends the edit. -/
theorem commitEdit_ends_person :
    (runs [.beginEdit "name"] personStarted).editing? = some "name" ∧
      ∃ outcome after, perform (commitEdit (.string "Ann")) (runs [.beginEdit "name"] personStarted) =
          (.ok outcome, after) ∧
        outcome.value = .string "Ann" ∧ after.editing? = none := by
  have editing : (runs [.beginEdit "name"] personStarted).editing? = some "name" := by rfl
  have taken : (runs [.beginEdit "name"] personStarted).taken? "name" (.string "Ann") = some (.string "Ann") := by
    rfl
  have ends := commitEdit_ends editing (.string "Ann")
  rw [taken] at ends
  obtain ⟨result, after, course, -, ⟨⟨outcome, rfl, -, same⟩, closed, -⟩ | ⟨fault, -, -, refuses⟩⟩ := ends
  · exact ⟨editing, outcome, after, course, same, closed⟩
  · obtain ⟨session, row, contract, -, -, -, refused⟩ := refuses
    cases refused

/-- A host that wants the rows of a group that there is not, whatever changes. -/
structure MisledHost where

/-- It refreshes a group that is not part of the form. -/
instance : Host MisledHost where
  initialValues host := ([], host)
  refreshSchema _ _ host := (.rows "gone" [], host)

/-- The name is stored, but the host's schema is refused, and the edit stays open. -/
theorem misled_edit_open :
    ∃ started after, start personForm MisledHost.mk .standard = .ok started ∧
      (runs [.beginEdit "name"] started).editing? = some "name" ∧
      (runs [.beginEdit "name"] started).taken? "name" (.string "Ann") = some (.string "Ann") ∧
      perform (commitEdit (.string "Ann")) (runs [.beginEdit "name"] started) =
        (.error (.schema (.unknownGroup "gone")), after) ∧
      after.effective? "name" = some (.string "Ann") ∧ after.editing? = some "name" :=
  ⟨_, _, rfl, by rfl, by rfl, by rfl, by rfl, by rfl⟩

end Controller

end SettingsForm
