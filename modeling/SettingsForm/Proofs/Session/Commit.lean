import SettingsForm.Proofs.Session.Operation
import SettingsForm.Proofs.Store.Layers

/-!
# The course of a commit

A commit looks up the row, converts the value and writes it, then tells the host and lets it refresh the
schema. `CommitRun` lists the ways in which that can end, each with its result and with the controller that
it leaves; every other statement about a commit follows from these. The host is told of a write before it is
asked for a refresh, and a refresh that is refused leaves the written value and the schema in place.

Nothing is assumed of the host, the registry or the stack.
-/

namespace SettingsForm

namespace Session

/-- The session with a value stored under a key of its edits. -/
def withEdit (session : Session) (key : String) (value : Value) : Session :=
  { session with store := { session.store with edits := Mapping.insert key value session.store.edits } }

/-- What a commit to a key may do to the session: another schema, another value under that key, and the end
of the open edit. -/
structure Revised (before after : Session) (key : String) : Prop where
  frame : after = { before with
    schema := after.schema
    active := after.active
    store := { before.store with edits := after.edits } }
  edit : after.active = before.active ∨ before.editing?.isSome = true ∧ after.active = none
  others : ∀ other, other ≠ key →
    Mapping.get? other after.edits = Mapping.get? other before.edits

/-- A stored value revises the session. -/
theorem revised_of_stored {session : Session} {key : String} {row : Row} {contract : Contract}
    {raw : Value} {lenient : Bool} {committed : Committed} {store : Store}
    (stored : session.store.commit key row contract raw lenient = .ok (committed, store)) :
    session.Revised { session with store } key := by
  obtain ⟨frame, others⟩ := Store.commit_frame stored
  exact ⟨congrArg (fun store => { session with store }) frame, Or.inl rfl, others⟩

end Session

namespace Controller

open Operation

variable {σ : Type}

/-- The innermost session is the first one of the stack. -/
theorem top?_eq_some_iff {c : Controller σ} {session : Session} :
    c.top? = some session ↔ ∃ rest, c.stack.sessions = session :: rest := by
  simp [top?, Stack.top?, List.head?_eq_some_iff]

/-- The innermost session is a live one. -/
theorem mem_of_top? {c : Controller σ} {session : Session} (first : c.top? = some session) :
    session ∈ c.stack.sessions := List.mem_of_head? first

/-- Changing the innermost session replaces the first one of the stack and nothing else. -/
theorem modifyTop_of_sessions {c : Controller σ} {session : Session} {rest : List Session}
    (live : c.stack.sessions = session :: rest) (change : Session → Session) :
    c.modifyTop change = { c with stack := { c.stack with sessions := change session :: rest } } := by
  simp [modifyTop, Stack.modifyTop, live]

/-- The current session is the innermost one. -/
theorem current_of_top {c : Controller σ} {session : Session} (top : c.top? = some session) :
    c.current = .ok session := by
  simp [current, top]

/-- The innermost session holds another store. -/
def storing (c : Controller σ) (store : Store) : Controller σ :=
  c.modifyTop fun session => { session with store }

/-- What an accepted commit makes of the innermost session before any refresh: the session itself, or the
session with the converted value stored. -/
theorem storing_cases {c : Controller σ} {session : Session} {key : String} {row : Row}
    {contract : Contract} {raw : Value} {lenient : Bool} {committed : Committed} {store : Store}
    (top : c.top? = some session)
    (stored : session.store.commit key row contract raw lenient = .ok (committed, store)) :
    committed.changed = false ∧ store = session.store ∧ c.storing store = c ∨
      committed.changed = true ∧ { session with store } = session.withEdit key committed.value ∧
        c.storing store = c.modifyTop (·.withEdit key committed.value) := by
  obtain ⟨rest, live⟩ := top?_eq_some_iff.mp top
  obtain ⟨-, ⟨unchanged, -, same⟩ | ⟨changed, -, written⟩⟩ := Store.commit_cases stored
  · refine Or.inl ⟨unchanged, same, ?_⟩
    rw [storing, modifyTop_of_sessions live, same, ← live]
  · refine Or.inr ⟨changed, by rw [written, Session.withEdit], ?_⟩
    rw [storing, modifyTop_of_sessions live, modifyTop_of_sessions live, written, Session.withEdit]

/-- Dropping a stale edit ends the open edit or changes nothing. -/
theorem dropStaleEdit_cases (session : Session) :
    dropStaleEdit session = session ∨
      session.editing?.isSome = true ∧ dropStaleEdit session = session.withEditing none := by
  unfold dropStaleEdit
  cases editing : session.editing? with
  | none => exact Or.inl rfl
  | some key =>
    simp only
    split
    · exact Or.inr ⟨rfl, rfl⟩
    · exact Or.inl rfl

/-- A refresh after that revises the session, too. -/
theorem revised_of_refreshed {before after : Session} {key : String} (revised : before.Revised after key)
    (schema : Schema) : before.Revised (dropStaleEdit { after with schema }) key := by
  have replaced : { after with schema } =
      { before with schema, active := after.active, store := { before.store with edits := after.edits } } :=
    congrArg (fun session : Session => { session with schema }) revised.frame
  rcases dropStaleEdit_cases { after with schema } with kept | ⟨editing, ended⟩
  · rw [kept]
    exact ⟨replaced, revised.edit, revised.others⟩
  · rw [ended]
    refine ⟨congrArg (·.withEditing none) replaced, ?_, revised.others⟩
    rcases revised.edit with same | ⟨-, idle⟩
    · refine Or.inr ⟨?_, rfl⟩
      simpa [Session.editing?, same] using editing
    · simp [Session.editing?, idle] at editing

variable [Host σ]

/-- A writable row is the row that the innermost session's schema has for the key, renamed to the key. It is
editable, and its contract stores values. -/
theorem writableRow_cases {c : Controller σ} {key : String} {row : Row} {contract : Contract}
    (found : c.writableRow key = .ok (row, contract)) :
    ∃ session declared, c.top? = some session ∧ session.schema.resolve? key = some declared ∧
      declared.editable = true ∧ contract = c.contractFor declared ∧ contract.persisted = true ∧
      row = { declared with identifier := key } := by
  cases top : c.top? with
  | none => simp [writableRow, current, top, bind, Except.bind] at found
  | some session =>
    cases resolved : session.schema.resolve? key with
    | none => simp [writableRow, current, top, resolved, bind, Except.bind] at found
    | some declared =>
      simp only [writableRow, current, top, resolved, bind, Except.bind] at found
      by_cases editable : declared.editable = true
      · by_cases persisted : (c.contractFor declared).persisted = true
        · rw [if_neg (by simp [editable]), if_neg (by simp [persisted])] at found
          obtain ⟨rfl, rfl⟩ := Prod.mk.inj (Except.ok.inj found)
          exact ⟨session, declared, rfl, resolved, editable, rfl, persisted, rfl⟩
        · simp [editable, persisted] at found
      · simp [editable] at found

/-- A row is written to under the key that was asked for, also if the key is an indexed one. -/
theorem writableRow_identifier {c : Controller σ} {key : String} {row : Row} {contract : Contract}
    (found : c.writableRow key = .ok (row, contract)) : row.identifier = key := by
  obtain ⟨session, declared, top, resolved, editable, inForce, persisted, rfl⟩ := writableRow_cases found
  rfl

/-- A row is refused for writing without a fault of any schema. -/
theorem writableRow_error {c : Controller σ} {key : String} {error : SettingsError}
    (unwritable : c.writableRow key = .error error) (fault : SchemaError) : error ≠ .schema fault := by
  rintro rfl
  cases top : c.top? with
  | none => simp [writableRow, current, top, bind, Except.bind] at unwritable
  | some session =>
    cases resolved : session.schema.resolve? key with
    | none => simp [writableRow, current, top, resolved, bind, Except.bind] at unwritable
    | some declared =>
      simp only [writableRow, current, top, resolved, bind, Except.bind] at unwritable
      split at unwritable
      · simp at unwritable
      · split at unwritable <;> simp at unwritable

/-- The host heard that a value was written for a row. -/
def announced (c : Controller σ) (value : Value) (row : Row) : Controller σ :=
  { c.record [.rowChanged value row] with host := Host.rowChanged value row c.host }

/-- The host was asked how to refresh the schema after a change of a row. -/
def consulted (c : Controller σ) (groups : List Group) (row : Row) : Controller σ :=
  { c.record [.refreshSchema groups row] with host := (Host.refreshSchema groups row c.host).2 }

/-- What the host answers when it is asked for a refresh. -/
def advice (c : Controller σ) (groups : List Group) (row : Row) : Refresh :=
  (Host.refreshSchema groups row c.host).1

/-- The ways in which a refresh of a session's schema can end. The host is asked exactly once. -/
inductive RefreshRun (c : Controller σ) (session : Session) (row : Row) :
    Except SettingsError Bool × Controller σ → Prop where
  | declined (answer : c.advice session.schema.groups row = .unchanged) :
      RefreshRun c session row (.ok false, c.consulted session.schema.groups row)
  | accepted {schema : Schema} (answer : c.advice session.schema.groups row ≠ .unchanged)
      (valid : refreshed session.schema (c.advice session.schema.groups row) = .ok schema) :
      RefreshRun c session row (.ok true, (c.consulted session.schema.groups row).modifyTop
        fun session => dropStaleEdit { session with schema })
  | rejected {error : SchemaError}
      (invalid : refreshed session.schema (c.advice session.schema.groups row) = .error error) :
      RefreshRun c session row (.error (.schema error), c.consulted session.schema.groups row)

/-- A refresh ends in one of the listed ways. -/
theorem refreshSchema_run {c : Controller σ} {session : Session} (top : c.top? = some session)
    (row : Row) : RefreshRun c session row (perform (refreshSchema row) c) := by
  simp only [refreshSchema, perform_bind, perform_get, top, perform_ask]
  cases answer : (Host.refreshSchema session.schema.groups row c.host).1 with
  | unchanged => exact .declined answer
  | groups groups =>
    have wanted : c.advice session.schema.groups row = .groups groups := answer
    cases outcome : refreshed session.schema (.groups groups) with
    | error error =>
      simp only [outcome, perform_throw]
      exact .rejected (wanted ▸ outcome)
    | ok schema =>
      simp only [outcome, perform_bind, perform_modify, perform_pure]
      exact .accepted (by simp [wanted]) (wanted ▸ outcome)
  | rows group rows =>
    have wanted : c.advice session.schema.groups row = .rows group rows := answer
    cases outcome : refreshed session.schema (.rows group rows) with
    | error error =>
      simp only [outcome, perform_throw]
      exact .rejected (wanted ▸ outcome)
    | ok schema =>
      simp only [outcome, perform_bind, perform_modify, perform_pure]
      exact .accepted (by simp [wanted]) (wanted ▸ outcome)

/-- The ways in which a commit can end. -/
inductive CommitRun (c : Controller σ) (key : String) (raw : Value) :
    Except SettingsError Outcome × Controller σ → Prop where
  /-- There is no row to write to. -/
  | unwritable {error : SettingsError} (refused : c.writableRow key = .error error) :
      CommitRun c key raw (.error error, c)
  /-- The value does not convert. -/
  | unfit {session : Session} {row : Row} {contract : Contract} {error : CoercionError}
      (top : c.top? = some session) (found : c.writableRow key = .ok (row, contract))
      (failed : session.store.commit key row contract raw c.config.lenientStrings = .error error) :
      CommitRun c key raw (.error (.coercion error), c)
  /-- The value is in effect already, and the host does not want to hear of that. -/
  | silent {session : Session} {row : Row} {contract : Contract} {committed : Committed} {store : Store}
      (top : c.top? = some session) (found : c.writableRow key = .ok (row, contract))
      (stored : session.store.commit key row contract raw c.config.lenientStrings =
        .ok (committed, store))
      (unheard : ¬(committed.changed = true ∨ c.config.notifyUnchanged = true)) :
      CommitRun c key raw (.ok ⟨key, committed.value, committed.changed, false⟩, c.storing store)
  /-- The host heard of the value, and its answer to the question for a refresh was carried out. -/
  | heard {session : Session} {row : Row} {contract : Contract} {committed : Committed} {store : Store}
      {refreshed : Bool} {after : Controller σ}
      (top : c.top? = some session) (found : c.writableRow key = .ok (row, contract))
      (stored : session.store.commit key row contract raw c.config.lenientStrings =
        .ok (committed, store))
      (notified : committed.changed = true ∨ c.config.notifyUnchanged = true)
      (answered : RefreshRun ((c.storing store).announced committed.value row)
        { session with store } row (.ok refreshed, after)) :
      CommitRun c key raw (.ok ⟨key, committed.value, committed.changed, refreshed⟩, after)
  /-- The host heard of the value and wanted a schema that is not valid. -/
  | rejected {session : Session} {row : Row} {contract : Contract} {committed : Committed} {store : Store}
      {error : SettingsError} {after : Controller σ}
      (top : c.top? = some session) (found : c.writableRow key = .ok (row, contract))
      (stored : session.store.commit key row contract raw c.config.lenientStrings =
        .ok (committed, store))
      (notified : committed.changed = true ∨ c.config.notifyUnchanged = true)
      (answered : RefreshRun ((c.storing store).announced committed.value row)
        { session with store } row (.error error, after)) :
      CommitRun c key raw (.error error, after)

/-- A commit ends in one of the listed ways. -/
theorem commit_run (c : Controller σ) (key : String) (raw : Value) :
    CommitRun c key raw (perform (commit key raw) c) := by
  cases found : c.writableRow key with
  | error error =>
    rw [commit, perform_query_error found]
    exact .unwritable found
  | ok writable =>
    obtain ⟨row, contract⟩ := writable
    obtain ⟨session, -, top, -⟩ := writableRow_cases found
    have live : c.current = .ok session := current_of_top top
    rw [commit, perform_query_ok found]
    simp only [perform_query_ok live, perform_get_bind]
    cases stored : session.store.commit key row contract raw c.config.lenientStrings with
    | error error => exact .unfit top found stored
    | ok written =>
      obtain ⟨committed, store⟩ := written
      simp only [perform_bind_ok (perform_modify _ _), perform_get_bind]
      by_cases notified : committed.changed = true ∨ c.config.notifyUnchanged = true
      · have topAfter : ((c.storing store).announced committed.value row).top? =
            some { session with store } := by
          obtain ⟨rest, sessions⟩ := top?_eq_some_iff.mp top
          rw [storing, modifyTop_of_sessions sessions]
          rfl
        have answered := refreshSchema_run topAfter row
        rw [if_pos (by exact notified)]
        cases course : perform (refreshSchema row) ((c.storing store).announced committed.value row) with
        | mk result after =>
          rw [course] at answered
          cases result with
          | ok refreshed =>
            rw [perform_bind_ok (perform_tell _ _ _), perform_bind_ok (by exact course), perform_pure]
            exact .heard top found stored notified answered
          | error error =>
            rw [perform_bind_ok (perform_tell _ _ _), perform_bind_error (by exact course)]
            exact .rejected top found stored notified answered
      · rw [if_neg (by exact notified)]
        exact .silent top found stored notified

/-- The host hears of the value and is then asked for a refresh, whatever it answers. -/
theorem calls_of_answered {c : Controller σ} {store : Store} {value : Value} {row : Row}
    {session : Session} {ended : Except SettingsError Bool × Controller σ}
    (answered : RefreshRun ((c.storing store).announced value row) session row ended) :
    ended.2.calls = c.calls ++ [.rowChanged value row, .refreshSchema session.schema.groups row] := by
  cases answered <;> simp [consulted, announced, storing, modifyTop, record]

/-- A refresh that is not refused revises the innermost session. -/
theorem revised_of_answered {c after : Controller σ} {session : Session} {key : String} {store : Store}
    {value : Value} {row : Row} {refreshed : Bool} (top : c.top? = some session)
    (stored : session.Revised { session with store } key)
    (answered : RefreshRun ((c.storing store).announced value row) { session with store } row
      (.ok refreshed, after)) :
    ∃ revised, after.stack = c.stack.modifyTop (fun _ => revised) ∧ session.Revised revised key := by
  obtain ⟨rest, live⟩ := top?_eq_some_iff.mp top
  cases answered with
  | declined answer =>
    refine ⟨{ session with store }, ?_, stored⟩
    simp [consulted, announced, storing, modifyTop, record, Stack.modifyTop, live]
  | @accepted schema answer valid =>
    refine ⟨dropStaleEdit { session with store, schema }, ?_, revised_of_refreshed stored schema⟩
    simp [consulted, announced, storing, modifyTop, record, Stack.modifyTop, live]

/-- Each way for a commit to end has its own effect.

A failure that is not about a schema leaves the controller as it was, the host and the record of calls
included. A failure about a schema comes after exactly one notice and one question for a refresh, and the
innermost session may at most have gained the converted value under the key. A success puts the same two
calls, if any, and changes at most the schema, the open edit and the edits under the key of the innermost
session. -/
theorem commit_protocol (c : Controller σ) (key : String) (raw : Value) :
    match perform (commit key raw) c with
    | (.error (.schema _), after) =>
      ∃ session row contract value, c.top? = some session ∧
        c.writableRow key = .ok (row, contract) ∧ row.identifier = key ∧
        contract.coerce key row raw c.config.lenientStrings = .ok value ∧
        after.calls =
          c.calls ++ [.rowChanged value row, .refreshSchema session.schema.groups row] ∧
        (after.stack = c.stack ∨ after.stack = c.stack.modifyTop (·.withEdit key value))
    | (.error _, after) => after = c
    | (.ok outcome, after) =>
      ∃ session row contract, c.top? = some session ∧
        c.writableRow key = .ok (row, contract) ∧ row.identifier = key ∧
        contract.coerce key row raw c.config.lenientStrings = .ok outcome.value ∧
        after.calls = c.calls ++ (if outcome.changed = true ∨ c.config.notifyUnchanged = true then
          [.rowChanged outcome.value row, .refreshSchema session.schema.groups row] else []) ∧
        ∃ revised, after.stack = c.stack.modifyTop (fun _ => revised) ∧
          session.Revised revised key := by
  have run := commit_run c key raw
  generalize perform (commit key raw) c = ended at run ⊢
  cases run with
  | @unwritable error refused =>
    cases error with
    | schema fault => exact absurd rfl (writableRow_error refused fault)
    | _ => rfl
  | unfit top found failed => rfl
  | @silent session row contract committed store top found stored unheard =>
    obtain ⟨rest, live⟩ := top?_eq_some_iff.mp top
    refine ⟨session, row, contract, top, found, writableRow_identifier found,
      (Store.commit_cases stored).1, ?_, { session with store }, ?_, Session.revised_of_stored stored⟩
    · rw [if_neg unheard, List.append_nil]
      rfl
    · rw [storing, modifyTop_of_sessions live]
      simp [Stack.modifyTop, live]
  | @heard session row contract committed store refreshed after top found stored notified answered =>
    refine ⟨session, row, contract, top, found, writableRow_identifier found,
      (Store.commit_cases stored).1, ?_, ?_⟩
    · rw [if_pos notified]
      exact calls_of_answered answered
    · exact revised_of_answered top (Session.revised_of_stored stored) answered
  | @rejected session row contract committed store error after top found stored notified answered =>
    have calls := calls_of_answered answered
    cases answered with
    | @rejected fault invalid =>
      refine ⟨session, row, contract, committed.value, top, found, writableRow_identifier found,
        (Store.commit_cases stored).1, calls, ?_⟩
      rcases storing_cases top stored with ⟨-, -, same⟩ | ⟨-, -, written⟩
      · have kept : (c.storing store).stack = c.stack := congrArg Controller.stack same
        exact Or.inl kept
      · have edited : (c.storing store).stack =
            c.stack.modifyTop (·.withEdit key committed.value) := congrArg Controller.stack written
        exact Or.inr edited

end Controller

end SettingsForm
