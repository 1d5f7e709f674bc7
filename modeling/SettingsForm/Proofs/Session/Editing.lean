import SettingsForm.Proofs.Session.Forms

/-!
# The open edit and its row

A session remembers an open edit by its key, not by a row, while the host may replace rows and groups at
every change. Yet the edit never outlives its row: an edit is opened for a key that resolves to a row, an
accepted refresh ends the edit if the key no longer does (`dropStaleEdit`), and a refused one leaves the
form as it was. So in every live session the key of the open edit resolves (`Session.Anchored`), either to a
row declared for it or to the row after which it is indexed (`Schema.Names`).

Opening a session ends the edit of its parent, and only the innermost session may open one.
-/

namespace SettingsForm

namespace Schema

/-- The row for which a key stands in a schema. -/
inductive Names (schema : Schema) (key : String) (row : Row) : Prop where
  /-- The row is declared for the key. -/
  | declared {position : Position} (found : schema.positionOf? key = some position)
      (there : schema.rowAt? position = some row) (bears : row.identifier = key)
  /-- The key is an indexed one that no row is declared for, and the row holds values under its name. -/
  | indexed {position : Position} {parts : IndexedKey} (undeclared : schema.positionOf? key = none)
      (decoded : IndexedKey.decode? key = some parts) (found : schema.positionOf? parts.name = some position)
      (there : schema.rowAt? position = some row) (bears : row.identifier = parts.name)
      (persisted : row.isPersisted = true)

/-- An identifier that is found is that of the row found. -/
theorem Consistent.rowFor?_cases {schema : Schema} (consistent : schema.Consistent) {identifier : String}
    {row : Row} (found : schema.rowFor? identifier = some row) :
    ∃ position, schema.positionOf? identifier = some position ∧ schema.rowAt? position = some row ∧
      row.identifier = identifier := by
  obtain ⟨position, place, there⟩ := Option.bind_eq_some_iff.mp found
  obtain ⟨-, other, also, bears⟩ := consistent.positionOf?_sound place
  obtain rfl := Option.some.inj (also.symm.trans there)
  exact ⟨position, place, there, bears⟩

/-- Nothing but a row stands at a position that is found, so what has no row has no position. -/
theorem Consistent.positionOf?_of_rowFor? {schema : Schema} (consistent : schema.Consistent)
    {identifier : String} (rowless : schema.rowFor? identifier = none) :
    schema.positionOf? identifier = none := by
  rw [Option.eq_none_iff_forall_ne_some]
  intro position place
  obtain ⟨-, row, there, -⟩ := consistent.positionOf?_sound place
  rw [rowFor?, place, Option.bind_some, there] at rowless
  cases rowless

/-- A key resolves to the row for which it stands. -/
theorem Consistent.names_of_resolve {schema : Schema} (consistent : schema.Consistent) {key : String}
    {row : Row} (resolved : schema.resolve? key = some row) : schema.Names key row := by
  rcases Option.or_eq_some_iff.mp resolved with found | ⟨undeclared, template⟩
  · obtain ⟨position, place, there, bears⟩ := consistent.rowFor?_cases found
    exact .declared place there bears
  · obtain ⟨parts, decoded, further⟩ := Option.bind_eq_some_iff.mp template
    obtain ⟨other, found, kept⟩ := Option.bind_eq_some_iff.mp further
    obtain ⟨persisted, same⟩ := Option.ite_none_right_eq_some.mp kept
    obtain rfl := Option.some.inj same
    obtain ⟨position, place, there, bears⟩ := consistent.rowFor?_cases found
    exact .indexed (consistent.positionOf?_of_rowFor? undeclared) decoded place there bears persisted

/-- The empty key stands for no row. -/
theorem Consistent.resolve?_ne_empty {schema : Schema} (consistent : schema.Consistent) {key : String}
    (resolved : (schema.resolve? key).isSome = true) : key ≠ "" := by
  rintro rfl
  obtain ⟨row, resolved⟩ := Option.isSome_iff_exists.mp resolved
  cases consistent.names_of_resolve resolved with
  | declared found there bears => exact (consistent.positionOf?_sound found).1 rfl
  | indexed undeclared decoded found there bears persisted => cases decoded

end Schema

namespace Session

/-- The key of the open edit, if there is one, resolves to a row. -/
def Anchored (session : Session) : Prop :=
  ∀ key, session.editing? = some key → (session.schema.resolve? key).isSome = true

/-- Without an open edit there is nothing to resolve. -/
theorem anchored_of_idle {session : Session} (idle : session.editing? = none) : session.Anchored := by
  intro key editing
  rw [idle] at editing
  cases editing

end Session

/-- Every live session is anchored. -/
def Stack.Anchored (stack : Stack) : Prop := ∀ session ∈ stack.sessions, session.Anchored

/-- The innermost session is anchored, and so are the others. -/
theorem Stack.Anchored.split {stack : Stack} (anchored : stack.Anchored) {top : Session}
    {rest : List Session} (live : stack.sessions = top :: rest) :
    top.Anchored ∧ ∀ session ∈ rest, session.Anchored := by
  rw [Stack.Anchored, live] at anchored
  exact List.forall_mem_cons.mp anchored

namespace Controller

open Operation

variable {σ : Type} [Host σ]

/-- Whatever schema a session is given, dropping a stale edit anchors it. -/
theorem anchored_dropStaleEdit (session : Session) : (dropStaleEdit session).Anchored := by
  unfold dropStaleEdit
  cases editing : session.editing? with
  | none => exact Session.anchored_of_idle editing
  | some key =>
    simp only
    split
    · exact Session.anchored_of_idle rfl
    · rename_i resolved
      intro other open_
      obtain rfl := Option.some.inj (editing.symm.trans open_)
      rwa [Bool.not_eq_true, Option.isNone_eq_false_iff] at resolved

/-- Every move keeps all live sessions anchored. -/
theorem Move.anchored {c after : Controller σ} {events : List Event} (move : Move c events after)
    (anchored : c.stack.Anchored) : after.stack.Anchored := by
  cases move with
  | asked | repeated | hostReplaced | registryReplaced => exact anchored
  | @edited top rest live key named =>
    rw [modifyTop_of_sessions live]
    refine List.forall_mem_cons.mpr ⟨?_, (anchored.split live).2⟩
    cases key with
    | none => exact Session.anchored_of_idle rfl
    | some key =>
      intro open_ editing
      obtain rfl := Option.some.inj editing
      exact named key rfl
  | @written top key row contract raw committed store first found stored changed =>
    obtain ⟨rest, live⟩ := top?_eq_some_iff.mp first
    obtain ⟨own, others⟩ := anchored.split live
    rw [storing, modifyTop_of_sessions live]
    exact List.forall_mem_cons.mpr ⟨own, others⟩
  | @refreshed top row schema first answer valid =>
    obtain ⟨rest, live⟩ := top?_eq_some_iff.mp first
    rw [modifyTop_of_sessions (c := c.consulted top.schema.groups row) live]
    exact List.forall_mem_cons.mpr ⟨anchored_dropStaleEdit _, (anchored.split live).2⟩
  | opened input fallback asked live found recurses built room =>
    -- The new session has no edit yet, and its parent has given up its own.
    exact List.forall_mem_cons.mpr ⟨Session.anchored_of_idle rfl,
      List.forall_mem_cons.mpr ⟨Session.anchored_of_idle rfl, (anchored.split live).2⟩⟩
  | finished live => exact List.forall_mem_nil _
  | merged live opened named =>
    have parents := (anchored.split live).2
    exact List.forall_mem_cons.mpr ⟨Session.anchored_of_idle rfl, (List.forall_mem_cons.mp parents).2⟩

/-- In every reachable controller all live sessions are anchored. -/
theorem Reachable.anchored {c : Controller σ} (reachable : Reachable c) : c.stack.Anchored := by
  obtain ⟨groups, host, config, started, requests, start, rfl⟩ := reachable
  have atStart : started.stack.Anchored := by
    obtain ⟨title, schema, input, fallback, -, -, stack⟩ := start_cases start
    rw [stack]
    exact List.forall_mem_singleton.mpr (Session.anchored_of_idle rfl)
  exact (moves_runs requests (nested_of_start start).toLinked).keep (fun move => move.anchored) atStart

/-- A session that waits for another one has no edit open. -/
theorem editing?_of_waiting {ground : Session → Prop} {top : Session} {rest : List Session}
    (chain : Chain ground Opened (top :: rest)) : ∀ session ∈ rest, session.editing? = none := by
  induction rest generalizing top with
  | nil => simp
  | cons parent below inductionHypothesis =>
    cases chain with
    | nested opened chain =>
      refine List.forall_mem_cons.mpr ⟨?_, inductionHypothesis chain⟩
      obtain ⟨position, key, navigating, -⟩ := opened.bound
      rw [Session.editing?, navigating]

/-- In a reachable controller the key of the open edit stands for a row of the innermost session's form, and
no other session has an edit open. -/
theorem edit_names_row {c : Controller σ} (reachable : Reachable c) :
    (∀ key, c.editing? = some key → ∃ top row, c.top? = some top ∧ c.rowFor? key = some row ∧
        top.schema.Names key row) ∧
      ∀ session ∈ c.stack.sessions.tail, session.editing? = none := by
  constructor
  · intro key editing
    obtain ⟨top, first, open_⟩ := Option.bind_eq_some_iff.mp editing
    have member := mem_of_top? first
    obtain ⟨row, resolved⟩ := Option.isSome_iff_exists.mp (reachable.anchored top member key open_)
    refine ⟨top, row, first, ?_, (reachable.formed top member).names_of_resolve resolved⟩
    rw [rowFor?, first, Option.bind_some, resolved]
  · have chain := reachable.nested.chain
    cases live : c.stack.sessions with
    | nil => simp
    | cons top rest =>
      rw [live] at chain
      exact editing?_of_waiting chain

/-- A second name is edited, for which the row of the first one is the pattern. -/
theorem edit_names_row_person :
    Reachable (runs [.beginEdit "name2"] personStarted) ∧
      (runs [.beginEdit "name2"] personStarted).editing? = some "name2" ∧
      ∃ row, (runs [.beginEdit "name2"] personStarted).rowFor? "name2" = some row ∧
        row.identifier = "name" := by
  have reachable : Reachable (runs [.beginEdit "name2"] personStarted) :=
    ⟨_, _, _, _, _, start_person, rfl⟩
  have editing : (runs [.beginEdit "name2"] personStarted).editing? = some "name2" := by rfl
  obtain ⟨top, row, first, resolved, names⟩ := (edit_names_row reachable).1 "name2" editing
  obtain rfl := Option.some.inj first
  refine ⟨reachable, editing, row, resolved, ?_⟩
  cases names with
  | declared found there bears => cases found
  | indexed undeclared decoded found there bears persisted =>
    obtain rfl := Option.some.inj decoded
    exact bears

end Controller

end SettingsForm
