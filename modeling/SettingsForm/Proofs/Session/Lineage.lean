import SettingsForm.Proofs.Result
import SettingsForm.Proofs.Session.Course
import SettingsForm.Proofs.Session.Invariant

/-!
# What is handed down from session to session

A session gets its values from the session below it when it is opened, and hands its edits back when it is
dismissed; in between only its edits and what it is busy with change, as long as the host leaves the schema
alone. So a statement about single sessions and about neighbours on the stack holds in every run if it
holds of a newly opened session, survives each accepted commit, and survives the edits that are handed back
(`Handed.runs`).
-/

namespace SettingsForm

namespace Session

/-- The session with other edits, busy with something else. -/
def progressed (session : Session) (state : SessionState) (active : Option ActiveRow) (edits : Mapping) :
    Session :=
  { session with state, active, store := { session.store with edits } }

/-- The session that a form starts with. -/
def ofRoot (title : String) (schema : Schema) (store : Store) : Session :=
  { id := 0, title, schema, store, state := .active, active := none, origin := none }

/-- An accepted commit makes progress. -/
theorem progressed_of_commit {session : Session} {key : String} {row : Row} {contract : Contract}
    {raw : Value} {lenient : Bool} {committed : Committed} {store : Store}
    (stored : session.store.commit key row contract raw lenient = .ok (committed, store)) :
    { session with store } = session.progressed session.state session.active store.edits :=
  congrArg (fun store => { session with store }) (Store.commit_frame stored).1

/-- Edits that are handed back are progress, too. -/
theorem progressed_of_resume (session : Session) (key : String) (edits : Mapping) :
    session.resume key edits =
      session.progressed .active none (session.store.mergeChild key edits).edits := by
  cases edits <;> rfl

end Session

namespace Chain

variable {whole : Session → Prop} {link : Session → Session → Prop}

/-- What holds of the root and of every session above another one holds of all. -/
theorem all {sessions : List Session}
    (chain : Chain whole (fun parent child => whole child ∧ link parent child) sessions) :
    ∀ session ∈ sessions, whole session := by
  induction chain with
  | empty => simp
  | root grounded => simpa using grounded
  | nested linked below inductionHypothesis =>
    intro session member
    rcases List.mem_cons.mp member with rfl | deeper
    · exact linked.1
    · exact inductionHypothesis session deeper

/-- The innermost session may make progress that its parent need not know of. -/
theorem progress {before after : Session} {rest : List Session}
    (chain : Chain whole (fun parent child => whole child ∧ link parent child) (before :: rest))
    (kept : whole before → whole after) (related : ∀ parent, link parent before → link parent after) :
    Chain whole (fun parent child => whole child ∧ link parent child) (after :: rest) :=
  chain.replace kept fun parent linked => ⟨kept linked.1, related parent linked.2⟩

end Chain

namespace Controller

variable {σ : Type} [Host σ]

/-- Each live session has one property and stands in a relation to the session above it. The registry is an
admitted one, and the configuration is given. -/
structure Lineage (admits : Registry → Prop) (config : Config) (whole : Session → Prop)
    (link : Session → Session → Prop) (c : Controller σ) : Prop where
  registry : admits c.registry
  config : c.config = config
  nested : c.stack.Nested
  chain : Chain whole (fun parent child => whole child ∧ link parent child) c.stack.sessions

/-- What has to be shown of the property and the relation so that every operation keeps them. -/
structure Handed (σ : Type) [Host σ] (admits : Registry → Prop) (config : Config)
    (whole : Session → Prop) (link : Session → Session → Prop) : Prop where
  /-- The host leaves the schema alone. -/
  steady : ∀ (groups : List Group) (row : Row) (host : σ),
    (Host.refreshSchema groups row host).1 = .unchanged
  busy : ∀ {session : Session} (state : SessionState) (active : Option ActiveRow),
    whole session → whole (session.progressed state active session.edits)
  related : ∀ {parent child : Session} (state : SessionState) (active : Option ActiveRow) (edits : Mapping),
    link parent child → link parent (child.progressed state active edits)
  stored : ∀ {c : Controller σ} {session : Session} {key : String} {row : Row} {contract : Contract}
    {raw : Value} {committed : Committed} {store : Store}, admits c.registry → c.config = config →
    c.top? = some session → c.writableRow key = .ok (row, contract) →
    session.store.commit key row contract raw c.config.lenientStrings = .ok (committed, store) →
    whole session → whole { session with store }
  opened : ∀ {c asked : Controller σ} {top : Session} {position : Position} {row : Row}
    {groups : List Group} {schema : Schema} (id : SessionId), admits c.registry → c.config = config →
    c.nestingRow top.id position = .ok (top, row) → Supplies c row groups asked →
    Schema.build groups (top.level + 1) = .ok schema → whole top →
    whole (.ofRow id top.id position row schema (asked.childStore top row)) ∧
      link (top.waitFor position id) (.ofRow id top.id position row schema (asked.childStore top row))
  merged : ∀ {parent child : Session} {origin : Origin}, child.origin = some origin → whole parent →
    whole child → link parent child → whole (parent.resume origin.mergeKey child.edits)

namespace Handed

variable {admits : Registry → Prop} {config : Config} {whole : Session → Prop}
  {link : Session → Session → Prop}

/-- Storing a committed value keeps the property of the innermost session and its relation to the others. -/
theorem lineage_stored (handed : Handed σ admits config whole link) {c : Controller σ} {session : Session}
    {key : String} {row : Row} {contract : Contract} {raw : Value} {committed : Committed} {store : Store}
    (top : c.top? = some session) (found : c.writableRow key = .ok (row, contract))
    (stored : session.store.commit key row contract raw c.config.lenientStrings = .ok (committed, store))
    (lineage : Lineage admits config whole link c) :
    Lineage admits config whole link (c.storing store) := by
  obtain ⟨rest, live⟩ := top?_eq_some_iff.mp top
  rw [storing, modifyTop_of_sessions live]
  refine ⟨lineage.registry, lineage.config, lineage.nested.revise live (inPlace_store session store), ?_⟩
  refine (live ▸ lineage.chain).progress ?_ ?_
  · exact handed.stored lineage.registry lineage.config top found stored
  · intro parent linked
    rw [Session.progressed_of_commit stored]
    exact handed.related _ _ _ linked

/-- A session that opens has the property and is related to the one that it opened from. -/
theorem lineage_opened (handed : Handed σ admits config whole link) {c asked : Controller σ}
    {parent id : SessionId} {position : Position} {session : Session} {row : Row} {groups : List Group}
    {schema : Schema} {stack : Stack} (found : c.nestingRow parent position = .ok (session, row))
    (supplied : Supplies c row groups asked) (built : Schema.build groups (session.level + 1) = .ok schema)
    (pushed : c.stack.push? parent position row schema (asked.childStore session row) = .ok (id, stack))
    (lineage : Lineage admits config whole link c) :
    Lineage admits config whole link { c with stack } := by
  obtain ⟨present, free, there, -⟩ := nestingRow_cases found
  obtain ⟨rfl, others, first⟩ := Stack.top_of_get? lineage.nested.toLinked present free
  obtain ⟨top, rest, live, -, room, rfl, rfl⟩ := Stack.push?_cases lineage.nested.toLinked pushed
  obtain ⟨rfl, rfl⟩ := List.cons.inj (first.symm.trans live)
  refine ⟨lineage.registry, lineage.config,
    lineage.nested.extend live _ there (Schema.build_cases built).2.2.1 room, ?_⟩
  have chain := lineage.chain
  rw [live] at chain
  have below := chain.all session List.mem_cons_self
  refine .nested (handed.opened _ lineage.registry lineage.config found supplied built below) ?_
  exact chain.progress (handed.busy _ _) fun parent linked => handed.related _ _ _ linked

/-- A dismissal keeps the lineage of the sessions that are left, the innermost of them with the merged edits.
-/
theorem lineage_dismissed (handed : Handed σ admits config whole link) {c : Controller σ} {id : SessionId}
    {popped : Popped} (accepted : c.stack.pop? id = .ok popped) (lineage : Lineage admits config whole link c) :
    Lineage admits config whole link { c with stack := popped.stack } := by
  obtain ⟨top, rest, live, -, ⟨-, -, emptied⟩ | ⟨parent, below, origin, rfl, -, named, -, resumed⟩⟩ :=
    Stack.pop?_cases lineage.nested.toLinked accepted
  · rw [emptied]
    exact ⟨lineage.registry, lineage.config, Stack.nested_of_empty rfl, .empty⟩
  · rw [resumed]
    refine ⟨lineage.registry, lineage.config, lineage.nested.resume live _ _, ?_⟩
    have chain := lineage.chain
    rw [live] at chain
    cases chain with
    | nested linked chain =>
      refine chain.progress ?_ ?_
      · exact fun before => handed.merged named before linked.1 linked.2
      · intro other related
        rw [Session.progressed_of_resume]
        exact handed.related _ _ _ related

/-- To open or to end an edit is progress that the lineage does not notice. -/
theorem lineage_edited (handed : Handed σ admits config whole link) {c : Controller σ} (key : Option String)
    (lineage : Lineage admits config whole link c) :
    Lineage admits config whole link (c.modifyTop (·.withEditing key)) := by
  cases live : c.stack.sessions with
  | nil =>
    have same : c.modifyTop (·.withEditing key) = c := by
      rw [modifyTop, Stack.modifyTop, live, List.modifyHead_nil, ← live]
    rwa [same]
  | cons top rest =>
    rw [modifyTop_of_sessions live]
    refine ⟨lineage.registry, lineage.config, lineage.nested.revise live (inPlace_withEditing top key), ?_⟩
    exact (live ▸ lineage.chain).progress (handed.busy _ _) fun parent linked => handed.related _ _ _ linked

/-- What is handed down so is an invariant. -/
theorem invariant (handed : Handed σ admits config whole link) :
    Invariant (Lineage (σ := σ) admits config whole link) where
  host := fun _ _ lineage => ⟨lineage.registry, lineage.config, lineage.nested, lineage.chain⟩
  edited := handed.lineage_edited
  stored := handed.lineage_stored
  refreshed := fun _ answer _ _ => absurd (handed.steady _ _ _) answer
  opened := handed.lineage_opened
  dismissed := handed.lineage_dismissed

/-- In every run from a start, each live session has the property, and each stands in the relation to the
session above it. -/
theorem runs (handed : Handed σ admits config whole link) {groups : List Group} {host : σ}
    {started : Controller σ} (start : start groups host config = .ok started) (empty : admits .empty)
    (root : ∀ {schema : Schema} {title : String} {input fallback : Mapping},
      Schema.build groups 0 = .ok schema → whole (.ofRoot title schema (.ofValues input fallback)))
    (requests : List (Request σ))
    (admitted : ∀ registry, .replaceRegistry registry ∈ requests → admits registry) :
    Lineage admits config whole link (runs requests started) := by
  refine handed.invariant.runs ?_ requests admitted ?_
  · exact fun admitted lineage => ⟨admitted, lineage.config, lineage.nested, lineage.chain⟩
  · have nested := nested_of_start start
    obtain ⟨schema, built, rest⟩ := Result.bind_eq_ok_iff.mp start
    obtain rfl := Except.ok.inj rest
    exact ⟨empty, rfl, nested, .root (root built)⟩

end Handed

end Controller

end SettingsForm
