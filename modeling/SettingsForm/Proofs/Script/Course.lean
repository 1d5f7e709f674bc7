import SettingsForm.Proofs.Result
import SettingsForm.Proofs.Schema.Entries
import SettingsForm.Proofs.Script.Screen
import SettingsForm.Proofs.Session.Finish

/-!
# The course of a script

Each step of a script does to the innermost session what the effect of that step does to its screen, and
fails just if the effect does; nothing else that later steps depend on changes. So a script succeeds just if
the effect of its visit does on the root screen, and returns the edits of the screen that the effect leaves
(`run_ok_iff`).
-/

namespace SettingsForm

/-- What a session shows. -/
def Session.screen (session : Session) : Screen := ⟨session.schema, session.store⟩

namespace Script

open Screen

/-! ## Steps as functions -/

section Result

variable {σ α β : Type}

/-- The result of a step and the controller that it leaves. -/
def result (step : Step σ α) (c : Controller σ) : Except ScriptError α × Controller σ := step.run c

/-- What comes of a sequence of steps: the first step's error, or what the next step makes of its value. -/
theorem result_bind (first : Step σ α) (next : α → Step σ β) (c : Controller σ) :
    result (first >>= next) c = match result first c with
      | (.ok value, after) => result (next value) after
      | (.error error, after) => (.error error, after) := by
  obtain ⟨⟨outcome, after⟩, reached⟩ : ∃ reached, result first c = reached := ⟨_, rfl⟩
  rw [reached]
  cases outcome with
  | ok value => exact Result.run_bind_ok reached
  | error error => exact Result.run_bind_error reached

/-- An operation comes to what it comes to outside a script, with its error reported as the script's. -/
theorem result_perform (operation : Operation σ α) (report : SettingsError → ScriptError)
    (c : Controller σ) : result (perform operation report) c =
      ((Operation.perform operation c).1.mapError report, (Operation.perform operation c).2) := by
  obtain ⟨⟨outcome, after⟩, ran⟩ : ∃ reached, operation.run.run c = reached := ⟨_, rfl⟩
  have performed : Operation.perform operation c = (outcome, after) := ran
  have chained : result (perform operation report) c = StateT.run (operation.run >>= _) c := rfl
  rw [chained, StateT.run_bind, ran, performed]
  cases outcome <;> rfl

end Result

/-! ## Steps and effects -/

/-- The script works in a session: it is the innermost one and idle, and nothing was replaced. -/
structure At (config : Config) (c : Controller StaticHost) (session : Session) (below : List Session) :
    Prop where
  registry : c.registry = .empty
  configured : c.config = config
  /-- The host has no nested forms. -/
  childless : c.host.children = []
  limit : c.stack.maxNesting = config.maxNesting
  linked : c.stack.Linked
  live : c.stack.sessions = session :: below
  idle : session.active = none

/-- The step does to the session that a script works in what the effect does to its screen, and fails if the
effect does. -/
def Does (config : Config) {α : Type} (step : Step StaticHost α) (effect : Effect) : Prop :=
  ∀ c session below, At config c session below →
    (∃ value after store, result step c = (.ok value, after) ∧
      effect session.screen = some ⟨session.schema, store⟩ ∧
        At config after { session with store } below) ∨
    ∃ error after, result step c = (.error error, after) ∧ effect session.screen = none

namespace Does

variable {config : Config} {α β : Type}

/-- To return a value has the effect of doing nothing. -/
theorem pure (value : α) : Does config (pure value : Step StaticHost α) some := by
  intro c session below at_
  exact Or.inl ⟨value, c, session.store, rfl, rfl, at_⟩

/-- What steps do one after the other is what their effects do. -/
theorem bind {first : Step StaticHost α} {next : α → Step StaticHost β} {effect further : Effect}
    (does : Does config first effect) (others : ∀ value, Does config (next value) further) :
    Does config (first >>= next) fun screen => (effect screen).bind further := by
  intro c session below at_
  rcases does c session below at_ with
    ⟨value, middle, store, succeeded, effected, reached⟩ | ⟨error, after, failed, effected⟩
  · rcases others value middle _ below reached with
      ⟨last, after, stored, ended, done, arrived⟩ | ⟨error, after, ended, done⟩
    · refine Or.inl ⟨last, after, stored, ?_, (congrArg (Option.bind · further) effected).trans done, arrived⟩
      rw [result_bind, succeeded]
      exact ended
    · refine Or.inr ⟨error, after, ?_, (congrArg (Option.bind · further) effected).trans done⟩
      rw [result_bind, succeeded]
      exact ended
  · refine Or.inr ⟨error, after, ?_, congrArg (Option.bind · further) effected⟩
    rw [result_bind, failed]

end Does

variable {config : Config} {c : Controller StaticHost} {session : Session} {below : List Session}

/-- The session of the script is the innermost one. -/
theorem At.top (at_ : At config c session below) : c.top? = some session :=
  Controller.top?_eq_some_iff.mpr ⟨below, at_.live⟩

/-- No contract was replaced. -/
theorem At.plain (at_ : At config c session below) : c.registry.Plain := by
  intro rowType
  rw [at_.registry]
  rfl

/-- A row can be written to in the session just if it can in its screen. -/
theorem At.writableRow (at_ : At config c session below) (key : String) :
    (∃ row, session.screen.writable? key = some row ∧
        c.writableRow key = .ok (row, Contract.builtin row.rowType)) ∨
      session.screen.writable? key = none ∧ ∃ error, c.writableRow key = .error error := by
  have live := Controller.current_of_top at_.top
  have inForce := Controller.contractFor_plain StaticHost.passive at_.plain
  simp only [Screen.writable?, Session.screen, Controller.writableRow, live, bind, Except.bind, inForce]
  cases session.schema.resolve? key with
  | none => exact Or.inr ⟨rfl, _, rfl⟩
  | some row =>
    by_cases editable : row.editable = true
    · by_cases persisted : (Contract.builtin row.rowType).persisted = true
      · refine Or.inl ⟨{ row with identifier := key }, by simp [editable, persisted], ?_⟩
        simp only [editable, persisted, Bool.not_true, Bool.false_eq_true, if_false]
        rfl
      · refine Or.inr ⟨by simp [persisted], .coercion (.notPersisted key), ?_⟩
        simp [editable, persisted]
    · exact Or.inr ⟨by simp [editable], .readOnly key, by simp [editable]⟩

/-- What a commit makes of a store is what its effect makes of the screen. -/
theorem write_of_commit {screen : Screen} {key : String} {row : Row} {raw : Value} {lenient : Bool}
    {committed : Committed} {store : Store} (writable : screen.writable? key = some row)
    (stored : screen.store.commit key row (Contract.builtin row.rowType) raw lenient =
      .ok (committed, store)) :
    write lenient key raw screen = some { screen with store } := by
  obtain ⟨converted, ⟨-, inEffect, rfl⟩ | ⟨-, inEffect, rfl⟩⟩ := Store.commit_cases stored
  · simp [write, stores?, writable, converted, inEffect, noting]
  · simp [write, stores?, writable, converted, inEffect, noting, put]

/-- A value that does not convert has no effect on the screen either. -/
theorem write_of_unfit {screen : Screen} {key : String} {row : Row} {raw : Value} {lenient : Bool}
    {error : CoercionError} (writable : screen.writable? key = some row)
    (failed : screen.store.commit key row (Contract.builtin row.rowType) raw lenient = .error error) :
    write lenient key raw screen = none := by
  have unfit : (Contract.builtin row.rowType).coerce key row raw lenient = .error error := by
    simp only [Store.commit, bind, Except.bind] at failed
    split at failed
    · rename_i refused converted
      obtain rfl := Except.error.inj failed
      exact converted
    · split at failed <;> cases failed
  simp [write, stores?, writable, unfit]

/-- The session holds another store. -/
theorem At.storing (at_ : At config c session below) (store : Store) :
    At config (c.storing store) { session with store } below := by
  rw [Controller.storing, Controller.modifyTop_of_sessions at_.live]
  exact ⟨at_.registry, at_.configured, at_.childless, at_.limit,
    at_.linked.revise at_.live (Controller.inPlace_store session store), rfl, at_.idle⟩

/-- The host was told or asked something. -/
theorem At.told (at_ : At config c session below) (calls : List HostCall) {host : StaticHost}
    (childless : host.children = []) : At config { c.record calls with host } session below :=
  ⟨at_.registry, at_.configured, childless, at_.limit, at_.linked, at_.live, at_.idle⟩

/-- After a commit the host is told, asked for a refresh, and declines. -/
theorem At.answered (at_ : At config c session below) {row : Row} {outcome : Except SettingsError Bool}
    {after : Controller StaticHost} (run : Controller.RefreshRun c session row (outcome, after)) :
    outcome = .ok false ∧ At config after session below := by
  cases run with
  | declined answer => exact ⟨rfl, at_.told _ at_.childless⟩
  | accepted answer valid => exact absurd rfl answer
  | rejected invalid => cases invalid

/-- A commit does what the effect of a commit does. -/
theorem does_commit (config : Config) (key : String) (raw : Value) (report : SettingsError → ScriptError) :
    Does config (perform (Controller.commit key raw) report) (write config.lenientStrings key raw) := by
  intro c session below at_
  have run := Controller.commit_run c key raw
  rw [result_perform]
  generalize Operation.perform (Controller.commit key raw) c = ended at run ⊢
  have told {row : Row} {store : Store} {value : Value} :
      At config ((c.storing store).announced value row) { session with store } below :=
    (at_.storing store).told [_] (at_.storing store).childless
  rcases at_.writableRow key with ⟨row, writable, found⟩ | ⟨unwritable, error, refused⟩
  · have stores {present : Session} {written : Row} {contract : Contract} {committed : Committed} {store : Store}
        (top : c.top? = some present) (again : c.writableRow key = .ok (written, contract))
        (stored : present.store.commit key written contract raw c.config.lenientStrings =
          .ok (committed, store)) :
        present = session ∧
        write config.lenientStrings key raw session.screen = some ⟨session.schema, store⟩ := by
      obtain rfl := Option.some.inj (at_.top.symm.trans top)
      obtain ⟨rfl, rfl⟩ := Prod.mk.inj (Except.ok.inj (found.symm.trans again))
      rw [at_.configured] at stored
      exact ⟨rfl, write_of_commit writable stored⟩
    cases run with
    | unwritable refused =>
      rw [found] at refused
      cases refused
    | unfit top again failed =>
      obtain rfl := Option.some.inj (at_.top.symm.trans top)
      obtain ⟨rfl, rfl⟩ := Prod.mk.inj (Except.ok.inj (found.symm.trans again))
      rw [at_.configured] at failed
      exact Or.inr ⟨_, _, rfl, write_of_unfit writable failed⟩
    | silent top again stored unheard =>
      obtain ⟨rfl, effected⟩ := stores top again stored
      exact Or.inl ⟨_, _, _, rfl, effected, at_.storing _⟩
    | heard top again stored notified answered =>
      obtain ⟨rfl, effected⟩ := stores top again stored
      obtain ⟨-, reached⟩ := told.answered answered
      exact Or.inl ⟨_, _, _, rfl, effected, reached⟩
    | rejected top again stored notified answered =>
      obtain ⟨rfl, effected⟩ := stores top again stored
      obtain ⟨declined, -⟩ := told.answered answered
      cases declined
  · have fails : write config.lenientStrings key raw session.screen = none := by
      simp [write, stores?, unwritable]
    cases run with
    | unwritable refused => exact Or.inr ⟨_, _, rfl, fails⟩
    | unfit top found | silent top found | heard top found | rejected top found =>
      rw [refused] at found
      cases found

/-- Committing values one after the other has their effects one after the other. -/
theorem does_commitAll (config : Config) (trail : List String) (commits : List (String × Value)) :
    Does config (commitAll trail commits)
      (runAll (commits.map fun (key, raw) => (key, write config.lenientStrings key raw))) := by
  induction commits with
  | nil => exact Does.pure ()
  | cons commit rest inductionHypothesis =>
    obtain ⟨key, raw⟩ := commit
    exact (does_commit config key raw _).bind fun _ => inductionHypothesis

/-! ## Visiting a nested form -/

/-- The row that the script opens is one from which a session can be opened. -/
theorem At.nestingRow (at_ : At config c session below) {position : Position} {row : Row}
    (there : session.schema.rowAt? position = some row) (nesting : row.rowType.isNesting = true) :
    c.nestingRow session.id position = .ok (session, row) := by
  have free : session.state ≠ .childActive := by simp [(at_.linked.free session at_.top).active]
  have live : c.stack.get? session.id = .ok session := by simp [Stack.get?, at_.live]
  have recurses : (c.contractFor row).recurses = true := by
    rw [Controller.contractFor_plain StaticHost.passive at_.plain, Contract.recurses_builtin, nesting]
  exact Controller.nestingRow_of_free live free there recurses

/-- The host has no nested forms to supply. -/
theorem At.supplied (at_ : At config c session below) {row : Row} {groups : List Group}
    {asked : Controller StaticHost} (supplied : Controller.Supplies c row groups asked) :
    row.childGroups? = some groups ∧ c = asked := by
  cases supplied with
  | own carried => exact ⟨carried, rfl⟩
  | host bare answer =>
    have none : (Host.rowsForChild row c.host).1 = none := by
      simp [Host.rowsForChild, at_.childless]
    rw [none] at answer
    cases answer

/-- A session is opened for the nested form, if there is one, and shows it first. -/
theorem At.push (at_ : At config c session below) {key : String} {position : Position} {row : Row}
    (found : (session.schema.rows.find? fun (_, row) => row.rowType.isNesting && row.mergeKey = key) =
      some (position, row)) :
    (∃ child after, Operation.perform (Controller.push session.id position) c = (.ok child.id, after) ∧
        child.origin = some { parent := session.id, position, mergeKey := key } ∧
        session.screen.nested? config.maxNesting key = some child.screen ∧
        At config after child (session.waitFor position child.id :: below)) ∨
      ∃ error after, Operation.perform (Controller.push session.id position) c = (.error error, after) ∧
        session.screen.nested? config.maxNesting key = none := by
  have kind := List.find?_some found
  obtain ⟨nesting, rfl⟩ : row.rowType.isNesting = true ∧ row.mergeKey = key := by simpa using kind
  have there : session.schema.rowAt? position = some row :=
    Schema.mem_rows.mp (List.mem_of_find?_eq_some found)
  have declared := at_.nestingRow there nesting
  have level : session.screen.schema.level = session.level := rfl
  have shown := nested?_of_find? session.screen config.maxNesting found
  rw [level] at shown
  have run := Controller.push_run c session.id position
  generalize Operation.perform (Controller.push session.id position) c = ended at run ⊢
  cases run with
  | refused closed =>
    rw [declared] at closed
    cases closed
  | childless again bare answer =>
    obtain ⟨rfl, rfl⟩ := Prod.mk.inj (Except.ok.inj (declared.symm.trans again))
    refine Or.inr ⟨_, _, rfl, ?_⟩
    rw [shown, bare]
    rfl
  | invalid again supplied faulty =>
    obtain ⟨rfl, rfl⟩ := Prod.mk.inj (Except.ok.inj (declared.symm.trans again))
    refine Or.inr ⟨_, _, rfl, ?_⟩
    rw [shown, (at_.supplied supplied).1]
    simp [faulty, Except.toOption]
  | blocked again supplied built full =>
    obtain ⟨rfl, rfl⟩ := Prod.mk.inj (Except.ok.inj (declared.symm.trans again))
    refine Or.inr ⟨_, _, rfl, ?_⟩
    have deep : ¬ session.level + 1 ≤ config.maxNesting := by
      intro room
      rw [← at_.limit, ← Nat.not_lt] at room
      rw [Stack.push?_innermost at_.linked at_.live, if_neg room] at full
      cases full
    rw [shown, (at_.supplied supplied).1]
    simp [Except.toOption, deep]
  | @opened _ _ groups schema _ _ _ again supplied built pushed =>
    obtain ⟨rfl, rfl⟩ := Prod.mk.inj (Except.ok.inj (declared.symm.trans again))
    obtain ⟨carried, rfl⟩ := at_.supplied supplied
    obtain ⟨top, rest, live, -, room, rfl, rfl⟩ := Stack.push?_cases at_.linked pushed
    obtain ⟨rfl, rfl⟩ := List.cons.inj (at_.live.symm.trans live)
    rw [at_.limit] at room
    refine Or.inl ⟨.ofRow c.stack.nextId session.id position row schema (c.childStore session row), _, rfl,
      rfl, ?_, ?_⟩
    · rw [shown, carried, Option.bind_some, built]
      simp only [Except.toOption, Option.bind_some, if_pos room]
      rfl
    · exact ⟨at_.registry, at_.configured, at_.childless, at_.limit,
        at_.linked.extend at_.live position row schema _, rfl, rfl⟩

/-- The session is dismissed, and the one that it was opened from takes its edits back. -/
theorem At.pop {child : Session} {position : Position} {key : String}
    (at_ : At config c child (session.waitFor position child.id :: below))
    (origin : child.origin = some { parent := session.id, position, mergeKey := key })
    (active : session.state = .active) (idle : session.active = none) :
    ∃ dismissal after, Operation.perform (Controller.pop child.id) c = (.ok dismissal, after) ∧
      At config after { session with store := session.store.mergeChild key child.store.edits } below := by
  obtain ⟨bound, opened, accepted⟩ := Stack.pop?_nested at_.linked at_.live
  obtain rfl := Option.some.inj (origin.symm.trans opened)
  have resumed : (session.waitFor position child.id).resume key child.edits =
      { session with store := session.store.mergeChild key child.store.edits } := by
    cases session
    simp only at active idle
    subst active idle
    rfl
  have linked := at_.linked.resume at_.live key child.edits
  rw [resumed] at linked accepted
  refine ⟨_, _, Controller.pop_accepted accepted, ?_⟩
  rw [Controller.afterPop_ok rfl]
  exact ⟨at_.registry, at_.configured, at_.childless, at_.limit, linked, rfl, idle⟩

/-- The session of a nested form is opened as the screen says. -/
theorem At.enter (at_ : At config c session below) (trail : List String) (key : String) :
    (∃ position child after, result (enter trail key) c = (.ok child.id, after) ∧
        child.origin = some { parent := session.id, position, mergeKey := key } ∧
        session.screen.nested? config.maxNesting key = some child.screen ∧
        At config after child (session.waitFor position child.id :: below)) ∨
      ∃ error after, result (enter trail key) c = (.error error, after) ∧
        session.screen.nested? config.maxNesting key = none := by
  have queried : result (perform (Controller.query Controller.current) .session) c = (.ok session, c) := by
    rw [result_perform, Operation.perform_query, Controller.current_of_top at_.top]
    rfl
  rw [Script.enter, result_bind, queried]
  simp only [nestingRow?]
  cases found : session.schema.rows.find? fun (_, row) => row.rowType.isNesting && row.mergeKey = key with
  | none =>
    refine Or.inr ⟨.noNestedForm (trail ++ [key]) key, c, rfl, ?_⟩
    rw [nested?, Session.screen, found]
    rfl
  | some entry =>
    obtain ⟨position, row⟩ := entry
    simp only [Option.map_some, result_perform]
    rcases at_.push found with ⟨child, after, pushed, opened⟩ | ⟨error, after, failed, closed⟩
    · rw [pushed]
      exact Or.inl ⟨position, child, after, rfl, opened⟩
    · rw [failed]
      exact Or.inr ⟨_, after, rfl, closed⟩

/-- What a session takes back is what its screen notes. -/
theorem noting_mergeChild (screen : Screen) (key : String) (edits : Mapping) :
    screen.noting key (if edits = [] then none else some (.mapping edits)) =
      { screen with store := screen.store.mergeChild key edits } := by
  cases edits <;> rfl

/-- Opening a nested form, doing something there and dismissing it does what the effect of a visit does. -/
theorem does_descend (trail : List String) (key : String) {step : Step StaticHost Unit} {effect : Effect}
    (inside : Does config step effect) :
    Does config (enter trail key >>= fun id => step >>= fun _ => perform (Controller.pop id) .session)
      (descend config.maxNesting key effect) := by
  intro c session below at_
  have free := at_.linked.free session at_.top
  rcases at_.enter trail key with
    ⟨position, child, opened, entered, origin, shown, reached⟩ | ⟨error, after, failed, hidden⟩
  · rw [result_bind, entered]
    simp only [result_bind]
    rcases inside opened child _ reached with
      ⟨⟨⟩, middle, store, stepped, effected, arrived⟩ | ⟨error, after, failed, effected⟩
    · obtain ⟨dismissal, after, popped, back⟩ := arrived.pop origin free.active at_.idle
      have popped : Operation.perform (Controller.pop child.id) middle = (.ok dismissal, after) := popped
      refine Or.inl ⟨dismissal, after, _, ?_, ?_, back⟩
      · rw [stepped]
        simp only [result_perform, popped]
        rfl
      · rw [descend, returns?, shown, Option.bind_some, effected, Option.map_some, Option.map_some,
          noting_mergeChild]
        rfl
    · refine Or.inr ⟨error, after, ?_, ?_⟩
      · rw [failed]
      · rw [descend, returns?, shown, Option.bind_some, effected]
        rfl
  · refine Or.inr ⟨error, after, ?_, ?_⟩
    · rw [result_bind, failed]
    · rw [descend, returns?, hidden]
      rfl

mutual

/-- A visit does what its effect does. -/
theorem does_visit (config : Config) (trail : List String) :
    ∀ visit : Visit, Does config (Script.visit trail visit) (visit.effect config)
  | .mk commits children => by
    have both := (does_commitAll config trail commits).bind fun _ => does_visitChildren config trail children
    have effect : (Visit.mk commits children).effect config = fun screen =>
        (runAll (commits.map fun (key, raw) => (key, write config.lenientStrings key raw)) screen).bind
          (runAll (Visit.childEffects config children)) := by
      funext screen
      rw [Visit.effect, runAll_append]
    rw [Script.visit, effect]
    exact both

/-- Visiting nested forms has the effect of the visits, by induction together with the forms' own visits. -/
theorem does_visitChildren (config : Config) (trail : List String) :
    ∀ children : List (String × Visit),
      Does config (visitChildren trail children) (runAll (Visit.childEffects config children))
  | [] => by
    rw [visitChildren, Visit.childEffects]
    exact Does.pure ()
  | (key, child) :: rest => by
    have inside := does_visit config (trail ++ [key]) child
    have both := (does_descend trail key inside).bind fun _ => does_visitChildren config trail rest
    simp only [bind_assoc] at both
    rw [visitChildren, Visit.childEffects]
    exact both

end

/-! ## Runs -/

/-- A form starts with its root session. -/
theorem at_start {groups : List Group} {values fallback : Mapping} {config : Config}
    {started : Controller StaticHost}
    (start : Controller.start groups (StaticHost.ofValues values fallback) config = .ok started) :
    ∃ schema root, Schema.build groups 0 = .ok schema ∧ root.screen = ⟨schema, .ofValues values fallback⟩ ∧
      At config started root [] := by
  have linked := (Controller.nested_of_start start).toLinked
  obtain ⟨schema, built, rest⟩ := Result.bind_eq_ok_iff.mp start
  obtain rfl := Except.ok.inj rest
  exact ⟨schema, _, built, rfl, rfl, rfl, rfl, rfl, linked, rfl, rfl⟩

/-- With no session below, finishing returns the edits of the session. -/
theorem At.finish (at_ : At config c session []) :
    ∃ after, Operation.perform Controller.finish c = (.ok session.edits, after) := by
  obtain ⟨host, dismissed⟩ := Controller.dismiss_root at_.linked at_.live
  have depth : c.stack.depth = 1 := by rw [Stack.depth, at_.live, List.length_singleton]
  rw [Controller.finish, Operation.perform_get_bind, depth, Controller.dismissUpTo,
    Operation.perform_bind_ok dismissed]
  exact ⟨_, rfl⟩

/-- Over a form that is accepted, a script is the visit of its assignments and the finish. -/
theorem run_of_start {groups : List Group} {values fallback : Mapping} {config : Config}
    {started : Controller StaticHost}
    (start : Controller.start groups (StaticHost.ofValues values fallback) config = .ok started)
    (assignments : List Assignment) :
    Script.run groups values fallback config assignments =
      (result (Script.visit [] (Visit.ofAssignments assignments) >>= fun _ =>
        perform Controller.finish .session) started).1 := by
  rw [Script.run, start]
  rfl

/-- A script succeeds just if the form is accepted and the effect of its visit succeeds on the root screen, and
returns the edits of the screen that the effect leaves. -/
theorem run_ok_iff {groups : List Group} {values fallback : Mapping} {config : Config}
    {assignments : List Assignment} {diff : Mapping} :
    Script.run groups values fallback config assignments = .ok diff ↔
      ∃ schema after, Schema.build groups 0 = .ok schema ∧
        (Visit.ofAssignments assignments).effect config ⟨schema, .ofValues values fallback⟩ = some after ∧
        after.store.edits = diff := by
  cases start : Controller.start groups (StaticHost.ofValues values fallback) config with
  | error error =>
    have refused : ∀ schema, Schema.build groups 0 ≠ .ok schema := by
      intro schema built
      simp [Controller.start, built, bind, Except.bind] at start
    constructor
    · intro ended
      simp [Script.run, start] at ended
    · rintro ⟨schema, after, built, -⟩
      exact absurd built (refused schema)
  | ok started =>
    obtain ⟨schema, root, built, shown, at_⟩ := at_start start
    have only : (∃ form after, (.ok schema : Except SchemaError Schema) = .ok form ∧
        (Visit.ofAssignments assignments).effect config ⟨form, .ofValues values fallback⟩ = some after ∧
          after.store.edits = diff) ↔
        ∃ after, (Visit.ofAssignments assignments).effect config root.screen = some after ∧
          after.store.edits = diff := by
      rw [shown]
      constructor
      · rintro ⟨form, after, ⟨⟩, ended⟩
        exact ⟨after, ended⟩
      · rintro ⟨after, ended⟩
        exact ⟨schema, after, rfl, ended⟩
    rw [run_of_start start, result_bind, built, only]
    rcases does_visit config [] (Visit.ofAssignments assignments) started root [] at_ with
      ⟨⟨⟩, middle, store, visited, effected, reached⟩ | ⟨error, after, failed, effected⟩
    · obtain ⟨after, finished⟩ := reached.finish
      rw [visited, effected]
      simp only [result_perform, finished, Result.mapError_eq_ok_iff, Except.ok.injEq, Option.some.injEq,
        exists_eq_left', Session.edits]
    · rw [failed, effected]
      simp

end Script

end SettingsForm
