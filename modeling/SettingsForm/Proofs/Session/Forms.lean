import SettingsForm.Proofs.Schema.Updates
import SettingsForm.Proofs.Session.Calls
import SettingsForm.Proofs.Session.Course

/-!
# The forms of live sessions

Building a form checks every nested form that one of its rows carries, at all depths. The host may replace
rows and groups of the innermost session afterwards, and the registry and the host themselves may be
replaced. Yet the form of every live session stays consistent (`Stack.Formed`): each move of a controller
copies schemas, builds them, or replaces rows of a consistent one.

So a nested form that a row carries is never found invalid when it is opened. Only the limit of nesting can
keep the session from being opened (`Controller.push_carried`).
-/

namespace SettingsForm

/-- The form of every live session is consistent. -/
def Stack.Formed (stack : Stack) : Prop := ∀ session ∈ stack.sessions, session.schema.Consistent

/-- The form of the innermost session is consistent, and so are those of the others. -/
theorem Stack.Formed.split {stack : Stack} (formed : stack.Formed) {top : Session} {rest : List Session}
    (live : stack.sessions = top :: rest) :
    top.schema.Consistent ∧ ∀ session ∈ rest, session.schema.Consistent := by
  rw [Stack.Formed, live] at formed
  exact List.forall_mem_cons.mp formed

namespace Controller

open Operation

variable {σ : Type}

/-- Dropping an edit whose row is gone leaves the schema alone. -/
theorem schema_dropStaleEdit (session : Session) : (dropStaleEdit session).schema = session.schema := by
  rcases dropStaleEdit_cases session with same | ⟨-, ended⟩
  · rw [same]
  · rw [ended]
    rfl

/-- A refresh of a consistent form gives a consistent form. -/
theorem consistent_refreshed {schema after : Schema} {refresh : Refresh} (consistent : schema.Consistent)
    (valid : refreshed schema refresh = .ok after) : after.Consistent := by
  cases refresh with
  | unchanged =>
    obtain rfl := Except.ok.inj valid
    exact consistent
  | groups groups => exact Schema.consistent_of_build valid
  | rows key rows => exact consistent.replaceRows valid

variable [Host σ]

/-- Every move keeps the forms consistent. -/
theorem Move.formed {c after : Controller σ} {events : List Event} (move : Move c events after)
    (formed : c.stack.Formed) : after.stack.Formed := by
  cases move with
  | asked | repeated | hostReplaced | registryReplaced => exact formed
  | @edited top rest live key named =>
    obtain ⟨consistent, others⟩ := formed.split live
    rw [modifyTop_of_sessions live]
    exact List.forall_mem_cons.mpr ⟨consistent, others⟩
  | @written top key row contract raw committed store first found stored changed =>
    obtain ⟨rest, live⟩ := top?_eq_some_iff.mp first
    obtain ⟨consistent, others⟩ := formed.split live
    rw [storing, modifyTop_of_sessions live]
    exact List.forall_mem_cons.mpr ⟨consistent, others⟩
  | @refreshed top row schema first answer valid =>
    obtain ⟨rest, live⟩ := top?_eq_some_iff.mp first
    obtain ⟨consistent, others⟩ := formed.split live
    rw [modifyTop_of_sessions (c := c.consulted top.schema.groups row) live]
    refine List.forall_mem_cons.mpr ⟨?_, others⟩
    rw [schema_dropStaleEdit]
    exact consistent_refreshed consistent valid
  | opened input fallback asked live found recurses built room =>
    obtain ⟨consistent, others⟩ := formed.split live
    exact List.forall_mem_cons.mpr
      ⟨Schema.consistent_of_build built, List.forall_mem_cons.mpr ⟨consistent, others⟩⟩
  | finished live => exact List.forall_mem_nil _
  | merged live opened named =>
    -- The parent takes the edits into its store, not into its form.
    obtain ⟨-, parents⟩ := formed.split live
    obtain ⟨consistent, others⟩ := List.forall_mem_cons.mp parents
    exact List.forall_mem_cons.mpr ⟨consistent, others⟩

/-- In every reachable controller the forms of all live sessions are consistent. -/
theorem Reachable.formed {c : Controller σ} (reachable : Reachable c) : c.stack.Formed := by
  obtain ⟨groups, host, config, started, requests, start, rfl⟩ := reachable
  have atStart : started.stack.Formed := by
    obtain ⟨title, schema, input, fallback, built, -, stack⟩ := start_cases start
    rw [stack]
    exact List.forall_mem_singleton.mpr (Schema.consistent_of_build built)
  exact (moves_runs requests (nested_of_start start).toLinked).keep (fun move => move.formed) atStart

/-- The limit of nesting is the configured one. -/
theorem Reachable.limit {c : Controller σ} (reachable : Reachable c) :
    c.stack.maxNesting = c.config.maxNesting := by
  obtain ⟨groups, host, config, started, requests, start, rfl⟩ := reachable
  obtain ⟨title, schema, input, fallback, -, configured, stack⟩ := start_cases start
  have moves := moves_runs requests (nested_of_start start).toLinked
  have same : (Controller.runs requests started).config = started.config :=
    moves.keep (fun move same => move.config.trans same) rfl
  rw [moves.maxNesting, same, stack, configured]
  rfl

/-- Where the row carries a valid form, the stack alone decides whether a session is opened. The host is
asked for its values before. -/
theorem push_of_built {c : Controller σ} {parent : SessionId} {position : Position} {session : Session}
    {row : Row} {groups : List Group} {schema : Schema}
    (found : c.nestingRow parent position = .ok (session, row)) (carried : row.childGroups? = some groups)
    (built : Schema.build groups (session.level + 1) = .ok schema) :
    perform (push parent position) c =
      match c.stack.push? parent position row schema (c.childStore session row) with
      | .error error => (.error (.navigation error), c.askedForValues row)
      | .ok (id, stack) => (.ok id, { c.askedForValues row with stack }) := by
  have run := push_run c parent position
  generalize perform (push parent position) c = ended at run ⊢
  cases run with
  | refused closed =>
    rw [found] at closed
    cases closed
  | childless again bare answer =>
    obtain ⟨rfl, rfl⟩ := Prod.mk.inj (Except.ok.inj (found.symm.trans again))
    rw [carried] at bare
    cases bare
  | invalid again supplied faulty =>
    obtain ⟨rfl, rfl⟩ := Prod.mk.inj (Except.ok.inj (found.symm.trans again))
    rw [supplied.carried carried, built] at faulty
    cases faulty
  | blocked again supplied rebuilt full =>
    obtain ⟨rfl, rfl⟩ := Prod.mk.inj (Except.ok.inj (found.symm.trans again))
    rw [supplied.carried carried, built] at rebuilt
    obtain rfl := Except.ok.inj rebuilt
    rw [supplied.unasked carried] at full ⊢
    rw [full]
  | opened again supplied rebuilt pushed =>
    obtain ⟨rfl, rfl⟩ := Prod.mk.inj (Except.ok.inj (found.symm.trans again))
    rw [supplied.carried carried, built] at rebuilt
    obtain rfl := Except.ok.inj rebuilt
    rw [supplied.unasked carried] at pushed ⊢
    rw [pushed]

/-- In a reachable controller, the form that a row of the innermost session carries is always valid. A
session is opened for it, unless the limit of nesting is reached; the stack then stays as it is. -/
theorem push_carried {c : Controller σ} (reachable : Reachable c) {top : Session} {rest : List Session}
    (live : c.stack.sessions = top :: rest) {position : Position} {row : Row}
    (there : top.schema.rowAt? position = some row) (recurses : (c.contractFor row).recurses = true)
    {groups : List Group} (carried : row.childGroups? = some groups) :
    (∀ error, (perform (push top.id position) c).1 ≠ .error (.schema error)) ∧
      (top.level < c.config.maxNesting → ∃ schema after,
        Schema.build groups (top.level + 1) = .ok schema ∧
          perform (push top.id position) c = (.ok c.stack.nextId, after) ∧
          after.stack = c.stack.opening top rest position row schema (c.childStore top row)) ∧
      (c.config.maxNesting ≤ top.level → ∃ after,
        perform (push top.id position) c =
            (.error (.navigation (.tooDeep c.config.maxNesting)), after) ∧
          after.stack = c.stack) := by
  have linked := reachable.nested.toLinked
  have free : top.state ≠ .childActive := by
    simp [(linked.free top (top?_eq_some_iff.mpr ⟨rest, live⟩)).active]
  have found := nestingRow_of_free (Stack.get?_of_live linked (live ▸ List.mem_cons_self)) free there recurses
  obtain ⟨consistent, -⟩ := reachable.formed.split live
  obtain ⟨schema, built⟩ : ∃ schema, Schema.build groups (top.level + 1) = .ok schema :=
    consistent.dependable.nested position row groups there carried
  have run := push_of_built found carried built
  rw [Stack.push?_innermost linked live] at run
  have limit := reachable.limit
  by_cases deep : c.stack.maxNesting < top.level + 1
  · rw [if_pos deep, limit] at run
    rw [limit] at deep
    rw [run]
    exact ⟨by simp, fun room => absurd room (Nat.not_lt.mpr (Nat.le_of_lt_succ deep)), fun _ => ⟨_, rfl, rfl⟩⟩
  · rw [if_neg deep] at run
    rw [limit] at deep
    rw [run]
    exact ⟨by simp, fun _ => ⟨schema, _, built, rfl, rfl⟩, fun full => absurd (Nat.lt_succ_of_le full) deep⟩

/-- The address of a person is opened. -/
theorem push_carried_person :
    Reachable personStarted ∧ ∃ root row groups, personStarted.stack.sessions = [root] ∧
      root.schema.rowAt? ⟨0, 1⟩ = some row ∧ (personStarted.contractFor row).recurses = true ∧
      row.childGroups? = some groups ∧
      ∃ after, perform (push root.id ⟨0, 1⟩) personStarted = (.ok 1, after) ∧ after.liveIds = [1, 0] := by
  have reachable : Reachable personStarted := ⟨_, _, _, _, [], start_person, rfl⟩
  refine ⟨reachable, _, _, _, rfl, rfl, rfl, rfl, ?_⟩
  obtain ⟨-, opens, -⟩ := push_carried reachable rfl (show Schema.rowAt? _ ⟨0, 1⟩ = some _ from rfl) rfl rfl
  obtain ⟨schema, after, -, pushed, stack⟩ := opens (by decide)
  exact ⟨after, pushed, by rw [liveIds, stack]; rfl⟩

end Controller

end SettingsForm
