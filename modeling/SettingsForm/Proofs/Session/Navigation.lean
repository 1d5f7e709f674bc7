import SettingsForm.Proofs.Session.Commit

/-!
# Opening and dismissing

`PushRun` lists the ways in which opening a nested session can end. The host may be asked for the nested
form and for input values before the session is refused, so a failure may leave another host behind, but
never another stack. A dismissal is either refused without any call or tells the host before the edits are
handed over and, once they were, again.

Where nothing is replaced, a nested session may be opened from the nesting rows and no others.
-/

namespace SettingsForm

/-- What the host is told of a dismissal: before the edits are handed over, and after if they were. -/
def Popped.notices (popped : Popped) : List HostCall :=
  .willDismiss popped.before ::
    match popped.dismissal with
    | .ok _ => [.didDismiss popped.after]
    | .error _ => []

namespace Controller

open Operation

variable {σ : Type}

/-- A live session is found by its id. -/
theorem session_of_get? {c : Controller σ} {id : SessionId} {session : Session}
    (live : c.stack.get? id = .ok session) : c.session id = .ok session := by
  rw [Controller.session, live]
  rfl

/-- A session that is gone is reported as an error of navigation. -/
theorem session_error {c : Controller σ} {id : SessionId} {error : NavigationError}
    (gone : c.stack.get? id = .error error) : c.session id = .error (.navigation error) := by
  rw [Controller.session, gone]
  rfl

variable [Host σ]

/-- The host was asked for the nested form of a row. -/
def askedForRows (c : Controller σ) (row : Row) : Controller σ :=
  { c.record [.rowsForChild row] with host := (Host.rowsForChild row c.host).2 }

/-- The host was asked for the input values of a nested session. -/
def askedForValues (c : Controller σ) (row : Row) : Controller σ :=
  { c.record [.childValues row] with host := (Host.childValues row c.host).2 }

/-- Where the nested form of a row comes from: the row itself, else the host. -/
inductive Supplies (c : Controller σ) (row : Row) : List Group → Controller σ → Prop where
  | own {groups : List Group} (carried : row.childGroups? = some groups) : Supplies c row groups c
  | host {groups : List Group} (bare : row.childGroups? = none)
      (answer : (Host.rowsForChild row c.host).1 = some groups) :
      Supplies c row groups (c.askedForRows row)

/-- The values that a nested session starts from: what the host supplies, else the nested value of the
parent, and the nested fallback of the parent. -/
def childStore (c : Controller σ) (parent : Session) (row : Row) : Store :=
  .ofValues
    (((Host.childValues row c.host).1.or (parent.store.nestedEffective? row.mergeKey)).getD [])
    ((parent.store.nestedFallback? row.mergeKey).getD [])

/-- The ways in which opening a nested session can end. -/
inductive PushRun (c : Controller σ) (parent : SessionId) (position : Position) :
    Except SettingsError SessionId × Controller σ → Prop where
  /-- The parent takes no nested session at the position. -/
  | refused {error : SettingsError} (closed : c.nestingRow parent position = .error error) :
      PushRun c parent position (.error error, c)
  /-- Neither the row nor the host has a nested form. -/
  | childless {session : Session} {row : Row}
      (found : c.nestingRow parent position = .ok (session, row)) (bare : row.childGroups? = none)
      (answer : (Host.rowsForChild row c.host).1 = none) :
      PushRun c parent position
        (.error (.navigation (.noChildSchema row.mergeKey)), c.askedForRows row)
  /-- The nested form is not valid. -/
  | invalid {session : Session} {row : Row} {groups : List Group} {asked : Controller σ}
      {error : SchemaError} (found : c.nestingRow parent position = .ok (session, row))
      (supplied : Supplies c row groups asked)
      (faulty : Schema.build groups (session.level + 1) = .error error) :
      PushRun c parent position (.error (.schema error), asked)
  /-- The stack takes no further session. -/
  | blocked {session : Session} {row : Row} {groups : List Group} {schema : Schema}
      {asked : Controller σ} {error : NavigationError}
      (found : c.nestingRow parent position = .ok (session, row))
      (supplied : Supplies c row groups asked)
      (built : Schema.build groups (session.level + 1) = .ok schema)
      (full : c.stack.push? parent position row schema (asked.childStore session row) = .error error) :
      PushRun c parent position (.error (.navigation error), asked.askedForValues row)
  | opened {session : Session} {row : Row} {groups : List Group} {schema : Schema}
      {asked : Controller σ} {id : SessionId} {stack : Stack}
      (found : c.nestingRow parent position = .ok (session, row))
      (supplied : Supplies c row groups asked)
      (built : Schema.build groups (session.level + 1) = .ok schema)
      (pushed : c.stack.push? parent position row schema (asked.childStore session row) =
        .ok (id, stack)) :
      PushRun c parent position (.ok id, { asked.askedForValues row with stack })

/-- Being asked for a nested form leaves the stack. -/
theorem Supplies.stack {c asked : Controller σ} {row : Row} {groups : List Group}
    (supplied : Supplies c row groups asked) : asked.stack = c.stack := by
  cases supplied <;> rfl

/-- The form that a row carries is the one that is supplied. -/
theorem Supplies.carried {c asked : Controller σ} {row : Row} {groups own : List Group}
    (supplied : Supplies c row groups asked) (carried : row.childGroups? = some own) : groups = own := by
  cases supplied with
  | own same => exact Option.some.inj (same.symm.trans carried)
  | host bare answer =>
    rw [carried] at bare
    cases bare

/-- A form that a row carries is not asked for. -/
theorem Supplies.unasked {c asked : Controller σ} {row : Row} {groups own : List Group}
    (supplied : Supplies c row groups asked) (carried : row.childGroups? = some own) : asked = c := by
  cases supplied with
  | own same => rfl
  | host bare answer =>
    rw [carried] at bare
    cases bare

/-- A live session without an open child opens the nesting row at a position that has one. -/
theorem nestingRow_of_free {c : Controller σ} {parent : SessionId} {position : Position}
    {session : Session} {row : Row} (live : c.stack.get? parent = .ok session)
    (free : session.state ≠ .childActive) (there : session.schema.rowAt? position = some row)
    (recurses : (c.contractFor row).recurses = true) :
    c.nestingRow parent position = .ok (session, row) := by
  simp [nestingRow, session_of_get? live, bind, Except.bind, free, there, recurses]

/-- A nested session may be opened from a live session that has none open, at a row whose contract
recurses. -/
theorem nestingRow_cases {c : Controller σ} {parent : SessionId} {position : Position}
    {session : Session} {row : Row} (found : c.nestingRow parent position = .ok (session, row)) :
    c.stack.get? parent = .ok session ∧ session.state ≠ .childActive ∧
      session.schema.rowAt? position = some row ∧ (c.contractFor row).recurses = true := by
  cases live : c.stack.get? parent with
  | error error =>
    simp [nestingRow, session_error live, bind, Except.bind] at found
  | ok present =>
    simp only [nestingRow, session_of_get? live, bind, Except.bind] at found
    by_cases busy : present.state = .childActive
    · simp [busy] at found
    · rw [if_neg busy] at found
      cases at_ : present.schema.rowAt? position with
      | none => simp [at_] at found
      | some declared =>
        simp only [at_] at found
        by_cases recurses : (c.contractFor declared).recurses = true
        · rw [if_pos recurses] at found
          obtain ⟨rfl, rfl⟩ := Prod.mk.inj (Except.ok.inj found)
          exact ⟨rfl, busy, at_, recurses⟩
        · simp [recurses] at found

/-- The nested form is found, or the row carries none and the host has none. -/
theorem nestedGroups_run (c : Controller σ) (row : Row) :
    (∃ groups asked, Supplies c row groups asked ∧
        perform (nestedGroups row) c = (.ok groups, asked)) ∨
      row.childGroups? = none ∧ (Host.rowsForChild row c.host).1 = none ∧
        perform (nestedGroups row) c =
          (.error (.navigation (.noChildSchema row.mergeKey)), c.askedForRows row) := by
  cases carried : row.childGroups? with
  | some groups =>
    refine Or.inl ⟨groups, c, .own carried, ?_⟩
    simp only [nestedGroups, carried, perform_pure]
  | none =>
    simp only [nestedGroups, carried, perform_bind, perform_ask]
    cases answer : (Host.rowsForChild row c.host).1 with
    | some groups => exact Or.inl ⟨groups, _, .host carried answer, rfl⟩
    | none => exact Or.inr ⟨trivial, rfl, rfl⟩

/-- Opening a nested session ends in one of the listed ways. -/
theorem push_run (c : Controller σ) (parent : SessionId) (position : Position) :
    PushRun c parent position (perform (push parent position) c) := by
  cases found : c.nestingRow parent position with
  | error error =>
    rw [push, perform_query_error found]
    exact .refused found
  | ok nesting =>
    obtain ⟨session, row⟩ := nesting
    rw [push, perform_query_ok found]
    rcases nestedGroups_run c row with ⟨groups, asked, supplied, answered⟩ | ⟨bare, answer, failed⟩
    · simp only [perform_bind_ok answered]
      cases built : Schema.build groups (session.level + 1) with
      | error error => exact .invalid found supplied built
      | ok schema =>
        simp only [perform_bind, perform_ask, perform_get]
        have same : (asked.askedForValues row).stack.push? parent position row schema
            (asked.childStore session row) =
              c.stack.push? parent position row schema (asked.childStore session row) :=
          congrArg (fun stack : Stack => stack.push? parent position row schema
            (asked.childStore session row)) supplied.stack
        cases pushed : c.stack.push? parent position row schema (asked.childStore session row) with
        | error error =>
          rw [pushed] at same
          simp only [childStore, askedForValues] at same
          simp only [same]
          exact .blocked found supplied built pushed
        | ok opened =>
          obtain ⟨id, stack⟩ := opened
          rw [pushed] at same
          simp only [childStore, askedForValues] at same
          simp only [same]
          exact .opened found supplied built pushed
    · simp only [perform_bind_error failed]
      exact .childless found bare answer

/-- A dismissal that the stack refuses calls nobody. -/
theorem pop_refused {c : Controller σ} {id : SessionId} {error : NavigationError}
    (refused : c.stack.pop? id = .error error) :
    perform (pop id) c = (.error (.navigation error), c) := by
  rw [pop, perform_get_bind, refused]
  rfl

/-- The controller after a dismissal: the host heard of it before the edits were handed over and, if they
were, after. -/
def afterPop (c : Controller σ) (popped : Popped) : Controller σ :=
  { c with
    stack := popped.stack
    host := match popped.dismissal with
      | .ok _ => Host.didDismiss popped.after (Host.willDismiss popped.before c.host)
      | .error _ => Host.willDismiss popped.before c.host
    calls := c.calls ++ popped.notices }

/-- Once the edits were handed over, the host has heard of the dismissal twice. -/
theorem afterPop_ok {c : Controller σ} {popped : Popped} {dismissal : Dismissal}
    (handed : popped.dismissal = .ok dismissal) :
    c.afterPop popped = { c with
      stack := popped.stack
      host := Host.didDismiss popped.after (Host.willDismiss popped.before c.host)
      calls := c.calls ++ [.willDismiss popped.before] ++ [.didDismiss popped.after] } := by
  rw [afterPop, Popped.notices, handed, List.append_assoc]
  rfl

/-- An accepted dismissal tells the host of it and reports whether its edits could be merged. -/
theorem pop_accepted {c : Controller σ} {id : SessionId} {popped : Popped}
    (accepted : c.stack.pop? id = .ok popped) :
    perform (pop id) c = (popped.dismissal.mapError .navigation, c.afterPop popped) := by
  obtain ⟨before, after, dismissal, stack⟩ := popped
  rw [pop, perform_get_bind, accepted]
  cases dismissal with
  | error error => rfl
  | ok dismissal =>
    rw [afterPop_ok rfl]
    rfl

/-- Dismissing addresses the innermost session. -/
theorem dismiss_live {c : Controller σ} {top : Session} {rest : List Session}
    (live : c.stack.sessions = top :: rest) : perform dismiss c = perform (pop top.id) c := by
  have current : c.current = .ok top := current_of_top (top?_eq_some_iff.mpr ⟨rest, live⟩)
  rw [dismiss, perform_query_ok current]

/-- With nothing left to dismiss, a dismissal names the last session and changes nothing. -/
theorem dismiss_empty {c : Controller σ} (empty : c.stack.sessions = []) :
    perform dismiss c = (.error (.navigation (.dismissed c.stack.lastId)), c) := by
  have current : c.current = .error (.navigation (.dismissed c.stack.lastId)) := by
    simp [current, top?, Stack.top?, empty]
  rw [dismiss, perform_query_error current]

end Controller

/-! ## Without replacements -/

/-- No contract is replaced. -/
def Registry.Plain (registry : Registry) : Prop := ∀ rowType, registry.override? rowType = none

/-- The host replaces no contract and leaves every schema alone. -/
structure Host.Passive (σ : Type) [Host σ] : Prop where
  contracts : ∀ (row : Row) (host : σ), Host.customContract row host = none
  schemas : ∀ (groups : List Group) (row : Row) (host : σ),
    (Host.refreshSchema groups row host).1 = .unchanged

/-- A host of fixed values lets every change stand. -/
theorem StaticHost.passive : Host.Passive StaticHost := ⟨fun _ _ => rfl, fun _ _ _ => rfl⟩

/-- Of the built-in row types, those that nest recurse. -/
theorem Contract.recurses_builtin (rowType : RowType) : (builtin rowType).recurses = rowType.isNesting := by
  cases rowType <;> rfl

/-- Each row has the contract of its type. -/
theorem Controller.contractFor_plain {σ : Type} [Host σ] {c : Controller σ} (passive : Host.Passive σ)
    (plain : c.registry.Plain) (row : Row) : c.contractFor row = Contract.builtin row.rowType := by
  simp only [contractFor, Registry.contractFor, plain row.rowType, passive.contracts, Option.getD_none,
    ite_self]

end SettingsForm
