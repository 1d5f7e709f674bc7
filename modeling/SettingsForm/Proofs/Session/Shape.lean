import SettingsForm.Proofs.Session.Course

/-!
# The shape of the stack

Counted from the root, the live sessions have increasing ids and the levels 0, 1, 2 and so on. Each session
but the innermost waits for the next one, and that one names the session, the position and the merge key of
the row from which it was opened. The shape is a reading of the links between neighbours from the root
upwards, so it holds in every run from a start.
-/

namespace SettingsForm

namespace Chain

variable {ground : Session → Prop} {link : Session → Session → Prop} {sessions : List Session}

/-- Neighbours are linked. -/
theorem linked_at (chain : Chain ground link sessions) {i : Nat} {child parent : Session}
    (above : sessions[i]? = some child) (below : sessions[i + 1]? = some parent) : link parent child := by
  induction chain generalizing i with
  | empty => simp at above
  | root grounded => simp at below
  | nested linked chain inductionHypothesis =>
    cases i with
    | zero =>
      obtain rfl := Option.some.inj above
      obtain rfl := Option.some.inj below
      exact linked
    | succ i => exact inductionHypothesis above below

/-- The outermost session is the root. -/
theorem ground_at (chain : Chain ground link sessions) {i : Nat} {session : Session}
    (found : sessions[i]? = some session) (outermost : i + 1 = sessions.length) : ground session := by
  induction chain generalizing i with
  | empty => simp at found
  | root grounded =>
    cases i with
    | zero =>
      obtain rfl := Option.some.inj found
      exact grounded
    | succ i => simp at outermost
  | nested linked chain inductionHypothesis =>
    cases i with
    | zero => simp at outermost
    | succ i => exact inductionHypothesis found (by simpa using outermost)

/-- Counted from the root, each session is linked to the next one. -/
theorem linked_reverse (chain : Chain ground link sessions) {i : Nat} {parent child : Session}
    (below : sessions.reverse[i]? = some parent) (above : sessions.reverse[i + 1]? = some child) :
    link parent child := by
  have inside : i + 1 < sessions.length := by
    have bounded := (List.getElem?_eq_some_iff.mp above).1
    rwa [List.length_reverse] at bounded
  rw [List.getElem?_reverse (by omega)] at below
  rw [List.getElem?_reverse inside] at above
  refine chain.linked_at above ?_
  rwa [show sessions.length - 1 - (i + 1) + 1 = sessions.length - 1 - i by omega]

/-- Counted from the root, the first session is the root. -/
theorem ground_reverse (chain : Chain ground link sessions) {root : Session}
    (first : sessions.reverse[0]? = some root) : ground root := by
  have inside : 0 < sessions.length := by
    have bounded := (List.getElem?_eq_some_iff.mp first).1
    rwa [List.length_reverse] at bounded
  rw [List.getElem?_reverse inside] at first
  exact chain.ground_at first (by omega)

end Chain

namespace Stack

/-- The live sessions, the root first. -/
def fromRoot (stack : Stack) : List Session := stack.sessions.reverse

/-- What a stack looks like, session by session from the root. -/
structure Shaped (stack : Stack) (maxNesting : Nat) : Prop where
  /-- Ids strictly increase. -/
  increasing : stack.fromRoot.Pairwise fun lower upper => lower.id < upper.id
  /-- The innermost session is active and has no session open. -/
  innermost : ∀ top, stack.fromRoot.getLast? = some top → top.state = .active ∧
    ∀ position child, top.active ≠ some (.navigating position child)
  /-- Every other session waits for the next one, which was opened from a row that is still there. -/
  waiting : ∀ i parent child, stack.fromRoot[i]? = some parent → stack.fromRoot[i + 1]? = some child →
    parent.state = .childActive ∧ ∃ position row,
      parent.active = some (.navigating position child.id) ∧
      parent.schema.rowAt? position = some row ∧
      child.origin = some { parent := parent.id, position, mergeKey := row.mergeKey }
  /-- Only the root was opened from no row. -/
  origin : ∀ i session, stack.fromRoot[i]? = some session → (session.origin = none ↔ i = 0)
  level : ∀ (i : Nat) (session : Session), stack.fromRoot[i]? = some session → session.level = i
  bounded : stack.fromRoot.length ≤ maxNesting + 1

/-- Every session is older than those opened after it. -/
theorem increasing_of_chain {ground : Session → Prop} {sessions : List Session}
    (chain : Chain ground Opened sessions) :
    sessions.reverse.Pairwise fun lower upper => lower.id < upper.id := by
  rw [List.pairwise_reverse]
  induction sessions with
  | nil => exact .nil
  | cons top rest inductionHypothesis =>
    exact .cons (older_of_chain chain) (inductionHypothesis chain.tail)

/-- The neighbours of a nested stack are linked, and the row of origin is still there. -/
theorem waiting_at {stack : Stack} (nested : stack.Nested) {i : Nat} {parent child : Session}
    (below : stack.fromRoot[i]? = some parent) (above : stack.fromRoot[i + 1]? = some child) :
    parent.state = .childActive ∧ ∃ position row,
      parent.active = some (.navigating position child.id) ∧
      parent.schema.rowAt? position = some row ∧
      child.origin = some { parent := parent.id, position, mergeKey := row.mergeKey } := by
  have opened : Opened parent child := nested.chain.linked_reverse below above
  have declared : Declared parent child := nested.declared.linked_reverse below above
  obtain ⟨position, key, navigating, origin⟩ := opened.bound
  obtain ⟨row, found, named⟩ := declared.row _ origin
  subst named
  exact ⟨opened.waiting, position, row, navigating, found, origin⟩

/-- Levels count the sessions from the root. -/
theorem level_at {stack : Stack} (nested : stack.Nested) {i : Nat} {session : Session}
    (found : stack.fromRoot[i]? = some session) : session.level = i := by
  induction i generalizing session with
  | zero => exact nested.declared.ground_reverse found
  | succ i inductionHypothesis =>
    have inside : i + 1 < stack.fromRoot.length := (List.getElem?_eq_some_iff.mp found).1
    have below : stack.fromRoot[i]? = some stack.fromRoot[i] := List.getElem?_eq_getElem (by omega)
    have declared : Declared stack.fromRoot[i] session := nested.declared.linked_reverse below found
    rw [declared.deeper, inductionHypothesis below]

/-- A nested stack has the shape that its links describe. -/
theorem Nested.shaped {stack : Stack} (nested : stack.Nested) : stack.Shaped stack.maxNesting where
  increasing := increasing_of_chain nested.chain
  innermost := by
    intro top last
    rw [fromRoot, List.getLast?_reverse] at last
    have free := nested.free top last
    exact ⟨free.active, free.notNavigating⟩
  waiting := fun i parent child below above => waiting_at nested below above
  origin := by
    intro i session found
    cases i with
    | zero => exact iff_of_true (nested.chain.ground_reverse found) rfl
    | succ i =>
      have inside : i + 1 < stack.fromRoot.length := (List.getElem?_eq_some_iff.mp found).1
      have below : stack.fromRoot[i]? = some stack.fromRoot[i] := List.getElem?_eq_getElem (by omega)
      obtain ⟨-, position, row, -, -, named⟩ := waiting_at nested below found
      exact iff_of_false (by simp [named]) (by simp)
  level := fun i session found => level_at nested found
  bounded := by
    rw [fromRoot, List.length_reverse]
    exact nested.shallow

end Stack

namespace Controller

variable {σ : Type} [Host σ]

/-- Whatever is asked of a form, in whatever order and with whatever success, its stack has the same shape,
and it ends for good once all sessions are dismissed. -/
theorem shaped_runs {groups : List Group} {host : σ} {config : Config} {started : Controller σ}
    (start : start groups host config = .ok started) (requests : List (Request σ)) :
    (runs requests started).stack.Shaped config.maxNesting ∧
      ((runs requests started).isFinished = true →
        ∀ more, (runs more (runs requests started)).isFinished = true) := by
  have atStart := nested_of_start start
  have course := moves_runs requests atStart.toLinked
  have nested := course.nested atStart
  constructor
  · obtain ⟨title, schema, input, fallback, -, -, stack⟩ := start_cases start
    have limit : (runs requests started).stack.maxNesting = config.maxNesting := by
      rw [course.maxNesting, stack]
      rfl
    rw [← limit]
    exact nested.shaped
  · intro finished more
    have empty : (runs requests started).stack.sessions = [] := List.isEmpty_iff.mp finished
    exact List.isEmpty_iff.mpr ((moves_runs more nested.toLinked).empty empty)

/-- A session is opened from a row of a form, and then the form is finished. -/
theorem shaped_runs_person :
    (runs [.push 0 ⟨0, 1⟩, .commit "street" (.string "Elm")] personStarted).liveIds = [1, 0] ∧
      (runs [.push 0 ⟨0, 1⟩, .commit "street" (.string "Elm")] personStarted).stack.Shaped 8 ∧
      ∀ more, (runs more (runs [.push 0 ⟨0, 1⟩, .finish] personStarted)).isFinished = true :=
  ⟨rfl, (shaped_runs start_person _).1, (shaped_runs start_person _).2 rfl⟩

end Controller

end SettingsForm
