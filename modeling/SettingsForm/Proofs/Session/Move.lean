import SettingsForm.Proofs.Schema.Build
import SettingsForm.Proofs.Session.Commit
import SettingsForm.Proofs.Session.Nesting
import SettingsForm.Proofs.Session.Request

/-!
# The moves of a controller

Every operation is a sequence of moves. A move asks the host something, changes the innermost session in
place, opens a session from it, or dismisses it; a written value and the notice of it are one move. What
holds of a start and is kept by every move therefore holds in all reachable controllers.

Moves speak of the innermost session alone. That operations make no other moves relies on the links of the
stack, which the moves keep.
-/

namespace SettingsForm

namespace Event

/-- The host heard this itself. -/
def isChange : Event → Bool
  | changed _ _ => true
  | opened _ | closed _ => false

end Event

namespace Controller

variable {σ : Type} [Host σ]

/-- One step of an operation, with what can be noticed of it. -/
inductive Move : Controller σ → List Event → Controller σ → Prop where
  /-- The host is asked something other than to hear of a change. -/
  | asked {c : Controller σ} (call : HostCall) (host : σ) (other : call.change? = none) :
      Move c [] { c.record [call] with host }
  /-- An edit is opened for a key that has a row, or the open edit ends. -/
  | edited {c : Controller σ} {top : Session} {rest : List Session}
      (live : c.stack.sessions = top :: rest) (key : Option String)
      (named : ∀ present, key = some present → (top.schema.resolve? present).isSome) :
      Move c [] (c.modifyTop (·.withEditing key))
  /-- A converted value that was not in effect is written, and the host hears of it. -/
  | written {c : Controller σ} {top : Session} {key : String} {row : Row} {contract : Contract}
      {raw : Value} {committed : Committed} {store : Store}
      (first : c.top? = some top) (found : c.writableRow key = .ok (row, contract))
      (stored : top.store.commit key row contract raw c.config.lenientStrings = .ok (committed, store))
      (changed : committed.changed = true) :
      Move c [.changed committed.value row] ((c.storing store).announced committed.value row)
  /-- The host hears of a value that was in effect already, as the configuration wants. -/
  | repeated {c : Controller σ} (value : Value) (row : Row)
      (wanted : c.config.notifyUnchanged = true) :
      Move c [.changed value row] (c.announced value row)
  /-- The host is asked for another schema, which takes the place of the innermost session's. -/
  | refreshed {c : Controller σ} {top : Session} {row : Row} {schema : Schema}
      (first : c.top? = some top) (answer : c.advice top.schema.groups row ≠ .unchanged)
      (valid : refreshed top.schema (c.advice top.schema.groups row) = .ok schema) :
      Move c [] ((c.consulted top.schema.groups row).modifyTop
        fun session => dropStaleEdit { session with schema })
  /-- A session is opened from a row of the innermost one. The contract of that row recurses, by what some
  host says of it. -/
  | opened {c : Controller σ} {top : Session} {rest : List Session} {position : Position} {row : Row}
      {groups : List Group} {schema : Schema} (input fallback : Mapping) (asked : σ)
      (live : c.stack.sessions = top :: rest) (found : top.schema.rowAt? position = some row)
      (recurses : (contractFor { c with host := asked } row).recurses = true)
      (built : Schema.build groups (top.level + 1) = .ok schema)
      (room : top.level + 1 ≤ c.stack.maxNesting) :
      Move c [.opened c.stack.nextId] { c with stack := { c.stack with
        sessions := .ofRow c.stack.nextId top.id position row schema (.ofValues input fallback) ::
          top.waitFor position c.stack.nextId :: rest
        nextId := c.stack.nextId + 1 } }
  /-- The root is dismissed. -/
  | finished {c : Controller σ} {root : Session} (live : c.stack.sessions = [root]) :
      Move c [.closed (.finished root.edits)] { c with stack := { c.stack with sessions := [] } }
  /-- A nested session is dismissed and hands its edits to its parent. -/
  | merged {c : Controller σ} {top parent : Session} {below : List Session} {origin : Origin}
      (live : c.stack.sessions = top :: parent :: below) (opened : Opened parent top)
      (named : top.origin = some origin) :
      Move c [.closed (.merged parent.id origin.mergeKey top.edits)] { c with stack := { c.stack with
        sessions := parent.resume origin.mergeKey top.edits :: below } }
  /-- The host is replaced from outside. -/
  | hostReplaced {c : Controller σ} (host : σ) : Move c [] { c with host }
  /-- The registry is replaced from outside. -/
  | registryReplaced {c : Controller σ} (registry : Registry) : Move c [] { c with registry }

/-- At most one thing can be noticed of a move. -/
theorem Move.events {c after : Controller σ} {events : List Event} (move : Move c events after) :
    events = [] ∨ ∃ event, events = [event] := by
  cases move with
  | written | repeated | opened | finished | merged => exact Or.inr ⟨_, rfl⟩
  | _ => exact Or.inl rfl

/-- A sequence of moves, with all that can be noticed of it. -/
inductive Moves : Controller σ → List Event → Controller σ → Prop where
  | done (c : Controller σ) : Moves c [] c
  | step {c middle after : Controller σ} {events more : List Event} (first : Move c events middle)
      (rest : Moves middle more after) : Moves c (events ++ more) after

namespace Moves

/-- One move is a course of moves. -/
theorem single {c after : Controller σ} {events : List Event} (move : Move c events after) :
    Moves c events after := by
  have course := step move (done after)
  rwa [List.append_nil] at course

/-- Courses of moves follow one another, and so do their events. -/
theorem trans {c middle after : Controller σ} {events more : List Event}
    (first : Moves c events middle) (second : Moves middle more after) :
    Moves c (events ++ more) after := by
  induction first with
  | done _ => exact second
  | step move _ inductionHypothesis =>
    rw [List.append_assoc]
    exact step move (inductionHypothesis second)

/-- Whatever can be noticed of a sequence of moves belongs to one of them. -/
theorem around {c after : Controller σ} {before more : List Event} {event : Event}
    (moves : Moves c (before ++ event :: more) after) :
    ∃ middle reached, Moves c before middle ∧ Move middle [event] reached ∧ Moves reached more after := by
  generalize split : before ++ event :: more = events at moves
  induction moves generalizing before with
  | done c => simp at split
  | @step c middle after events late move rest inductionHypothesis =>
    rcases move.events with rfl | ⟨noticed, rfl⟩
    · obtain ⟨start, reached, earlier, found, later⟩ := inductionHypothesis split
      exact ⟨start, reached, .step move earlier, found, later⟩
    · cases before with
      | nil =>
        obtain ⟨rfl, rfl⟩ := List.cons.inj split
        exact ⟨c, middle, .done c, move, rest⟩
      | cons first before =>
        obtain ⟨rfl, remaining⟩ := List.cons.inj split
        obtain ⟨start, reached, earlier, found, later⟩ := inductionHypothesis remaining
        exact ⟨start, reached, .step move earlier, found, later⟩

/-- A property that every move keeps is kept by every sequence of moves. -/
theorem keep {property : Controller σ → Prop}
    (kept : ∀ {c after : Controller σ} {events : List Event},
      Move c events after → property c → property after)
    {c after : Controller σ} {events : List Event} (moves : Moves c events after)
    (holds : property c) : property after := by
  induction moves with
  | done _ => exact holds
  | step move _ inductionHypothesis => exact inductionHypothesis (kept move holds)

end Moves

/-! ## What moves keep -/

/-- A refresh keeps the level of the schema. -/
theorem refreshed_level {schema after : Schema} {refresh : Refresh}
    (valid : refreshed schema refresh = .ok after) : after.level = schema.level := by
  cases refresh with
  | unchanged =>
    obtain rfl := Except.ok.inj valid
    rfl
  | groups groups => exact (Schema.build_cases valid).2.2.1
  | rows key rows =>
    obtain ⟨g, index, -, -, rfl⟩ := Schema.replaceRows_cases valid
    rfl

/-- To open or to end an edit changes a session in place. -/
theorem inPlace_withEditing (session : Session) (key : Option String) :
    session.InPlace (session.withEditing key) where
  id := rfl
  origin := rfl
  level := rfl
  free := by
    intro free
    exact ⟨free.active, by cases key <;> simp [Session.withEditing]⟩

/-- To store a value changes a session in place. -/
theorem inPlace_store (session : Session) (store : Store) :
    session.InPlace { session with store } :=
  ⟨rfl, rfl, rfl, fun free => ⟨free.active, free.notNavigating⟩⟩

/-- To drop an edit whose row is gone changes a session in place. -/
theorem inPlace_dropStaleEdit (session : Session) : session.InPlace (dropStaleEdit session) := by
  rcases dropStaleEdit_cases session with same | ⟨-, ended⟩
  · rw [same]
    exact ⟨rfl, rfl, rfl, id⟩
  · rw [ended]
    exact inPlace_withEditing session none

/-- To refresh the rows changes a session in place, since the level of the schema stays. -/
theorem inPlace_refreshed {session : Session} {schema : Schema} {refresh : Refresh}
    (valid : refreshed session.schema refresh = .ok schema) :
    session.InPlace (dropStaleEdit { session with schema }) := by
  have dropped := inPlace_dropStaleEdit { session with schema }
  exact ⟨dropped.id, dropped.origin, dropped.level.trans (refreshed_level valid),
    fun free => dropped.free ⟨free.active, free.notNavigating⟩⟩

/-- Every move shifts the stack at the innermost session, or leaves it. -/
theorem Move.shift {c after : Controller σ} {events : List Event} (move : Move c events after) :
    Stack.Shift c.stack after.stack := by
  cases move with
  | asked | repeated | hostReplaced | registryReplaced => exact .still _
  | edited live key named =>
    rw [modifyTop_of_sessions live]
    exact .revised live (inPlace_withEditing _ _)
  | @written top key row contract raw committed store first found stored changed =>
    obtain ⟨rest, live⟩ := top?_eq_some_iff.mp first
    rw [storing, modifyTop_of_sessions live]
    exact .revised live (inPlace_store _ _)
  | @refreshed top row schema first answer valid =>
    obtain ⟨rest, live⟩ := top?_eq_some_iff.mp first
    rw [modifyTop_of_sessions (c := c.consulted top.schema.groups row) live]
    exact .revised live (inPlace_refreshed valid)
  | opened input fallback asked live found recurses built room =>
    exact .extended live found (Schema.build_cases built).2.2.1 room
  | finished live => exact .emptied live
  | merged live opened named => exact .resumed live _ _

/-- The configuration stays as it is. -/
theorem Move.config {c after : Controller σ} {events : List Event} (move : Move c events after) :
    after.config = c.config := by
  cases move <;> rfl

/-- The calls recorded during a move tell of exactly the changes that can be noticed of it. -/
theorem Move.calls {c after : Controller σ} {events : List Event} (move : Move c events after) :
    ∃ calls, after.calls = c.calls ++ calls ∧
      calls.filterMap HostCall.change? = events.filter Event.isChange := by
  cases move with
  | asked call host other => exact ⟨[call], rfl, by simp [other]⟩
  | written => exact ⟨_, rfl, rfl⟩
  | repeated value row wanted => exact ⟨_, rfl, rfl⟩
  | refreshed first answer valid => exact ⟨_, rfl, rfl⟩
  | edited | opened | finished | merged | hostReplaced | registryReplaced =>
    exact ⟨[], (List.append_nil _).symm, rfl⟩

namespace Moves

/-- Sessions stay linked along any course of moves. -/
theorem linked {c after : Controller σ} {events : List Event} (moves : Moves c events after)
    (linked : c.stack.Linked) : after.stack.Linked :=
  moves.keep (fun move => move.shift.linked) linked

/-- Sessions stay nested along any course of moves. -/
theorem nested {c after : Controller σ} {events : List Event} (moves : Moves c events after)
    (nested : c.stack.Nested) : after.stack.Nested :=
  moves.keep (fun move => move.shift.nested) nested

/-- The limit of nesting stays as it is. -/
theorem maxNesting {c after : Controller σ} {events : List Event} (moves : Moves c events after) :
    after.stack.maxNesting = c.stack.maxNesting :=
  moves.keep (fun move same => move.shift.maxNesting.trans same) rfl

/-- Once all sessions are dismissed, none is ever opened again. -/
theorem empty {c after : Controller σ} {events : List Event} (moves : Moves c events after)
    (empty : c.stack.sessions = []) : after.stack.sessions = [] :=
  moves.keep (fun move => move.shift.empty) empty

/-- What the host heard during a sequence of moves are the changes among what can be noticed. -/
theorem heard {c after : Controller σ} {events : List Event} (moves : Moves c events after) :
    heard c after = events.filter Event.isChange := by
  have recorded : ∃ calls, after.calls = c.calls ++ calls ∧
      calls.filterMap HostCall.change? = events.filter Event.isChange := by
    induction moves with
    | done c => exact ⟨[], (List.append_nil _).symm, rfl⟩
    | step move _ inductionHypothesis =>
      obtain ⟨first, reached, changes⟩ := move.calls
      obtain ⟨second, ended, others⟩ := inductionHypothesis
      refine ⟨first ++ second, ?_, ?_⟩
      · rw [ended, reached, List.append_assoc]
      · rw [List.filterMap_append, List.filter_append, changes, others]
  obtain ⟨calls, ended, changes⟩ := recorded
  rw [Controller.heard, ended, List.drop_left, changes]

end Moves

end Controller

end SettingsForm
