import SettingsForm.Proofs.Session.Course

/-!
# Waiting sessions

While a nested session is live, its parent and all sessions below lie untouched, whatever happens above
them. The sessions below a live session are therefore a fixed end of the stack: a move either leaves that
end as it is, or dismisses the session, and then its id never comes back.

The dismissal itself changes the parent alone, which takes the edits under the key of its row.
-/

namespace SettingsForm

namespace Stack

/-- A session with an id is live, and the given sessions lie below it. -/
def Above (stack : Stack) (id : SessionId) (base : List Session) : Prop :=
  ∃ nested session, stack.sessions = nested ++ session :: base ∧ session.id = id

/-- An id that was given before and is live after a shift was live before it. -/
theorem Shift.known {stack after : Stack} (shift : Shift stack after) {id : SessionId}
    (given : id < stack.nextId) (live : id ∈ after.sessions.map (·.id)) :
    id ∈ stack.sessions.map (·.id) := by
  cases shift with
  | still => exact live
  | revised sessions inPlace =>
    rw [sessions]
    simpa [inPlace.id] using live
  | extended sessions found deeper room =>
    rw [sessions]
    have older : id ≠ stack.nextId := Nat.ne_of_lt given
    simpa [Session.ofRow, Session.waitFor, older] using live
  | emptied sessions => simp at live
  | resumed sessions key edits =>
    rw [sessions]
    exact List.mem_cons_of_mem _ (by simpa [Session.resume] using live)

/-- Ids are never given back. -/
theorem Shift.nextId {stack after : Stack} (shift : Shift stack after) : stack.nextId ≤ after.nextId := by
  cases shift with
  | extended => exact Nat.le_succ stack.nextId
  | still | revised | emptied | resumed => exact Nat.le_refl _

/-- The sessions that a dismissal leaves are older than the dismissed one. -/
theorem not_live_of_resumed {ground : Session → Prop} {top parent : Session} {below : List Session}
    (chain : Chain ground Opened (top :: parent :: below)) (key : String) (edits : Mapping) :
    top.id ∉ (parent.resume key edits :: below).map (·.id) := by
  intro live
  obtain ⟨left, member, same⟩ := List.mem_map.mp live
  have older : left.id < top.id := by
    rcases List.mem_cons.mp member with rfl | deeper
    · exact older_of_chain chain parent List.mem_cons_self
    · exact older_of_chain chain left (List.mem_cons_of_mem parent deeper)
  exact absurd same (Nat.ne_of_lt older)

/-- As long as a session stays live, what lies below it stays as it is. -/
theorem Shift.above {stack after : Stack} (linked : stack.Linked) (shift : Shift stack after)
    {id : SessionId} {base : List Session} (above : stack.Above id base)
    (live : id ∈ after.sessions.map (·.id)) : after.Above id base := by
  obtain ⟨nested, session, split, rfl⟩ := above
  cases shift with
  | still => exact ⟨nested, session, split, rfl⟩
  | @revised before revised rest sessions inPlace =>
    rw [sessions] at split
    cases nested with
    | nil =>
      obtain ⟨rfl, rfl⟩ := List.cons.inj split
      exact ⟨[], revised, rfl, inPlace.id⟩
    | cons top nested =>
      obtain ⟨rfl, rfl⟩ := List.cons.inj split
      exact ⟨revised :: nested, session, rfl, rfl⟩
  | @extended top rest position row schema store sessions found deeper room =>
    rw [sessions] at split
    cases nested with
    | nil =>
      obtain ⟨rfl, rfl⟩ := List.cons.inj split
      exact ⟨[_], _, rfl, rfl⟩
    | cons first nested =>
      obtain ⟨rfl, rfl⟩ := List.cons.inj split
      exact ⟨_ :: _ :: nested, session, rfl, rfl⟩
  | emptied sessions => simp at live
  | @resumed top parent below sessions key edits =>
    have chain := linked.chain
    rw [sessions] at split chain
    cases nested with
    | nil =>
      -- The session itself was dismissed.
      obtain ⟨rfl, rfl⟩ := List.cons.inj split
      exact absurd live (not_live_of_resumed chain key edits)
    | cons first nested =>
      have rest : parent :: below = nested ++ session :: base := (List.cons.inj split).2
      cases nested with
      | nil =>
        obtain ⟨rfl, rfl⟩ := List.cons.inj rest
        exact ⟨[], _, rfl, rfl⟩
      | cons second nested =>
        obtain ⟨rfl, rfl⟩ := List.cons.inj rest
        exact ⟨_ :: nested, session, rfl, rfl⟩

/-- What is known of a session from its opening on: its id was given, and as long as it is live, the given
sessions lie below it. -/
structure Guards (stack : Stack) (id : SessionId) (base : List Session) : Prop extends Linked stack where
  given : id < stack.nextId
  above : id ∈ stack.sessions.map (·.id) → stack.Above id base

/-- Through any shift of the stack a session lies above the same sessions as long as it is live. -/
theorem Shift.guards {stack after : Stack} (shift : Shift stack after) {id : SessionId}
    {base : List Session} (guards : stack.Guards id base) : after.Guards id base where
  toLinked := shift.linked guards.toLinked
  given := Nat.lt_of_lt_of_le guards.given shift.nextId
  above := fun live => shift.above guards.toLinked (guards.above (shift.known guards.given live)) live

end Stack

namespace Controller

open Operation

variable {σ : Type}

/-- What the host hears of are changes. -/
theorem isChange_of_heard {before after : Controller σ} {event : Event}
    (member : event ∈ heard before after) : event.isChange = true := by
  obtain ⟨call, -, told⟩ := List.mem_filterMap.mp member
  cases call with
  | rowChanged value row =>
    obtain rfl := Option.some.inj told
    rfl
  | _ => simp [HostCall.change?] at told

/-- The innermost session, which has the id, was dismissed: the root leaves no session, and every other one
hands its edits to its parent, while the sessions below the parent stay as they are. -/
def Dismissed (c after : Controller σ) (id : SessionId) : Prop :=
  ∃ top rest, c.stack.sessions = top :: rest ∧ top.id = id ∧
    (rest = [] ∧ after.stack.sessions = [] ∨
      ∃ parent below origin, rest = parent :: below ∧ top.origin = some origin ∧
        after.stack.sessions = parent.resume origin.mergeKey top.edits :: below)

/-- A dismissed session is not live any more. -/
theorem Dismissed.ended {c after : Controller σ} (linked : c.stack.Linked) {id : SessionId}
    (dismissed : Dismissed c after id) : id ∉ after.liveIds := by
  obtain ⟨top, rest, sessions, rfl, outcome⟩ := dismissed
  rcases outcome with ⟨-, emptied⟩ | ⟨parent, below, origin, rfl, -, resumed⟩
  · simp [liveIds, emptied]
  · have chain := linked.chain
    rw [sessions] at chain
    rw [liveIds, resumed]
    exact Stack.not_live_of_resumed chain origin.mergeKey top.edits

/-- Every other session stays live. -/
theorem Dismissed.others {c after : Controller σ} {target id : SessionId}
    (dismissed : Dismissed c after target) (live : id ∈ c.liveIds) (other : id ≠ target) :
    id ∈ after.liveIds := by
  obtain ⟨top, rest, sessions, rfl, outcome⟩ := dismissed
  rcases outcome with ⟨rfl, -⟩ | ⟨parent, below, origin, rfl, -, resumed⟩
  · rw [liveIds, sessions] at live
    simp [other] at live
  · rw [liveIds, sessions] at live
    rw [liveIds, resumed]
    rcases List.mem_cons.mp live with same | deeper
    · exact absurd same other
    · exact deeper

variable [Host σ]

/-- Through any course of moves a session lies above the same sessions as long as it is live. -/
theorem Moves.guards {c after : Controller σ} {events : List Event} (moves : Moves c events after)
    {id : SessionId} {base : List Session} (guards : c.stack.Guards id base) :
    after.stack.Guards id base :=
  moves.keep (fun move => move.shift.guards) guards

/-- Without a dismissal, a live session stays live. -/
theorem Move.live {c after : Controller σ} {events : List Event} (move : Move c events after)
    (undismissed : ∀ dismissal, Event.closed dismissal ∉ events) {id : SessionId}
    (live : id ∈ c.liveIds) : id ∈ after.liveIds := by
  cases move with
  | asked | repeated | hostReplaced | registryReplaced => exact live
  | edited sessions key named =>
    rw [modifyTop_of_sessions sessions]
    rw [liveIds, sessions] at live
    exact live
  | written first found stored changed =>
    obtain ⟨rest, sessions⟩ := top?_eq_some_iff.mp first
    rw [storing, modifyTop_of_sessions sessions]
    rw [liveIds, sessions] at live
    exact live
  | @refreshed top row schema first answer valid =>
    obtain ⟨rest, sessions⟩ := top?_eq_some_iff.mp first
    have kept : (dropStaleEdit { top with schema }).id = top.id := (inPlace_dropStaleEdit _).id
    rw [modifyTop_of_sessions (c := c.consulted top.schema.groups row) sessions]
    rw [liveIds, sessions] at live
    simpa [liveIds, kept] using live
  | @opened top rest position row groups schema input fallback asked sessions found recurses built room =>
    rw [liveIds, sessions] at live
    exact List.mem_cons_of_mem _ live
  | finished sessions => exact absurd List.mem_cons_self (undismissed _)
  | merged sessions opened named => exact absurd List.mem_cons_self (undismissed _)

/-- A session stays live as long as nothing is dismissed. -/
theorem Moves.live {c after : Controller σ} {events : List Event} (moves : Moves c events after)
    (undismissed : ∀ dismissal, Event.closed dismissal ∉ events) {id : SessionId}
    (live : id ∈ c.liveIds) : id ∈ after.liveIds := by
  induction moves with
  | done _ => exact live
  | step move _ inductionHypothesis =>
    have early := move.live (fun dismissal member =>
      undismissed dismissal (List.mem_append_left _ member)) live
    exact inductionHypothesis (fun dismissal member =>
      undismissed dismissal (List.mem_append_right _ member)) early

/-- A session and its dismissal are told by the result of a request. -/
theorem mem_turns {request : Request σ} {c : Controller σ} {event : Event}
    (member : event ∈ request.events c) (turn : event.isChange = false) : event ∈ request.turns c := by
  rcases List.mem_append.mp member with early | late
  · simp [isChange_of_heard early] at turn
  · exact late

/-- Opening a session puts it on top of its parent, which is the innermost session until then. -/
theorem push_opened {c : Controller σ} (linked : c.stack.Linked) {parent child : SessionId}
    {position : Position} (opened : (perform (push parent position) c).1 = .ok child) :
    ∃ top below row schema store, c.stack.sessions = top :: below ∧
      top.schema.rowAt? position = some row ∧ child = c.stack.nextId ∧
      (perform (push parent position) c).2.stack = { c.stack with
        sessions := .ofRow child top.id position row schema store :: top.waitFor position child :: below
        nextId := child + 1 } := by
  have run := push_run c parent position
  generalize perform (push parent position) c = ended at run opened ⊢
  cases run with
  | refused closed => simp at opened
  | childless found bare answer => simp at opened
  | invalid found supplied faulty => simp at opened
  | blocked found supplied built full => simp at opened
  | @opened session row groups schema asked id stack found supplied built pushed =>
    obtain rfl := Except.ok.inj opened
    obtain ⟨get, free, at_, -⟩ := nestingRow_cases found
    obtain ⟨-, rest, live⟩ := Stack.top_of_get? linked get free
    obtain ⟨top, below, sessions, rfl, -, rfl, rfl⟩ := Stack.push?_cases linked pushed
    obtain ⟨rfl, rfl⟩ := List.cons.inj (live.symm.trans sessions)
    exact ⟨session, rest, row, schema, _, sessions, at_, rfl, rfl⟩

/-- A request that opens a session does so from a row of the innermost one. -/
theorem opened_cases {c : Controller σ} (linked : c.stack.Linked) {request : Request σ}
    {child : SessionId} (opened : .opened child ∈ request.events c) :
    ∃ top below position row schema store, c.stack.sessions = top :: below ∧
      top.schema.rowAt? position = some row ∧ child = c.stack.nextId ∧
      (request.run c).stack = { c.stack with
        sessions := .ofRow child top.id position row schema store :: top.waitFor position child :: below
        nextId := child + 1 } := by
  have turn := mem_turns opened rfl
  cases request with
  | push parent position =>
    obtain ⟨id, result, same⟩ := mem_turnOf turn
    obtain rfl := Event.opened.inj same
    obtain ⟨top, below, row, schema, store, told⟩ := push_opened linked result
    exact ⟨top, below, position, row, schema, store, told⟩
  | activate position =>
    rcases activate_cases c position with ⟨session, opens⟩ | ⟨changes, other⟩
    · obtain ⟨after, turns⟩ := turns_of_pushed opens
      rw [turns] at turn
      obtain ⟨id, result, same⟩ := mem_turnOf turn
      obtain rfl := Event.opened.inj same
      obtain ⟨top, below, row, schema, store, told⟩ := push_opened linked result
      rw [Request.run, after]
      exact ⟨top, below, position, row, schema, store, told⟩
    · rw [Request.turns] at turn
      split at turn
      · exact absurd (by assumption) (other _)
      · simp at turn
  | pop session | dismiss =>
    obtain ⟨dismissal, -, same⟩ := mem_turnOf turn
    exact Event.noConfusion same
  | finish => simp [Request.turns] at turn
  | _ => simp [Request.turns] at turn

/-- Only dismissing and finishing dismiss sessions. -/
theorem undismissed {request : Request σ} {c : Controller σ} (pop : ∀ session, request ≠ .pop session)
    (dismiss : request ≠ .dismiss) (finish : request ≠ .finish) (dismissal : Dismissal) :
    Event.closed dismissal ∉ request.events c := by
  intro closed
  have turn := mem_turns closed rfl
  cases request with
  | push parent position =>
    obtain ⟨id, -, same⟩ := mem_turnOf turn
    exact Event.noConfusion same
  | activate position =>
    rw [Request.turns] at turn
    split at turn <;> simp at turn
  | pop session => exact pop session rfl
  | dismiss => exact dismiss rfl
  | finish => exact finish rfl
  | _ => simp [Request.turns] at turn

/-- A dismissal that succeeds dismisses the session that it names. -/
theorem dismissed_of_pop {c : Controller σ} (linked : c.stack.Linked) {id : SessionId} {popped : Popped}
    (accepted : c.stack.pop? id = .ok popped) : Dismissed c (c.afterPop popped) id := by
  obtain ⟨top, rest, sessions, named, outcome⟩ := Stack.pop?_cases linked accepted
  refine ⟨top, rest, sessions, named, ?_⟩
  rcases outcome with ⟨bottom, -, emptied⟩ | ⟨parent, below, origin, nested, -, named, -, resumed⟩
  · exact Or.inl ⟨bottom, congrArg Stack.sessions emptied⟩
  · exact Or.inr ⟨parent, below, origin, nested, named, congrArg Stack.sessions resumed⟩

/-- A dismissal that ends the life of a session dismisses that session. -/
theorem pop_ended {c : Controller σ} (linked : c.stack.Linked) {target id : SessionId}
    (live : id ∈ c.liveIds) (ended : id ∉ (perform (pop target) c).2.liveIds) :
    Dismissed c (perform (pop target) c).2 id := by
  cases accepted : c.stack.pop? target with
  | error error =>
    rw [pop_refused accepted] at ended
    exact absurd live ended
  | ok popped =>
    rw [pop_accepted accepted] at ended ⊢
    have dismissed := dismissed_of_pop linked accepted
    by_cases same : id = target
    · rw [same]
      exact dismissed
    · exact absurd (dismissed.others live same) ended

/-- A request other than to finish ends the life of a session only by dismissing it. -/
theorem request_ended {c : Controller σ} (linked : c.stack.Linked) {request : Request σ}
    (single : request ≠ .finish) {id : SessionId} (live : id ∈ c.liveIds)
    (ended : id ∉ (request.run c).liveIds) : Dismissed c (request.run c) id := by
  by_cases popped : ∃ target, request = .pop target
  · obtain ⟨target, rfl⟩ := popped
    exact pop_ended linked live ended
  · by_cases dismissed : request = .dismiss
    · subst dismissed
      cases sessions : c.stack.sessions with
      | nil => simp [liveIds, sessions] at live
      | cons top rest =>
        rw [Request.run, dismiss_live sessions] at ended ⊢
        exact pop_ended linked live ended
    · have stays := undismissed (c := c) (fun target same => popped ⟨target, same⟩) dismissed single
      exact absurd ((moves_request request linked).live stays live) ended

/-- The innermost session is known by its id. -/
theorem innermost_of_id {stack : Stack} (linked : stack.Linked) {nested rest base : List Session}
    {top session : Session} (whole : stack.sessions = top :: rest)
    (split : stack.sessions = nested ++ session :: base) (same : top.id = session.id) :
    nested = [] ∧ top = session ∧ rest = base := by
  rw [whole] at split
  cases nested with
  | nil => exact ⟨rfl, List.cons.inj split⟩
  | cons first nested =>
    obtain ⟨rfl, lower⟩ := List.cons.inj split
    have chain := linked.chain
    rw [whole, lower] at chain
    have older : session.id < top.id := Stack.older_of_chain chain session (by simp)
    exact absurd same.symm (Nat.ne_of_lt older)

/-- To take the edits of a session that was opened from a row is to be as before, but for the edits. -/
theorem resume_waitFor (parent : Session) (position : Position) (child : SessionId) (key : String)
    (edits : Mapping) :
    (parent.waitFor position child).resume key edits =
      { parent with
        state := .active
        active := none
        store := { parent.store with
          edits :=
            if edits = [] then parent.store.edits
            else Mapping.insert key (.mapping edits) parent.store.edits } } := by
  cases edits with
  | nil => rfl
  | cons entry rest => rfl

/-- From its opening on, a session guards what lies below it. -/
theorem guards_of_opened {c : Controller σ} (linked : c.stack.Linked) {request : Request σ}
    {child : SessionId} (opened : .opened child ∈ request.events c) :
    ∃ parent below position row, c.stack.sessions = parent :: below ∧
      parent.schema.rowAt? position = some row ∧ child ∈ (request.run c).liveIds ∧
      (request.run c).stack.Guards child (parent.waitFor position child :: below) := by
  have after := (moves_request request linked).linked linked
  obtain ⟨parent, below, position, row, schema, store, sessions, found, -, stack⟩ :=
    opened_cases linked opened
  refine ⟨parent, below, position, row, sessions, found, ?_, after, ?_, ?_⟩
  · rw [liveIds, stack]
    exact List.mem_cons_self
  · rw [stack]
    exact Nat.lt_succ_self child
  · intro live
    rw [stack]
    exact ⟨[], _, rfl, rfl⟩

/-- The session right above a waiting one names it, with the key of the row that it waits at. -/
theorem origin_of_waiting {stack : Stack} (nested : stack.Nested) {above below : List Session}
    {session parent : Session} {position : Position} {row : Row}
    (sessions : stack.sessions = above ++ session :: parent.waitFor position session.id :: below)
    (found : parent.schema.rowAt? position = some row) :
    session.origin = some { parent := parent.id, position, mergeKey := row.mergeKey } := by
  have opens := nested.chain
  have declares := nested.declared
  rw [sessions] at opens declares
  cases opens.suffix with
  | nested opened below =>
    cases declares.suffix with
    | nested declared below =>
      obtain ⟨position, key, navigating, origin⟩ := opened.bound
      obtain ⟨rfl, -⟩ := ActiveRow.navigating.inj (Option.some.inj navigating)
      obtain ⟨present, at_, named⟩ := declared.row _ origin
      obtain rfl := Option.some.inj (found.symm.trans at_)
      have sameKey : key = row.mergeKey := named
      rw [origin, sameKey]
      rfl

/-- While a nested session is live, its parent and every session below lie untouched by any request, and
the dismissal that ends its life changes the parent alone. The parent becomes active and busy with no row,
and takes the edits of the nested session under the merge key of the row, if there are any.

The dismissal may be any request that ends the life of the session, except that to finish dismisses several
sessions: it leaves what as many dismissals, one after the other, would leave. -/
theorem frozen_until_dismissed {c : Controller σ} (reachable : Reachable c) {request : Request σ}
    {child : SessionId} (opened : .opened child ∈ request.events c) :
    ∃ parent below position row, c.stack.sessions = parent :: below ∧
      parent.schema.rowAt? position = some row ∧ child ∈ (request.run c).liveIds ∧
      ∀ requests during, runs requests (request.run c) = during → child ∈ during.liveIds →
        (∃ nested session, session.id = child ∧
          during.stack.sessions = nested ++ session ::
            { parent with state := .childActive, active := some (.navigating position child) } :: below ∧
          ∀ last : Request σ, last ≠ .finish → child ∉ (last.run during).liveIds →
            nested = [] ∧
            (last.run during).stack.sessions =
              { parent with
                state := .active
                active := none
                store := { parent.store with
                  edits :=
                    if session.edits = [] then parent.store.edits
                    else Mapping.insert row.mergeKey (.mapping session.edits) parent.store.edits } } ::
              below) ∧
        (∀ dismissal, (perform (pop child) during).1 = .ok dismissal →
          child ∉ ((Request.pop child).run during).liveIds) ∧
        (Request.finish : Request σ).run during =
          runs (List.replicate during.stack.depth .dismiss) during := by
  have linked := reachable.nested.toLinked
  obtain ⟨parent, below, position, row, sessions, found, live, guards⟩ := guards_of_opened linked opened
  refine ⟨parent, below, position, row, sessions, found, live, ?_⟩
  intro requests during run stillLive
  have reached : Reachable during := by
    have further := reachable.runs (request :: requests)
    rwa [runs_cons, run] at further
  have nesting := reached.nested
  have kept : during.stack.Guards child (parent.waitFor position child :: below) := by
    rw [← run]
    exact (moves_runs requests guards.toLinked).guards guards
  refine ⟨?_, ?_, finish_eq_dismisses nesting.toLinked⟩
  · obtain ⟨nested, session, split, rfl⟩ := kept.above stillLive
    refine ⟨nested, session, rfl, split, ?_⟩
    intro last single ended
    obtain ⟨top, rest, whole, same, outcome⟩ := request_ended nesting.toLinked single stillLive ended
    obtain ⟨rfl, rfl, rfl⟩ := innermost_of_id nesting.toLinked whole split same
    refine ⟨rfl, ?_⟩
    rcases outcome with ⟨bottom, -⟩ | ⟨waiting, lower, origin, lowest, named, resumed⟩
    · simp at bottom
    · obtain ⟨rfl, rfl⟩ := List.cons.inj lowest
      have bound := origin_of_waiting nesting split found
      obtain rfl := Option.some.inj (named.symm.trans bound)
      rw [resumed, resume_waitFor]
  · intro dismissal dismissed
    cases accepted : during.stack.pop? child with
    | error error => simp [pop_refused accepted] at dismissed
    | ok popped =>
      rw [Request.run, pop_accepted accepted]
      exact (dismissed_of_pop nesting.toLinked accepted).ended nesting.toLinked

/-- The address of a person is opened, filled in and dismissed. -/
theorem frozen_until_dismissed_person :
    Event.opened 1 ∈ (Request.push 0 ⟨0, 1⟩).events personStarted ∧
      1 ∈ (runs [.push 0 ⟨0, 1⟩, .commit "street" (.string "Elm")] personStarted).liveIds ∧
      1 ∉ (runs [.push 0 ⟨0, 1⟩, .commit "street" (.string "Elm"), .dismiss] personStarted).liveIds ∧
      ∃ parent session : Session, personStarted.stack.sessions = [parent] ∧
        (runs [.push 0 ⟨0, 1⟩, .commit "street" (.string "Elm"), .dismiss] personStarted).stack.sessions =
          [{ parent with
              state := .active
              active := none
              store := { parent.store with
                edits :=
                  if session.edits = [] then parent.store.edits
                  else Mapping.insert "home" (.mapping session.edits) parent.store.edits } }] := by
  have reachable : Reachable personStarted := ⟨_, _, _, _, [], start_person, rfl⟩
  have opened : Event.opened 1 ∈ (Request.push 0 ⟨0, 1⟩).events personStarted := List.mem_cons_self
  have live : 1 ∈ (runs [.push 0 ⟨0, 1⟩, .commit "street" (.string "Elm")] personStarted).liveIds :=
    List.mem_cons_self
  refine ⟨opened, live, by decide, ?_⟩
  obtain ⟨parent, below, position, row, sessions, found, -, frozen⟩ :=
    frozen_until_dismissed reachable opened
  obtain ⟨⟨nested, session, named, split, last⟩, -⟩ :=
    frozen [.commit "street" (.string "Elm")] _ rfl live
  obtain ⟨rfl, dismissed⟩ := last .dismiss (by simp) (by decide)
  obtain ⟨rfl, rfl⟩ := List.cons.inj sessions
  have waiting : some (ActiveRow.navigating ⟨0, 1⟩ 1) = some (.navigating position 1) :=
    congrArg Session.active (List.cons.inj (List.cons.inj split).2).1
  obtain ⟨rfl, -⟩ := ActiveRow.navigating.inj (Option.some.inj waiting)
  obtain rfl := Option.some.inj found
  exact ⟨_, session, rfl, dismissed⟩

end Controller

end SettingsForm
