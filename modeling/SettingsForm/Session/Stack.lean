import SettingsForm.Schema.Basic
import SettingsForm.Session.Error
import SettingsForm.Store.Basic

/-!
# The stack of sessions

Sessions are nested: only the innermost one takes edits, and each session below it waits for the one that
was opened from one of its rows. `Stack.push?` opens a session on top of the innermost one. `Stack.pop?`
dismisses the innermost session, hands its edits to its parent, and reports the session as it was before
and after that. An operation that is refused leaves nothing changed, because it returns no stack. A
dismissal that is not refused takes its session away before it looks for the parent, which might be gone.

Ids are natural numbers; no stack is taken to open more sessions than 64-bit numbers can tell apart.
-/

namespace SettingsForm

/-- Where a session stands between its opening and its dismissal. -/
inductive SessionState where
  /-- Built but not yet shown. -/
  | created
  /-- The innermost session. -/
  | active
  /-- A nested session is open on top of this one. -/
  | childActive
  /-- Its edits are being handed to its parent. -/
  | dismissing
  /-- Gone. -/
  | dismissed
  deriving DecidableEq, Repr

/-- The one row that a session is busy with. -/
inductive ActiveRow where
  /-- The row stored under a key is being edited. -/
  | editing (key : String)
  /-- A nested session was opened from the row at a position. -/
  | navigating (position : Position) (child : SessionId)
  deriving DecidableEq, Repr

/-- Where the edits of a nested session go. -/
structure Origin where
  parent : SessionId
  /-- The row of the parent from which the session was opened. -/
  position : Position
  /-- The key of the parent that receives the edits. -/
  mergeKey : String
  deriving DecidableEq, Repr

/-- A form that is being filled in: its rows, its values, what is going on in it, and the row that it was
opened from. -/
structure Session where
  id : SessionId
  title : String
  schema : Schema
  store : Store
  state : SessionState
  active : Option ActiveRow
  origin : Option Origin

namespace Session

/-- The nesting level; the root has level 0. -/
def level (session : Session) : Nat := session.schema.level

/-- The edits made so far. -/
def edits (session : Session) : Mapping := session.store.edits

/-- The key of the row that is being edited. -/
def editing? (session : Session) : Option String :=
  match session.active with
  | some (.editing key) => some key
  | _ => none

/-- The session that this one was opened from. -/
def parent? (session : Session) : Option SessionId := session.origin.map (·.parent)

/-- The row that is being edited becomes another one, or none. -/
def withEditing (session : Session) (key : Option String) : Session :=
  { session with active := key.map .editing }

/-- The session takes the edits of its nested session back and becomes the innermost one. -/
def resume (session : Session) (key : String) (edits : Mapping) : Session :=
  { session with store := session.store.mergeChild key edits, state := .active, active := none }

end Session

/-- What became of the edits of a dismissed session. -/
inductive Dismissal where
  /-- They were stored in the parent under a key. -/
  | merged (parent : SessionId) (key : String) (edits : Mapping)
  /-- The root was dismissed; these are the edits of the whole run. -/
  | finished (edits : Mapping)
  deriving Repr

/-- The live sessions, innermost first. -/
structure Stack where
  sessions : List Session
  nextId : SessionId
  maxNesting : Nat

/-- The outcome of dismissing a session: the session just before and just after, what became of its edits,
and the other sessions. -/
structure Popped where
  before : Session
  after : Session
  /-- An error if the parent is no longer live. -/
  dismissal : Except NavigationError Dismissal
  stack : Stack

namespace Stack

/-- A stack that holds a root session only. -/
def ofRoot (title : String) (schema : Schema) (store : Store) (maxNesting : Nat) : Stack :=
  { sessions := [{ id := 0, title, schema, store, state := .active, active := none, origin := none }]
    nextId := 1
    maxNesting }

/-- The number of live sessions. -/
def depth (stack : Stack) : Nat := stack.sessions.length

/-- No session is live. -/
def isEmpty (stack : Stack) : Bool := stack.sessions.isEmpty

/-- The innermost session. -/
def top? (stack : Stack) : Option Session := stack.sessions.head?

/-- The id given last. -/
def lastId (stack : Stack) : SessionId := stack.nextId - 1

/-- The live session with an id. -/
def get? (stack : Stack) (id : SessionId) : Except NavigationError Session :=
  match stack.sessions.find? (·.id = id) with
  | some session => .ok session
  | none => .error (.dismissed id)

/-- Changes the innermost session. -/
def modifyTop (stack : Stack) (change : Session → Session) : Stack :=
  { stack with sessions := stack.sessions.modifyHead change }

/-- Changes the first session with an id. -/
def modifyFirst (id : SessionId) (change : Session → Session) : List Session → List Session
  | [] => []
  | session :: rest =>
    if session.id = id then change session :: rest else session :: modifyFirst id change rest

/-- Opens a session for the nesting row at a position of its parent. The bound is compared with the level that
follows the parent's, which has to be a 64-bit number as all levels are. -/
def push? (stack : Stack) (parent : SessionId) (position : Position) (row : Row) (schema : Schema)
    (store : Store) : Except NavigationError (SessionId × Stack) := do
  let session ← stack.get? parent
  if session.state = .childActive then throw (.childActive parent)
  if stack.maxNesting < session.level + 1 then throw (.tooDeep stack.maxNesting)
  let id := stack.nextId
  let child : Session :=
    { id, title := row.name, schema, store, state := .active, active := none
      origin := some { parent, position, mergeKey := row.mergeKey } }
  let wait (session : Session) : Session :=
    { session with state := .childActive, active := some (.navigating position id) }
  .ok (id, { stack with
    sessions := child :: modifyFirst parent wait stack.sessions
    nextId := id + 1 })

/-- Dismisses a session, which must be the innermost one. -/
def pop? (stack : Stack) (id : SessionId) : Except NavigationError Popped := do
  let session ← stack.get? id
  if session.state = .childActive then throw (.childActive id)
  match stack.sessions with
  | [] => throw (.dismissed id)
  | top :: rest =>
    if top.id ≠ id then throw (.notOnTop id)
    let before := { top with state := .dismissing, active := none }
    let after := { before with state := .dismissed }
    let left := { stack with sessions := rest }
    match top.origin with
    | none => .ok { before, after, dismissal := .ok (.finished top.edits), stack := left }
    | some origin =>
      .ok {
        before, after
        dismissal := (left.get? origin.parent).map fun _ =>
          .merged origin.parent origin.mergeKey top.edits
        stack := { left with
          sessions := modifyFirst origin.parent (·.resume origin.mergeKey top.edits) rest } }

end Stack

end SettingsForm
