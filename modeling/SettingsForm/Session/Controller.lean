import SettingsForm.Config
import SettingsForm.Session.Descriptor
import SettingsForm.Session.Host

/-!
# Running a form

A controller holds the stack of sessions, the registry of contracts, the host and the calls made to it.
Reading and writing address the innermost session; opening and dismissing name a session.

Operations are state transformers whose result may be an error. An operation that fails keeps what it did
up to the failure, which for most operations is nothing. Only the refresh of the schema after a change may
fail late: the written value then stays, while the schema is kept as it was.
-/

namespace SettingsForm

/-- A running form together with its host. -/
structure Controller (σ : Type) where
  host : σ
  registry : Registry
  config : Config
  stack : Stack
  /-- The calls made to the host, oldest first. -/
  calls : List HostCall

/-- The result of an accepted commit. -/
structure Outcome where
  key : String
  /-- The converted value, now in effect. -/
  value : Value
  /-- The value was not in effect before. -/
  changed : Bool
  /-- The host changed the schema in response. -/
  refreshed : Bool
  deriving Repr

/-- The result of activating a row. -/
inductive Activation where
  /-- An edit was opened for a key. -/
  | editing (key : String)
  /-- A nested session was opened. -/
  | pushed (session : SessionId)
  /-- The action fired. -/
  | fired
  /-- One of these choices is to be picked. -/
  | choose (choices : List ChoiceDescriptor)
  /-- A value was committed right away. -/
  | committed (outcome : Outcome)
  /-- The host handled a custom row. -/
  | handled
  /-- Nothing happened. -/
  | inert

/-- An operation of a controller: it may change the controller, also when it fails. -/
abbrev Operation (σ α : Type) := ExceptT SettingsError (StateM (Controller σ)) α

/-- The row declared for a key, or the row after which an indexed key is named. -/
def Schema.resolve? (schema : Schema) (key : String) : Option Row :=
  (schema.rowFor? key).or do
    let indexed ← IndexedKey.decode? key
    let row ← schema.rowFor? indexed.name
    if row.isPersisted then some row else none

namespace Controller

variable {σ : Type} [Host σ]

/-! ## Reading -/

/-- All sessions were dismissed. -/
def isFinished (c : Controller σ) : Bool := c.stack.isEmpty

/-- The innermost session, if one is live. -/
def top? (c : Controller σ) : Option Session := c.stack.top?

/-- The innermost session. -/
def current (c : Controller σ) : Except SettingsError Session :=
  match c.top? with
  | some session => .ok session
  | none => .error (.navigation (.dismissed c.stack.lastId))

/-- The live session with an id. -/
def session (c : Controller σ) (id : SessionId) : Except SettingsError Session :=
  (c.stack.get? id).mapError .navigation

/-- The row at a position of the innermost session, if one stands there. -/
def rowAt? (c : Controller σ) (position : Position) : Option Row :=
  c.top?.bind (·.schema.rowAt? position)

/-- The row for an identifier or an indexed key. -/
def rowFor? (c : Controller σ) (key : String) : Option Row := c.top?.bind (·.schema.resolve? key)

/-- The position of the row that an identifier leads to. -/
def positionOf? (c : Controller σ) (identifier : String) : Option Position :=
  c.top?.bind (·.schema.positionOf? identifier)

/-- The value in effect for a key. What a row declares counts only for the row's own identifier. -/
def effective? (c : Controller σ) (key : String) : Option Value := do
  let session ← c.top?
  match session.schema.resolve? key with
  | some row =>
    if row.identifier = key then some (session.store.effective key row.declaredValue)
    else session.store.get? key
  | none => session.store.get? key

/-- The values of the indexed keys of a name. -/
def indexed (c : Controller σ) (name : String) : List (Nat × Value) :=
  c.top?.elim [] (·.store.indexed name)

/-- The edits of the innermost session. -/
def edits (c : Controller σ) : Except SettingsError Mapping := do .ok (← c.current).edits

/-- The key of the row being edited. -/
def editing? (c : Controller σ) : Option String := c.top?.bind Session.editing?

/-- The contract of a row. For a custom row the host is asked first. -/
def contractFor (c : Controller σ) (row : Row) : Contract :=
  let ofType := c.registry.contractFor row.rowType
  if row.rowType = .custom then (Host.customContract row c.host).getD ofType else ofType

/-- The row is being edited, or a nested session was opened from it. -/
def isActive (session : Session) (position : Position) (row : Row) : Bool :=
  match session.active with
  | some (.editing key) => key = row.identifier
  | some (.navigating origin _) => origin = position
  | none => false

/-- The key under which a row keeps its value: nesting rows keep theirs under the merge key. -/
def storageKey (row : Row) : String := if row.rowType.isNesting then row.mergeKey else row.identifier

/-- What is told of a row to those who show it. -/
def describe (c : Controller σ) (session : Session) (position : Position) (row : Row) : RowDescriptor :=
  let key := storageKey row
  { position
    name := row.name
    identifier := row.identifier
    rowType := row.rowType
    interaction := (c.contractFor row).interaction
    value := session.store.effective key row.declaredValue
    editable := row.editable
    keyboard := row.keyboard
    flags := row.flags
    dirty := key ≠ "" && session.store.isDirty key
    active := isActive session position row
    height := if row.rowType = .custom then Host.customHeight row c.host else none }

/-- The row at a position of the innermost session. -/
def rowAt (c : Controller σ) (position : Position) : Except SettingsError Row := do
  match (← c.current).schema.rowAt? position with
  | some row => .ok row
  | none => .error (.unknownPosition position)

/-- The descriptor of the row at a position of the innermost session. -/
def descriptor (c : Controller σ) (position : Position) : Except SettingsError RowDescriptor := do
  let session ← c.current
  let row ← c.rowAt position
  .ok (c.describe session position row)

/-- The descriptors of all groups of the innermost session. -/
def sections (c : Controller σ) : Except SettingsError (List Section) := do
  let session ← c.current
  .ok <| session.schema.groups.zipIdx.map fun (group, g) =>
    { title := group.title
      key := group.key
      header := group.header
      footer := group.footer
      rows := group.rows.zipIdx.map fun (row, r) => c.describe session ⟨g, r⟩ row }

/-- The choices of a row, absent when it has none. -/
def choices? (c : Controller σ) (key : String) : Option (List ChoiceDescriptor) := do
  let session ← c.top?
  let row ← session.schema.resolve? key
  let inEffect := session.store.effective key row.declaredValue
  if row.choices.isEmpty then none
  else some <| row.choices.zipIdx.map fun (choice, index) =>
    { index, name := choice.name, value := choice.value, selected := choice.value == inEffect }

/-- The row and contract for writing to a key. The row bears the key as its identifier. -/
def writableRow (c : Controller σ) (key : String) : Except SettingsError (Row × Contract) := do
  let session ← c.current
  match session.schema.resolve? key with
  | none => .error (.unknownRow key)
  | some row =>
    if !row.editable then .error (.readOnly key)
    else if !(c.contractFor row).persisted then .error (.coercion (.notPersisted key))
    else .ok ({ row with identifier := key }, c.contractFor row)

/-! ## Changing the controller -/

/-- Changes the innermost session. -/
def modifyTop (c : Controller σ) (change : Session → Session) : Controller σ :=
  { c with stack := c.stack.modifyTop change }

/-- Records calls to the host. -/
def record (c : Controller σ) (calls : List HostCall) : Controller σ :=
  { c with calls := c.calls ++ calls }

/-- Puts a question to the host and records it. -/
def ask {α : Type} (call : HostCall) (question : σ → α × σ) : Operation σ α := do
  let c ← get
  let (answer, host) := question c.host
  set { c.record [call] with host }
  return answer

/-- Tells the host something and records it. -/
def tell (call : HostCall) (notice : σ → σ) : Operation σ Unit :=
  ask call fun host => ((), notice host)

/-- Reads something that may fail. -/
def query {α : Type} (read : Controller σ → Except SettingsError α) : Operation σ α := do
  liftExcept (read (← get))
where
  /-- A result as an operation that changes nothing. -/
  liftExcept : Except SettingsError α → Operation σ α
    | .ok value => pure value
    | .error error => throw error

/-- What the innermost session's schema becomes. -/
def refreshed (schema : Schema) : Refresh → Except SchemaError Schema
  | .unchanged => .ok schema
  | .groups groups => schema.replaceGroups groups
  | .rows key rows => schema.replaceRows key rows

/-- An open edit ends when no row is left for its key. -/
def dropStaleEdit (session : Session) : Session :=
  match session.editing? with
  | some key => if (session.schema.resolve? key).isNone then session.withEditing none else session
  | none => session

/-- Lets the host refresh the schema after a change, and tells whether it did. -/
def refreshSchema (row : Row) : Operation σ Bool := do
  match (← get).top? with
  | none => return false
  | some session =>
    let refresh ← ask (.refreshSchema session.schema.groups row)
      (Host.refreshSchema session.schema.groups row)
    match refresh with
    | .unchanged => return false
    | refresh =>
      match refreshed session.schema refresh with
      | .error error => throw (.schema error)
      | .ok schema =>
        modify (·.modifyTop fun session => dropStaleEdit { session with schema })
        return true

/-- Writes a value to a key of the innermost session. If it is accepted, the host hears of the change and
may then refresh the schema. -/
def commit (key : String) (raw : Value) : Operation σ Outcome := do
  let (row, contract) ← query (·.writableRow key)
  let session ← query current
  let lenient := (← get).config.lenientStrings
  match session.store.commit key row contract raw lenient with
  | .error error => throw (.coercion error)
  | .ok (committed, store) =>
    modify (·.modifyTop fun session => { session with store })
    let outcome : Outcome :=
      { key, value := committed.value, changed := committed.changed, refreshed := false }
    if committed.changed ∨ (← get).config.notifyUnchanged then
      tell (.rowChanged committed.value row) (Host.rowChanged committed.value row)
      let refreshed ← refreshSchema row
      return { outcome with refreshed }
    else return outcome

/-- Opens an edit of a key, in place of any other. -/
def beginEdit (key : String) : Operation σ Unit := do
  let _ ← query (·.writableRow key)
  modify (·.modifyTop (·.withEditing (some key)))

/-- Ends the edit without writing anything. -/
def cancelEdit : Operation σ Unit := do
  let _ ← query (current (σ := σ))
  modify (·.modifyTop (·.withEditing none))

/-- Commits a value to the row being edited and ends the edit. A refused value keeps it open. -/
def commitEdit (raw : Value) : Operation σ Outcome := do
  match (← get).editing? with
  | none => throw (.navigation .noActiveEdit)
  | some key =>
    let outcome ← commit key raw
    if (← get).editing? = some key then
      modify (·.modifyTop (·.withEditing none))
    return outcome

/-- Commits the value of one of a row's choices. -/
def selectChoice (key : String) (index : Nat) : Operation σ Outcome := do
  match ((← get).rowFor? key).bind (·.choices[index]?) with
  | some choice => commit key choice.value
  | none => throw (.coercion (.noChoiceAt key index))

/-- The row at a position from which a nested session of a parent may be opened. -/
def nestingRow (c : Controller σ) (parent : SessionId) (position : Position) :
    Except SettingsError (Session × Row) := do
  let session ← c.session parent
  if session.state = .childActive then .error (.navigation (.childActive parent))
  else
    match session.schema.rowAt? position with
    | none => .error (.unknownPosition position)
    | some row =>
      if (c.contractFor row).recurses then .ok (session, row)
      else .error (.navigation (.notNavigable row.mergeKey))

/-- The nested form of a nesting row: the row's own or else the host's. -/
def nestedGroups (row : Row) : Operation σ (List Group) := do
  match row.childGroups? with
  | some groups => return groups
  | none =>
    match ← ask (.rowsForChild row) (Host.rowsForChild row) with
    | some groups => return groups
    | none => throw (.navigation (.noChildSchema row.mergeKey))

/-- Opens a nested session for the nesting row at a position of a parent. The input values are the host's
or else the parent's nested value. -/
def push (parent : SessionId) (position : Position) : Operation σ SessionId := do
  let (session, row) ← query (·.nestingRow parent position)
  let groups ← nestedGroups row
  match Schema.build groups (session.level + 1) with
  | .error error => throw (.schema error)
  | .ok schema =>
    let supplied ← ask (.childValues row) (Host.childValues row)
    let nested := session.store.nestedEffective? row.mergeKey
    let store := Store.ofValues ((supplied.or nested).getD [])
      ((session.store.nestedFallback? row.mergeKey).getD [])
    match (← get).stack.push? parent position row schema store with
    | .error error => throw (.navigation error)
    | .ok (id, stack) =>
      modify ({ · with stack })
      return id

/-- Dismisses a session. The host is told before and after its edits are handed over. -/
def pop (id : SessionId) : Operation σ Dismissal := do
  match (← get).stack.pop? id with
  | .error error => throw (.navigation error)
  | .ok popped =>
    tell (.willDismiss popped.before) (Host.willDismiss popped.before)
    modify ({ · with stack := popped.stack })
    match popped.dismissal with
    | .error error => throw (.navigation error)
    | .ok dismissal =>
      tell (.didDismiss popped.after) (Host.didDismiss popped.after)
      return dismissal

/-- Dismisses the innermost session. -/
def dismiss : Operation σ Dismissal := do
  let session ← query (current (σ := σ))
  pop session.id

/-- Dismisses the innermost session at most so many times, until the root is dismissed. -/
def dismissUpTo : Nat → Operation σ Mapping
  | 0 => do throw (.navigation (.dismissed (← get).stack.lastId))
  | most + 1 => do
    match ← dismiss with
    | .finished edits => return edits
    | .merged _ _ _ => dismissUpTo most

/-- Dismisses every session, innermost first, and returns the edits of the root. Each dismissal leaves one
session less, so there are at most as many as there are sessions. -/
def finish : Operation σ Mapping := do dismissUpTo (← get).stack.depth

/-- Activates the row at a position, as its contract says. -/
def activate (position : Position) : Operation σ Activation := do
  let session ← query (current (σ := σ))
  let row ← query (·.rowAt position)
  let c ← get
  let contract := c.contractFor row
  if contract.recurses then return .pushed (← push session.id position)
  match contract.interaction with
  | .trigger =>
    tell (.action row) (Host.action row)
    return .fired
  | .custom =>
    let handled ← ask (.customSelect row) (Host.customSelect row)
    return if handled then .handled else .inert
  | interaction =>
    if !row.editable ∨ row.identifier = "" then return .inert
    match interaction with
    | .display => return .inert
    | .selection =>
      if row.rowType = .choice then return .committed (← commit row.identifier row.declaredValue)
      else return .choose ((c.choices? row.identifier).getD [])
    | .toggle =>
      let isOn := ((c.effective? row.identifier).bind Value.asBool?).getD false
      return .committed (← commit row.identifier (.bool !isOn))
    | _ =>
      beginEdit row.identifier
      return .editing row.identifier

/-- Asks the host to delete the row at a position, and tells whether it did. -/
def deleteRow (position : Position) : Operation σ Bool := do
  let row ← query (·.rowAt position)
  ask (.deleteRow row) (Host.deleteRow row)

/-- Reports that the row at a position was laid out. -/
def didLayout (position : Position) : Operation σ Unit := do
  let row ← query (·.rowAt position)
  tell (.laidOut row) (Host.laidOut row)

/-- Reports that the row at a position was touched. -/
def touch (position : Position) : Operation σ Unit := do
  let row ← query (·.rowAt position)
  tell (.touched row) (Host.touched row)

/-- Starts a run with a root session. The schema is validated before the host is asked for values. -/
def start (groups : List Group) (host : σ) (config : Config) : Except SchemaError (Controller σ) := do
  let schema ← Schema.build groups 0
  let (input, host) := Host.initialValues host
  let (fallback, host) := Host.defaultValues host
  let title := (groups.head?.map (·.title)).getD ""
  .ok {
    host
    registry := .empty
    config
    stack := .ofRoot title schema (.ofValues input fallback) config.maxNesting
    calls := [.initialValues, .defaultValues] }

end Controller

end SettingsForm
