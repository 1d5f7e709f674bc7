import SettingsForm.Session.Stack

/-!
# Nested sessions

A stack is linked when every session but the innermost one waits for the session above it, and that session
names it as its origin. The links are what an operation on the stack relies on: only the innermost session
can be opened from or dismissed, and the session that takes its edits back is the one just below it.

A nested stack is linked, its levels count from the root, and every session still has the row from which
the session above it was opened. Opening, dismissing and changing the innermost session in place keep both.
-/

namespace SettingsForm

/-- Sessions, innermost first. The root has one property, and every other session stands in a relation to
the one below it. -/
inductive Chain (ground : Session → Prop) (link : Session → Session → Prop) : List Session → Prop where
  | empty : Chain ground link []
  | root {session : Session} (grounded : ground session) : Chain ground link [session]
  | nested {child parent : Session} {rest : List Session} (linked : link parent child)
      (below : Chain ground link (parent :: rest)) : Chain ground link (child :: parent :: rest)

namespace Chain

variable {ground : Session → Prop} {link : Session → Session → Prop}

/-- A chain stays one without its innermost session. -/
theorem tail {session : Session} {rest : List Session} (chain : Chain ground link (session :: rest)) :
    Chain ground link rest := by
  cases chain with
  | root grounded => exact .empty
  | nested linked below => exact below

/-- The sessions at the lower end are a chain, too. -/
theorem suffix {above rest : List Session} (chain : Chain ground link (above ++ rest)) :
    Chain ground link rest := by
  induction above with
  | nil => exact chain
  | cons session above inductionHypothesis => exact inductionHypothesis chain.tail

/-- The innermost session may be replaced by one that has the same relations to what is below it. -/
theorem replace {before after : Session} {rest : List Session}
    (chain : Chain ground link (before :: rest)) (grounded : ground before → ground after)
    (linked : ∀ parent, link parent before → link parent after) : Chain ground link (after :: rest) := by
  cases chain with
  | root atRoot => exact .root (grounded atRoot)
  | nested atParent below => exact .nested (linked _ atParent) below

end Chain

/-- A parent waits for the child that was opened from one of its rows, and the child names the parent. -/
structure Opened (parent child : Session) : Prop where
  older : parent.id < child.id
  waiting : parent.state = .childActive
  bound : ∃ position key, parent.active = some (.navigating position child.id) ∧
    child.origin = some { parent := parent.id, position, mergeKey := key }

/-- The parent's schema still has the row from which the child was opened, and the child lies one level
deeper. -/
structure Declared (parent child : Session) : Prop where
  deeper : child.level = parent.level + 1
  row : ∀ origin, child.origin = some origin →
    ∃ row, parent.schema.rowAt? origin.position = some row ∧ origin.mergeKey = row.mergeKey

namespace Session

/-- No session is open on top of this one. -/
structure Free (session : Session) : Prop where
  active : session.state = .active
  notNavigating : ∀ position child, session.active ≠ some (.navigating position child)

/-- A change of a session that leaves its place among the sessions. -/
structure InPlace (before after : Session) : Prop where
  id : after.id = before.id
  origin : after.origin = before.origin
  level : after.level = before.level
  free : before.Free → after.Free

/-- The session, once it waits for a session opened from one of its rows. -/
def waitFor (session : Session) (position : Position) (child : SessionId) : Session :=
  { session with state := .childActive, active := some (.navigating position child) }

/-- A session newly opened from a row of its parent. -/
def ofRow (id : SessionId) (parent : SessionId) (position : Position) (row : Row) (schema : Schema)
    (store : Store) : Session :=
  { id, title := row.name, schema, store, state := .active, active := none
    origin := some { parent, position, mergeKey := row.mergeKey } }

end Session

namespace Stack

/-- Every session waits for the one above it, the innermost one is free, and ids yet to be given are new. -/
structure Linked (stack : Stack) : Prop where
  chain : Chain (·.origin = none) Opened stack.sessions
  free : ∀ top, stack.top? = some top → top.Free
  fresh : ∀ session ∈ stack.sessions, session.id < stack.nextId

/-- A linked stack whose levels count from the root, whose rows of origin are still there, and which is not
too deep. -/
structure Nested (stack : Stack) : Prop extends Linked stack where
  declared : Chain (·.level = 0) Declared stack.sessions
  shallow : stack.depth ≤ stack.maxNesting + 1

/-- Every session below the innermost one has a session open. -/
theorem waiting_of_chain {ground : Session → Prop} {top : Session} {rest : List Session}
    (chain : Chain ground Opened (top :: rest)) : ∀ session ∈ rest, session.state = .childActive := by
  induction rest generalizing top with
  | nil => simp
  | cons parent below inductionHypothesis =>
    cases chain with
    | nested opened chain =>
      intro session member
      rcases List.mem_cons.mp member with rfl | deeper
      · exact opened.waiting
      · exact inductionHypothesis chain session deeper

/-- Ids grow from the root to the innermost session. -/
theorem older_of_chain {ground : Session → Prop} {top : Session} {rest : List Session}
    (chain : Chain ground Opened (top :: rest)) : ∀ session ∈ rest, session.id < top.id := by
  induction rest generalizing top with
  | nil => simp
  | cons parent below inductionHypothesis =>
    cases chain with
    | nested opened chain =>
      intro session member
      rcases List.mem_cons.mp member with rfl | deeper
      · exact opened.older
      · exact Nat.lt_trans (inductionHypothesis chain session deeper) opened.older

/-- The level of the innermost session is the number of sessions below it. -/
theorem level_of_chain {top : Session} {rest : List Session}
    (chain : Chain (·.level = 0) Declared (top :: rest)) : top.level = rest.length := by
  induction rest generalizing top with
  | nil =>
    cases chain with
    | root ground => exact ground
  | cons parent below inductionHypothesis =>
    cases chain with
    | nested declared chain => rw [declared.deeper, inductionHypothesis chain, List.length_cons]

/-- A look-up finds a live session, of the number that was looked up. -/
theorem mem_of_get? {stack : Stack} {id : SessionId} {session : Session}
    (found : stack.get? id = .ok session) : session ∈ stack.sessions ∧ session.id = id := by
  unfold get? at found
  split at found
  · rename_i present
    obtain rfl := Except.ok.inj found
    exact ⟨List.mem_of_find?_eq_some present, by simpa using List.find?_some present⟩
  · simp at found

/-- A live session without an open child is the innermost one. -/
theorem top_of_get? {stack : Stack} (linked : stack.Linked) {id : SessionId} {session : Session}
    (found : stack.get? id = .ok session) (free : session.state ≠ .childActive) :
    session.id = id ∧ ∃ rest, stack.sessions = session :: rest := by
  obtain ⟨member, named⟩ := mem_of_get? found
  refine ⟨named, ?_⟩
  have chain := linked.chain
  cases sessions : stack.sessions with
  | nil => simp [sessions] at member
  | cons top rest =>
    rw [sessions] at member chain
    rcases List.mem_cons.mp member with rfl | below
    · exact ⟨rest, rfl⟩
    · exact absurd (waiting_of_chain chain session below) free

/-- A session is opened from the innermost session only, and not beyond the limit. It lies on top from then
on, under an id that was not given before, and its parent waits. -/
theorem push?_cases {stack after : Stack} (linked : stack.Linked) {parent id : SessionId}
    {position : Position} {row : Row} {schema : Schema} {store : Store}
    (pushed : stack.push? parent position row schema store = .ok (id, after)) :
    ∃ top rest, stack.sessions = top :: rest ∧ top.id = parent ∧ top.level + 1 ≤ stack.maxNesting ∧
      id = stack.nextId ∧ after = { stack with
        sessions := .ofRow id parent position row schema store :: top.waitFor position id :: rest
        nextId := id + 1 } := by
  cases found : stack.get? parent with
  | error error => simp [push?, found, bind, Except.bind] at pushed
  | ok top =>
    simp only [push?, found, bind, Except.bind] at pushed
    by_cases busy : top.state = .childActive
    · simp [busy, throw, throwThe, MonadExceptOf.throw] at pushed
    · by_cases deep : stack.maxNesting < top.level + 1
      · simp [busy, deep, throw, throwThe, MonadExceptOf.throw] at pushed
      · obtain ⟨rfl, rest, sessions⟩ := top_of_get? linked found busy
        simp only [busy, deep, ↓reduceIte, sessions, modifyFirst, Except.ok.injEq,
          Prod.mk.injEq] at pushed
        obtain ⟨rfl, rfl⟩ := pushed
        exact ⟨top, rest, sessions, rfl, Nat.le_of_not_lt deep, rfl, rfl⟩

/-- The limit of nesting is all that keeps a session from being opened from the innermost one. -/
theorem push?_innermost {stack : Stack} (linked : stack.Linked) {top : Session} {rest : List Session}
    (live : stack.sessions = top :: rest) (position : Position) (row : Row) (schema : Schema)
    (store : Store) :
    stack.push? top.id position row schema store =
      if stack.maxNesting < top.level + 1 then .error (.tooDeep stack.maxNesting)
      else .ok (stack.nextId, { stack with
        sessions := .ofRow stack.nextId top.id position row schema store ::
          top.waitFor position stack.nextId :: rest
        nextId := stack.nextId + 1 }) := by
  have free : top.Free := linked.free top (by simp [top?, live])
  have found : stack.get? top.id = .ok top := by simp [get?, live]
  by_cases deep : stack.maxNesting < top.level + 1
  · simp [push?, found, bind, Except.bind, free.active, deep, throw, throwThe, MonadExceptOf.throw]
  · simp only [push?, found, bind, Except.bind, free.active, deep, live, modifyFirst, ↓reduceIte,
      reduceCtorEq]
    rfl

/-- Only the innermost session is dismissed. The root hands its edits to nobody; every other session hands
them to the session just below it, which is still live and takes edits again. -/
theorem pop?_cases {stack : Stack} (linked : stack.Linked) {id : SessionId} {popped : Popped}
    (dismissed : stack.pop? id = .ok popped) :
    ∃ top rest, stack.sessions = top :: rest ∧ top.id = id ∧
      (rest = [] ∧ popped.dismissal = .ok (.finished top.edits) ∧
          popped.stack = { stack with sessions := [] } ∨
        ∃ parent below origin, rest = parent :: below ∧ Opened parent top ∧ top.origin = some origin ∧
          popped.dismissal = .ok (.merged parent.id origin.mergeKey top.edits) ∧
          popped.stack =
            { stack with sessions := parent.resume origin.mergeKey top.edits :: below }) := by
  cases found : stack.get? id with
  | error error => simp [pop?, found, bind, Except.bind] at dismissed
  | ok session =>
    simp only [pop?, found, bind, Except.bind] at dismissed
    by_cases busy : session.state = .childActive
    · simp [busy, throw, throwThe, MonadExceptOf.throw] at dismissed
    · obtain ⟨rfl, rest, sessions⟩ := top_of_get? linked found busy
      have chain := linked.chain
      rw [sessions] at chain
      simp only [busy, ↓reduceIte, sessions, ne_eq, not_true_eq_false] at dismissed
      refine ⟨session, rest, sessions, rfl, ?_⟩
      cases chain with
      | root ground =>
        simp only [ground, Except.ok.injEq] at dismissed
        subst dismissed
        exact Or.inl ⟨rfl, rfl, rfl⟩
      | @nested _ parent below opened chain =>
        obtain ⟨position, key, navigating, origin⟩ := opened.bound
        simp only [origin, Except.ok.injEq] at dismissed
        subst dismissed
        refine Or.inr ⟨parent, below, _, rfl, opened, origin, ?_, ?_⟩
        · simp [get?, Except.map]
        · simp [modifyFirst]

/-- The edits of a dismissed session are never lost for want of a parent. -/
theorem pop?_reported {stack : Stack} (linked : stack.Linked) {id : SessionId} {popped : Popped}
    (dismissed : stack.pop? id = .ok popped) : ∃ dismissal, popped.dismissal = .ok dismissal := by
  obtain ⟨top, rest, -, -, ⟨-, finished, -⟩ | ⟨parent, below, origin, -, -, -, merged, -⟩⟩ :=
    pop?_cases linked dismissed
  · exact ⟨_, finished⟩
  · exact ⟨_, merged⟩

/-! ## What keeps the links -/

/-- A stack that holds a root session only is linked. -/
theorem linked_ofRoot (title : String) (schema : Schema) (store : Store) (maxNesting : Nat) :
    (ofRoot title schema store maxNesting).Linked where
  chain := .root rfl
  free := by
    intro top first
    obtain rfl := Option.some.inj first
    exact ⟨rfl, by simp⟩
  fresh := by simp [ofRoot]

/-- A stack of one session at the ground level is nested. -/
theorem nested_ofRoot (title : String) (schema : Schema) (store : Store) (maxNesting : Nat)
    (ground : schema.level = 0) : (ofRoot title schema store maxNesting).Nested where
  toLinked := linked_ofRoot title schema store maxNesting
  declared := .root ground
  shallow := by simp [ofRoot, depth]

/-- Without sessions there is nothing to link. -/
theorem nested_of_empty {stack : Stack} (none : stack.sessions = []) : stack.Nested where
  chain := none ▸ .empty
  free := by simp [top?, none]
  fresh := by simp [none]
  declared := none ▸ .empty
  shallow := by simp [depth, none]

/-- Changing the innermost session in place keeps all links. -/
theorem Linked.revise {stack : Stack} (linked : stack.Linked) {before after : Session}
    {rest : List Session} (live : stack.sessions = before :: rest) (inPlace : before.InPlace after) :
    Linked { stack with sessions := after :: rest } where
  chain := by
    have chain := linked.chain
    rw [live] at chain
    refine chain.replace (fun ground => inPlace.origin.trans ground) ?_
    intro parent opened
    obtain ⟨position, key, navigating, origin⟩ := opened.bound
    exact ⟨inPlace.id ▸ opened.older, opened.waiting,
      position, key, inPlace.id ▸ navigating, inPlace.origin ▸ origin⟩
  free := by
    intro top first
    obtain rfl := Option.some.inj first
    exact inPlace.free (linked.free before (by simp [top?, live]))
  fresh := by
    intro session member
    have bounded := linked.fresh
    rw [live] at bounded
    rcases List.mem_cons.mp member with rfl | below
    · exact inPlace.id ▸ bounded before List.mem_cons_self
    · exact bounded session (List.mem_cons_of_mem before below)

/-- Changing the innermost session in place keeps the nesting. -/
theorem Nested.revise {stack : Stack} (nested : stack.Nested) {before after : Session}
    {rest : List Session} (live : stack.sessions = before :: rest) (inPlace : before.InPlace after) :
    Nested { stack with sessions := after :: rest } where
  toLinked := nested.toLinked.revise live inPlace
  declared := by
    have chain := nested.declared
    rw [live] at chain
    refine chain.replace (fun ground => inPlace.level.trans ground) ?_
    intro parent declared
    exact ⟨inPlace.level.trans declared.deeper,
      fun origin named => declared.row origin (inPlace.origin.symm.trans named)⟩
  shallow := by
    have shallow := nested.shallow
    simp only [depth, live, List.length_cons] at shallow ⊢
    exact shallow

/-- Opening a session from the innermost one links the two. -/
theorem Linked.extend {stack : Stack} (linked : stack.Linked) {top : Session} {rest : List Session}
    (live : stack.sessions = top :: rest) (position : Position) (row : Row) (schema : Schema)
    (store : Store) :
    Linked { stack with
      sessions := .ofRow stack.nextId top.id position row schema store ::
        top.waitFor position stack.nextId :: rest
      nextId := stack.nextId + 1 } where
  chain := by
    have chain := linked.chain
    rw [live] at chain
    have older : top.id < stack.nextId := linked.fresh top (by simp [live])
    refine .nested ⟨older, rfl, position, row.mergeKey, rfl, rfl⟩ (chain.replace id ?_)
    exact fun parent opened => ⟨opened.older, opened.waiting, opened.bound⟩
  free := by
    intro child first
    obtain rfl := Option.some.inj first
    exact ⟨rfl, by simp [Session.ofRow]⟩
  fresh := by
    intro session member
    have bounded := linked.fresh
    rw [live] at bounded
    rcases List.mem_cons.mp member with rfl | member
    · exact Nat.lt_succ_self stack.nextId
    · rcases List.mem_cons.mp member with rfl | below
      · exact Nat.lt_succ_of_lt (bounded top List.mem_cons_self)
      · exact Nat.lt_succ_of_lt (bounded session (List.mem_cons_of_mem top below))

/-- The limit of nesting bounds the level of the new session, hence the number of sessions. -/
theorem Nested.extend {stack : Stack} (nested : stack.Nested) {top : Session} {rest : List Session}
    (live : stack.sessions = top :: rest) {position : Position} {row : Row} {schema : Schema}
    (store : Store) (found : top.schema.rowAt? position = some row)
    (deeper : schema.level = top.level + 1) (room : top.level + 1 ≤ stack.maxNesting) :
    Nested { stack with
      sessions := .ofRow stack.nextId top.id position row schema store ::
        top.waitFor position stack.nextId :: rest
      nextId := stack.nextId + 1 } where
  toLinked := nested.toLinked.extend live position row schema store
  declared := by
    have chain := nested.declared
    rw [live] at chain
    refine .nested ⟨deeper, ?_⟩ (chain.replace id fun parent declared => ⟨declared.deeper, declared.row⟩)
    intro origin named
    obtain rfl := Option.some.inj named
    exact ⟨row, found, rfl⟩
  shallow := by
    have level : top.level = rest.length := level_of_chain (live ▸ nested.declared)
    simp only [depth, List.length_cons]
    omega

/-- Handing the edits of the innermost session to the session below it frees that session. -/
theorem Linked.resume {stack : Stack} (linked : stack.Linked) {top parent : Session}
    {below : List Session} (live : stack.sessions = top :: parent :: below) (key : String)
    (edits : Mapping) : Linked { stack with sessions := parent.resume key edits :: below } where
  chain := by
    have chain := linked.chain
    rw [live] at chain
    exact chain.tail.replace id fun _ opened => ⟨opened.older, opened.waiting, opened.bound⟩
  free := by
    intro innermost first
    obtain rfl := Option.some.inj first
    exact ⟨rfl, by simp [Session.resume]⟩
  fresh := by
    intro session member
    have bounded := linked.fresh
    rw [live] at bounded
    rcases List.mem_cons.mp member with rfl | deeper
    · exact bounded parent (by simp)
    · exact bounded session (by simp [deeper])

/-- Closing the innermost session and resuming its parent keeps the nesting. -/
theorem Nested.resume {stack : Stack} (nested : stack.Nested) {top parent : Session}
    {below : List Session} (live : stack.sessions = top :: parent :: below) (key : String)
    (edits : Mapping) : Nested { stack with sessions := parent.resume key edits :: below } where
  toLinked := nested.toLinked.resume live key edits
  declared := by
    have chain := nested.declared
    rw [live] at chain
    exact chain.tail.replace id fun _ declared => ⟨declared.deeper, declared.row⟩
  shallow := by
    have shallow := nested.shallow
    simp only [depth, live, List.length_cons] at shallow ⊢
    omega

/-! ## Shifts -/

/-- What one step of an operation does to the stack: nothing, a change of the innermost session in place, a
session opened from the innermost one, or the innermost session dismissed. -/
inductive Shift : Stack → Stack → Prop where
  | still (stack : Stack) : Shift stack stack
  | revised {stack : Stack} {before after : Session} {rest : List Session}
      (live : stack.sessions = before :: rest) (inPlace : before.InPlace after) :
      Shift stack { stack with sessions := after :: rest }
  | extended {stack : Stack} {top : Session} {rest : List Session} {position : Position} {row : Row}
      {schema : Schema} {store : Store} (live : stack.sessions = top :: rest)
      (found : top.schema.rowAt? position = some row) (deeper : schema.level = top.level + 1)
      (room : top.level + 1 ≤ stack.maxNesting) :
      Shift stack { stack with
        sessions := .ofRow stack.nextId top.id position row schema store ::
          top.waitFor position stack.nextId :: rest
        nextId := stack.nextId + 1 }
  | emptied {stack : Stack} {root : Session} (live : stack.sessions = [root]) :
      Shift stack { stack with sessions := [] }
  | resumed {stack : Stack} {top parent : Session} {below : List Session}
      (live : stack.sessions = top :: parent :: below) (key : String) (edits : Mapping) :
      Shift stack { stack with sessions := parent.resume key edits :: below }

/-- Every shift of a stack keeps its sessions linked. -/
theorem Shift.linked {stack after : Stack} (shift : Shift stack after) (linked : stack.Linked) :
    after.Linked := by
  cases shift with
  | still => exact linked
  | revised live inPlace => exact linked.revise live inPlace
  | extended live found deeper room => exact linked.extend live _ _ _ _
  | emptied live => exact (nested_of_empty rfl).toLinked
  | resumed live key edits => exact linked.resume live key edits

/-- Every shift of a stack keeps its sessions nested. -/
theorem Shift.nested {stack after : Stack} (shift : Shift stack after) (nested : stack.Nested) :
    after.Nested := by
  cases shift with
  | still => exact nested
  | revised live inPlace => exact nested.revise live inPlace
  | extended live found deeper room => exact nested.extend live _ found deeper room
  | emptied live => exact nested_of_empty rfl
  | resumed live key edits => exact nested.resume live key edits

/-- The limit of nesting stays as it is. -/
theorem Shift.maxNesting {stack after : Stack} (shift : Shift stack after) :
    after.maxNesting = stack.maxNesting := by
  cases shift <;> rfl

/-- Once no session is live, none is ever opened again. -/
theorem Shift.empty {stack after : Stack} (shift : Shift stack after) (empty : stack.sessions = []) :
    after.sessions = [] := by
  cases shift with
  | still => exact empty
  | revised live | extended live | resumed live => simp [empty] at live
  | emptied live => rfl

end Stack

end SettingsForm
