import SettingsForm.Proofs.Session.Ancestors
import SettingsForm.Proofs.Session.Finish

/-!
# Calls that name a session

Whoever holds a stack may name any session at any time: one that is live, one that was dismissed long ago,
or none at all. What a call does depends only on where the session that it names lies (`Stack.Ending`). Only
the innermost session can be opened from or dismissed; every other call is refused, and a call that is
refused does nothing and tells nobody.

A dismissal takes its session away before it looks for the parent. That the parent is always found is due to
the links of the stack, which calls keep whatever rows, schemas and values they bring along: the levels of
the schemas play no part in the links.

Ids grow with every session that is opened, so the id of a dismissed session is never live again. Levels are
64-bit numbers, and opening a session counts one up from the level of its parent. The calls and the root may
bring schemas of any level from which this can be done (`Schema.Countable`), and then it can be done for every
live session at any time (`Stack.Countable`).
-/

namespace SettingsForm

/-- The level that follows that of the schema is a 64-bit number. -/
def Schema.Countable (schema : Schema) : Prop := schema.level + 1 < UInt64.size

/-- By comparison of two numbers. -/
instance (schema : Schema) : Decidable schema.Countable :=
  inferInstanceAs (Decidable (schema.level + 1 < UInt64.size))

namespace Stack

/-- From the level of every live session one can be counted up. -/
def Countable (stack : Stack) : Prop := ∀ session ∈ stack.sessions, session.schema.Countable

/-- The ids of the live sessions, innermost first. -/
def ids (stack : Stack) : List SessionId := stack.sessions.map (·.id)

/-- A call that names a session, either to open another one from it or to dismiss it. -/
inductive Call where
  | push (parent : SessionId) (position : Position) (row : Row) (schema : Schema) (store : Store)
  | pop (session : SessionId)

/-- What a call returns if it succeeds. -/
inductive Answer where
  | opened (session : SessionId)
  | dismissed (dismissal : Dismissal)

/-- What comes of a call: its result, the stack after it, and what the host is told during it. -/
structure Reply where
  result : Except NavigationError Answer
  stack : Stack
  notices : List HostCall

/-- The call fails, changes nothing and tells nobody. -/
def refusal (stack : Stack) (error : NavigationError) : Reply := ⟨.error error, stack, []⟩

namespace Call

/-- The session that a call names. -/
def addressee : Call → SessionId
  | push parent _ _ _ _ => parent
  | pop session => session

/-- A call brings along no schema from whose level none can be counted up. -/
def Countable : Call → Prop
  | push _ _ _ schema _ => schema.Countable
  | pop _ => True

/-- A call that succeeds may change the stack; of a dismissal the host is told. -/
def run (stack : Stack) : Call → Reply
  | push parent position row schema store =>
    match stack.push? parent position row schema store with
    | .error error => stack.refusal error
    | .ok (id, after) => ⟨.ok (.opened id), after, []⟩
  | pop session =>
    match stack.pop? session with
    | .error error => stack.refusal error
    | .ok popped => ⟨popped.dismissal.map .dismissed, popped.stack, popped.notices⟩

end Call

/-- The stack after calls, whether they succeed or fail. -/
def afterCalls (calls : List Call) (stack : Stack) : Stack :=
  calls.foldl (fun stack call => (call.run stack).stack) stack

/-- The id that a call returns, if any. -/
def Reply.issued : Reply → List SessionId
  | ⟨.ok (.opened id), _, _⟩ => [id]
  | _ => []

/-- The ids that calls return, in order. -/
def issued : List Call → Stack → List SessionId
  | [], _ => []
  | call :: rest, stack => (call.run stack).issued ++ issued rest (call.run stack).stack

/-- The stack with a session opened from the innermost one. -/
def opening (stack : Stack) (top : Session) (rest : List Session) (position : Position) (row : Row)
    (schema : Schema) (store : Store) : Stack :=
  { stack with
    sessions := .ofRow stack.nextId top.id position row schema store ::
      top.waitFor position stack.nextId :: rest
    nextId := stack.nextId + 1 }

/-! ## Finding a session -/

/-- A look-up of a session that is not live reports it as dismissed. -/
theorem get?_of_not_live {stack : Stack} {id : SessionId} (absent : id ∉ stack.ids) :
    stack.get? id = .error (.dismissed id) := by
  have none : stack.sessions.find? (·.id = id) = none := by
    rw [List.find?_eq_none]
    intro session member same
    exact absent (List.mem_map.mpr ⟨session, member, of_decide_eq_true same⟩)
  rw [get?, none]

/-- Ids are distinct, so a session is found by its own. -/
theorem get?_of_live {stack : Stack} (linked : stack.Linked) {session : Session}
    (live : session ∈ stack.sessions) : stack.get? session.id = .ok session := by
  have found : stack.sessions.find? (·.id = session.id) = some session := by
    have chain := linked.chain
    generalize stack.sessions = sessions at live chain
    induction sessions with
    | nil => simp at live
    | cons top rest inductionHypothesis =>
      rcases List.mem_cons.mp live with rfl | below
      · exact List.find?_cons_of_pos (by simp)
      · have older : session.id < top.id := older_of_chain chain session below
        rw [List.find?_cons_of_neg (by simpa using Nat.ne_of_gt older)]
        exact inductionHypothesis below chain.tail
  rw [get?, found]

/-! ## One call -/

namespace Call

/-- A call that names a session which is not live is refused. -/
theorem run_gone {stack : Stack} {call : Call} (absent : call.addressee ∉ stack.ids) :
    call.run stack = stack.refusal (.dismissed call.addressee) := by
  have gone := get?_of_not_live absent
  cases call with
  | push parent position row schema store =>
    rw [addressee] at gone
    simp [run, addressee, push?, gone, bind, Except.bind]
  | pop session =>
    rw [addressee] at gone
    simp [run, addressee, pop?, gone, bind, Except.bind]

/-- A call that names a session with an open child is refused. -/
theorem run_waiting {stack : Stack} (linked : stack.Linked) {session : Session}
    (live : session ∈ stack.sessions) (waiting : session.state = .childActive) {call : Call}
    (named : call.addressee = session.id) : call.run stack = stack.refusal (.childActive session.id) := by
  have found : stack.get? call.addressee = .ok session := named ▸ get?_of_live linked live
  cases call with
  | push parent position row schema store =>
    rw [addressee] at named found
    subst named
    simp [run, push?, found, waiting, bind, Except.bind, throw, throwThe, MonadExceptOf.throw]
  | pop target =>
    rw [addressee] at named found
    subst named
    simp [run, pop?, found, waiting, bind, Except.bind, throw, throwThe, MonadExceptOf.throw]

/-- The root is dismissed. -/
theorem run_pop_root {stack : Stack} (linked : stack.Linked) {root : Session}
    (live : stack.sessions = [root]) :
    (pop root.id).run stack =
      ⟨.ok (.dismissed (.finished root.edits)), { stack with sessions := [] }, root.farewell⟩ := by
  rw [run, pop?_root linked live]
  rfl

/-- A nested session is dismissed, and its parent is there to take the edits. -/
theorem run_pop_nested {stack : Stack} (linked : stack.Linked) {top parent : Session}
    {below : List Session} (live : stack.sessions = top :: parent :: below) :
    ∃ origin, top.origin = some origin ∧ (pop top.id).run stack =
      ⟨.ok (.dismissed (.merged parent.id origin.mergeKey top.edits)),
        { stack with sessions := parent.resume origin.mergeKey top.edits :: below }, top.farewell⟩ := by
  obtain ⟨origin, named, accepted⟩ := pop?_nested linked live
  refine ⟨origin, named, ?_⟩
  rw [run, accepted]
  rfl

/-- A session is opened from the innermost one, unless the limit of nesting is reached. -/
theorem run_push {stack : Stack} (linked : stack.Linked) {top : Session} {rest : List Session}
    (live : stack.sessions = top :: rest) (position : Position) (row : Row) (schema : Schema)
    (store : Store) :
    (push top.id position row schema store).run stack =
      if stack.maxNesting < top.level + 1 then stack.refusal (.tooDeep stack.maxNesting)
      else ⟨.ok (.opened stack.nextId), stack.opening top rest position row schema store, []⟩ := by
  rw [run, push?_innermost linked live]
  by_cases deep : stack.maxNesting < top.level + 1
  · rw [if_pos deep, if_pos deep]
  · rw [if_neg deep, if_neg deep]
    rfl

end Call

/-- The ways in which a call can end. -/
inductive Ending (stack : Stack) : Call → Reply → Prop where
  /-- The session is not live. -/
  | gone {call : Call} (absent : call.addressee ∉ stack.ids) :
      Ending stack call (stack.refusal (.dismissed call.addressee))
  /-- Another session was opened from the session. -/
  | waiting {call : Call} {session : Session} (below : session ∈ stack.sessions.tail)
      (named : call.addressee = session.id) : Ending stack call (stack.refusal (.childActive session.id))
  /-- The limit of nesting is reached. -/
  | full {top : Session} {rest : List Session} {position : Position} {row : Row} {schema : Schema}
      {store : Store} (live : stack.sessions = top :: rest) (deep : stack.maxNesting < top.level + 1) :
      Ending stack (.push top.id position row schema store) (stack.refusal (.tooDeep stack.maxNesting))
  | opened {top : Session} {rest : List Session} {position : Position} {row : Row} {schema : Schema}
      {store : Store} (live : stack.sessions = top :: rest) (room : top.level + 1 ≤ stack.maxNesting) :
      Ending stack (.push top.id position row schema store)
        ⟨.ok (.opened stack.nextId), stack.opening top rest position row schema store, []⟩
  /-- The root is dismissed. -/
  | finished {root : Session} (live : stack.sessions = [root]) :
      Ending stack (.pop root.id)
        ⟨.ok (.dismissed (.finished root.edits)), { stack with sessions := [] }, root.farewell⟩
  /-- A nested session is dismissed and hands its edits to its parent. -/
  | merged {top parent : Session} {below : List Session} {origin : Origin}
      (live : stack.sessions = top :: parent :: below) (named : top.origin = some origin) :
      Ending stack (.pop top.id)
        ⟨.ok (.dismissed (.merged parent.id origin.mergeKey top.edits)),
          { stack with sessions := parent.resume origin.mergeKey top.edits :: below }, top.farewell⟩

/-- A call ends in one of the listed ways: the session that it names is not live, or waits, or is the
innermost one. -/
theorem Call.ending {stack : Stack} (linked : stack.Linked) (call : Call) :
    Ending stack call (call.run stack) := by
  by_cases live : call.addressee ∈ stack.ids
  · obtain ⟨session, member, named⟩ := List.mem_map.mp live
    cases sessions : stack.sessions with
    | nil => simp [sessions] at member
    | cons top rest =>
      have chain := linked.chain
      rw [sessions] at member chain
      rcases List.mem_cons.mp member with rfl | below
      · cases call with
        | push parent position row schema store =>
          obtain rfl : session.id = parent := named
          rw [run_push linked sessions]
          by_cases deep : stack.maxNesting < session.level + 1
          · rw [if_pos deep]
            exact .full sessions deep
          · rw [if_neg deep]
            exact .opened sessions (Nat.le_of_not_lt deep)
        | pop target =>
          obtain rfl : session.id = target := named
          cases rest with
          | nil =>
            rw [run_pop_root linked sessions]
            exact .finished sessions
          | cons parent lower =>
            obtain ⟨origin, opened, ended⟩ := run_pop_nested linked sessions
            rw [ended]
            exact .merged sessions opened
      · have waits : session.state = .childActive := waiting_of_chain chain session below
        rw [run_waiting linked (sessions ▸ List.mem_cons_of_mem top below) waits named.symm]
        exact .waiting (by rw [sessions]; exact below) named.symm
  · rw [run_gone live]
    exact .gone live

/-! ## What a call keeps -/

/-- Every call keeps the links. -/
theorem Ending.linked {stack : Stack} {call : Call} {reply : Reply} (ending : Ending stack call reply)
    (linked : stack.Linked) : reply.stack.Linked := by
  cases ending with
  | gone | waiting | full => exact linked
  | opened live room => exact linked.extend live _ _ _ _
  | finished live => exact (nested_of_empty rfl).toLinked
  | merged live named => exact linked.resume live _ _

/-- The limit of nesting stays as it is. -/
theorem Ending.maxNesting {stack : Stack} {call : Call} {reply : Reply}
    (ending : Ending stack call reply) : reply.stack.maxNesting = stack.maxNesting := by
  cases ending <;> rfl

/-- Sessions that are opened have the schemas that calls bring along, and those that stay keep theirs. -/
theorem Ending.countable {stack : Stack} {call : Call} {reply : Reply} (ending : Ending stack call reply)
    (countable : stack.Countable) (brings : call.Countable) : reply.stack.Countable := by
  cases ending with
  | gone | waiting | full => exact countable
  | opened live room =>
    rw [Countable, live] at countable
    obtain ⟨top, rest⟩ := List.forall_mem_cons.mp countable
    exact List.forall_mem_cons.mpr ⟨brings, List.forall_mem_cons.mpr ⟨top, rest⟩⟩
  | finished live => exact fun _ none => nomatch none
  | merged live named =>
    rw [Countable, live] at countable
    obtain ⟨-, below⟩ := List.forall_mem_cons.mp countable
    obtain ⟨parent, rest⟩ := List.forall_mem_cons.mp below
    exact List.forall_mem_cons.mpr ⟨parent, rest⟩

/-- A call returns the next id, or none and keeps the next id. -/
theorem Ending.issued {stack : Stack} {call : Call} {reply : Reply} (ending : Ending stack call reply) :
    reply.issued = [stack.nextId] ∧ reply.stack.nextId = stack.nextId + 1 ∨
      reply.issued = [] ∧ reply.stack.nextId = stack.nextId := by
  cases ending with
  | opened live room => exact Or.inl ⟨rfl, rfl⟩
  | gone | waiting | full | finished | merged => exact Or.inr ⟨rfl, rfl⟩

/-- An id that was given before a call and is live after it was live before it. -/
theorem Ending.known {stack : Stack} {call : Call} {reply : Reply} (ending : Ending stack call reply)
    {id : SessionId} (given : id < stack.nextId) (live : id ∈ reply.stack.ids) : id ∈ stack.ids := by
  cases ending with
  | gone | waiting | full => exact live
  | opened sessions room =>
    have older : id ≠ stack.nextId := Nat.ne_of_lt given
    rw [ids, sessions]
    simpa [ids, opening, Session.ofRow, Session.waitFor, older] using live
  | finished sessions => simp [ids] at live
  | merged sessions named =>
    rw [ids, sessions]
    exact List.mem_cons_of_mem _ (by simpa [ids, Session.resume] using live)

/-- A session is taken away by its dismissal only, of which the host is told before and after. -/
theorem Ending.reported {stack : Stack} {call : Call} {reply : Reply} (ending : Ending stack call reply)
    {id : SessionId} (live : id ∈ stack.ids) (ended : id ∉ reply.stack.ids) :
    call = .pop id ∧ ∃ session dismissal, session ∈ stack.sessions ∧ session.id = id ∧
      reply.result = .ok (.dismissed dismissal) ∧ reply.notices = session.farewell := by
  cases ending with
  | gone | waiting | full => exact absurd live ended
  | opened sessions room =>
    rw [ids, sessions] at live
    exact absurd (List.mem_cons_of_mem _ live) ended
  | @finished root sessions =>
    rw [ids, sessions] at live
    obtain rfl : id = root.id := List.mem_singleton.mp live
    exact ⟨rfl, root, _, by rw [sessions]; exact List.mem_cons_self, rfl, rfl, rfl⟩
  | @merged top parent below origin sessions named =>
    rw [ids, sessions] at live
    rcases List.mem_cons.mp live with rfl | lower
    · exact ⟨rfl, top, _, by rw [sessions]; exact List.mem_cons_self, rfl, rfl, rfl⟩
    · exact absurd lower ended

/-- A dismissed session had an id that was given, and is not live any more. -/
theorem Ending.dismissed {stack : Stack} (linked : stack.Linked) {call : Call} {reply : Reply}
    (ending : Ending stack call reply) {dismissal : Dismissal}
    (success : reply.result = .ok (.dismissed dismissal)) :
    call.addressee < reply.stack.nextId ∧ call.addressee ∉ reply.stack.ids := by
  cases ending with
  | gone | waiting | full | opened => simp [refusal] at success
  | @finished root sessions =>
    refine ⟨linked.fresh root (by simp [sessions]), ?_⟩
    exact List.not_mem_nil
  | @merged top parent below origin sessions named =>
    refine ⟨linked.fresh top (by simp [sessions]), ?_⟩
    have chain := linked.chain
    rw [sessions] at chain
    exact not_live_of_resumed chain origin.mergeKey top.edits

/-- A call that dismisses a session brings no schema along. -/
theorem Ending.countable_of_dismissed {stack : Stack} {call : Call} {reply : Reply}
    (ending : Ending stack call reply) {dismissal : Dismissal}
    (success : reply.result = .ok (.dismissed dismissal)) : call.Countable := by
  cases ending with
  | gone | waiting | full | opened => simp [refusal] at success
  | finished | merged => trivial

/-! ## Calls one after the other -/

/-- Calls keep the sessions of a stack linked. -/
theorem linked_afterCalls {stack : Stack} (linked : stack.Linked) (calls : List Call) :
    (afterCalls calls stack).Linked := by
  induction calls generalizing stack with
  | nil => exact linked
  | cons call rest inductionHypothesis => exact inductionHypothesis ((call.ending linked).linked linked)

/-- What each of the calls keeps, whatever comes of it, they keep one after the other. -/
theorem kept_afterCalls (property : Stack → Prop) {stack : Stack} (linked : stack.Linked) {calls : List Call}
    (kept : ∀ call ∈ calls, ∀ before reply, Ending before call reply → property before → property reply.stack)
    (holds : property stack) : property (afterCalls calls stack) := by
  induction calls generalizing stack with
  | nil => exact holds
  | cons call rest inductionHypothesis =>
    obtain ⟨first, others⟩ := List.forall_mem_cons.mp kept
    have ending := call.ending linked
    exact inductionHypothesis (ending.linked linked) others (first stack _ ending holds)

/-- However calls go, one can be counted up from the level of every live session. -/
theorem countable_afterCalls {stack : Stack} (linked : stack.Linked) (countable : stack.Countable)
    {calls : List Call} (bring : ∀ call ∈ calls, call.Countable) : (afterCalls calls stack).Countable := by
  refine kept_afterCalls Countable linked ?_ countable
  intro call listed before reply ending countable
  exact ending.countable countable (bring call listed)

/-- No call changes the bound on the nesting. -/
theorem maxNesting_afterCalls {stack : Stack} (linked : stack.Linked) (calls : List Call) :
    (afterCalls calls stack).maxNesting = stack.maxNesting := by
  refine kept_afterCalls (fun after => after.maxNesting = stack.maxNesting) linked ?_ rfl
  intro call _ before reply ending same
  exact ending.maxNesting.trans same

/-- An id that is given and not live stays so. -/
theorem gone_afterCalls {stack : Stack} (linked : stack.Linked) (calls : List Call) {id : SessionId}
    (given : id < stack.nextId) (absent : id ∉ stack.ids) : id ∉ (afterCalls calls stack).ids := by
  refine (kept_afterCalls (fun after => id < after.nextId ∧ id ∉ after.ids) linked ?_ ⟨given, absent⟩).2
  rintro call - before reply ending ⟨given, absent⟩
  refine ⟨?_, fun live => absent (ending.known given live)⟩
  rcases ending.issued with ⟨-, next⟩ | ⟨-, next⟩
  · rw [next]
    exact Nat.lt_succ_of_lt given
  · rw [next]
    exact given

/-- Calls return ids that were not given before, in increasing order. -/
theorem increasing_issued {stack : Stack} (linked : stack.Linked) (calls : List Call) :
    (∀ id ∈ issued calls stack, stack.nextId ≤ id) ∧ (issued calls stack).Pairwise (· < ·) := by
  induction calls generalizing stack with
  | nil => exact ⟨by simp [issued], .nil⟩
  | cons call rest inductionHypothesis =>
    have ending := call.ending linked
    obtain ⟨later, increasing⟩ := inductionHypothesis (ending.linked linked)
    rw [issued]
    rcases ending.issued with ⟨given, next⟩ | ⟨none, next⟩
    · rw [next] at later
      rw [given]
      refine ⟨?_, .cons (fun id member => later id member) increasing⟩
      intro id member
      rcases List.mem_cons.mp member with rfl | member
      · exact Nat.le_refl _
      · exact Nat.le_of_succ_le (later id member)
    · rw [next] at later
      rw [none]
      exact ⟨later, increasing⟩

/-- What calls to a stack do, by the place of the session that they name. -/
structure Exact (stack : Stack) : Prop where
  /-- A session that is not live is neither found nor opened from nor dismissed. -/
  gone : ∀ id, id ∉ stack.ids → stack.get? id = .error (.dismissed id) ∧
    ∀ call : Call, call.addressee = id → call.run stack = stack.refusal (.dismissed id)
  /-- A live session is found, but unless it is the innermost one it is busy. -/
  waiting : (∀ session ∈ stack.sessions, stack.get? session.id = .ok session) ∧
    ∀ session ∈ stack.sessions.tail, ∀ call : Call, call.addressee = session.id →
      call.run stack = stack.refusal (.childActive session.id)
  /-- The innermost session can be dismissed, and the host is told before and after. -/
  innermost : ∀ top rest, stack.sessions = top :: rest → ∃ dismissal after,
    (Call.pop top.id).run stack = ⟨.ok (.dismissed dismissal), after, top.farewell⟩ ∧
      after.ids = rest.map (·.id)
  /-- The innermost session can be opened from, unless the limit of nesting is reached. -/
  limit : ∀ top rest, stack.sessions = top :: rest → ∀ position row schema store,
    (Call.push top.id position row schema store).run stack =
      if stack.maxNesting < top.level + 1 then stack.refusal (.tooDeep stack.maxNesting)
      else ⟨.ok (.opened stack.nextId), stack.opening top rest position row schema store, []⟩
  /-- A call that fails does nothing else, and never fails because a session is not on top. -/
  refused : ∀ (call : Call) (error : NavigationError), (call.run stack).result = .error error →
    call.run stack = stack.refusal error ∧ ∀ id, error ≠ .notOnTop id
  /-- A session is taken away by its dismissal only. -/
  reported : ∀ (call : Call), ∀ id ∈ stack.ids, id ∉ (call.run stack).stack.ids →
    call = .pop id ∧ ∃ session dismissal, session ∈ stack.sessions ∧ session.id = id ∧
      (call.run stack).result = .ok (.dismissed dismissal) ∧
      (call.run stack).notices = session.farewell

/-- The calls of a linked stack answer exactly as `Exact` says. -/
theorem Linked.exact {stack : Stack} (linked : stack.Linked) : stack.Exact where
  gone := by
    intro id absent
    refine ⟨get?_of_not_live absent, ?_⟩
    rintro call rfl
    exact call.run_gone absent
  waiting := by
    refine ⟨fun session live => get?_of_live linked live, ?_⟩
    intro session below call named
    refine Call.run_waiting linked (List.mem_of_mem_tail below) ?_ named
    cases sessions : stack.sessions with
    | nil => simp [sessions] at below
    | cons top rest =>
      rw [sessions] at below
      exact waiting_of_chain (sessions ▸ linked.chain) session below
  innermost := by
    intro top rest live
    cases rest with
    | nil => exact ⟨_, _, Call.run_pop_root linked live, rfl⟩
    | cons parent below =>
      obtain ⟨origin, -, ended⟩ := Call.run_pop_nested linked live
      exact ⟨_, _, ended, rfl⟩
  limit := fun _ _ live => Call.run_push linked live
  refused := by
    intro call error failed
    have ending := call.ending linked
    generalize call.run stack = reply at ending failed
    cases ending with
    | gone | waiting | full =>
      obtain rfl := Except.error.inj failed
      exact ⟨rfl, by simp⟩
    | opened | finished | merged => cases failed
  reported := fun call _ live ended => (call.ending linked).reported live ended

/-- After any calls to a stack that was opened with a root session, a call does what the place of the
session says that it names. Ids only ever grow, and a session that was dismissed is refused from then on,
whatever calls follow. The root and the calls may bring schemas of any level from which one can be counted
up; from the level of a live session this can always be done. -/
theorem calls_exact {title : String} {schema : Schema} {store : Store} {maxNesting : Nat}
    {calls : List Call} {stack : Stack} (countable : schema.Countable) (bring : ∀ call ∈ calls, call.Countable)
    (reached : afterCalls calls (ofRoot title schema store maxNesting) = stack) :
    stack.Countable ∧ stack.Exact ∧ stack.maxNesting = maxNesting ∧
      (0 :: issued calls (ofRoot title schema store maxNesting)).Pairwise (· < ·) ∧
      ∀ (call : Call) (dismissal : Dismissal), (call.run stack).result = .ok (.dismissed dismissal) →
        ∀ later after, (∀ again ∈ later, again.Countable) →
          afterCalls later (call.run stack).stack = after →
            after.Countable ∧ after.get? call.addressee = .error (.dismissed call.addressee) ∧
              ∀ again : Call, again.addressee = call.addressee →
                again.run after = after.refusal (.dismissed call.addressee) := by
  have root := linked_ofRoot title schema store maxNesting
  have rootCountable : (ofRoot title schema store maxNesting).Countable :=
    List.forall_mem_cons.mpr ⟨countable, fun _ none => nomatch none⟩
  have linked : stack.Linked := reached ▸ linked_afterCalls root calls
  have stays : stack.Countable := reached ▸ countable_afterCalls root rootCountable bring
  have limit : stack.maxNesting = maxNesting := reached ▸ maxNesting_afterCalls root calls
  obtain ⟨later, increasing⟩ := increasing_issued root calls
  refine ⟨stays, linked.exact, limit, .cons (fun id member => later id member) increasing, ?_⟩
  intro call dismissal success calls after bring run
  have ending := call.ending linked
  obtain ⟨given, absent⟩ := ending.dismissed linked success
  have gone : call.addressee ∉ after.ids := run ▸ gone_afterCalls (ending.linked linked) calls given absent
  have left : (call.run stack).stack.Countable := ending.countable stays (ending.countable_of_dismissed success)
  refine ⟨run ▸ countable_afterCalls (ending.linked linked) left bring, get?_of_not_live gone, ?_⟩
  intro again same
  rw [← same] at gone ⊢
  exact again.run_gone gone

/-- A schema without rows at a level. -/
def bare (level : Nat) : Schema := ⟨level, [], ⟨[], []⟩, []⟩

/-- A stack of a root session without rows, on which one more session fits. -/
def blank : Stack := ofRoot "Form" (bare 0) (.ofValues [] []) 1

/-- A call that opens a session from the root, for a row that the root does not have and with a schema that
claims to lie at the greatest level but one. -/
def homeCall : Call :=
  .push 0 ⟨0, 1⟩ (.ofPayload "Home" "home" (.multiLevel none)) (bare (UInt64.size - 2)) (.ofValues [] [])

/-- The session is opened, dismissed and opened again under another id. The first id stays refused. -/
theorem calls_exact_home :
    issued [homeCall, .pop 1, homeCall] blank = [1, 2] ∧
      (afterCalls [homeCall, .pop 1, homeCall] blank).ids = [2, 0] ∧
      (afterCalls [homeCall, .pop 1, homeCall] blank).Countable ∧
      (afterCalls [homeCall, .pop 1, homeCall] blank).get? 1 = .error (.dismissed 1) ∧
      (Call.pop 1).run (afterCalls [homeCall, .pop 1, homeCall] blank) =
        (afterCalls [homeCall, .pop 1, homeCall] blank).refusal (.dismissed 1) := by
  have root : (bare 0).Countable := by decide
  have home : ∀ call ∈ [homeCall], call.Countable := by
    intro call listed
    obtain rfl := List.mem_singleton.mp listed
    exact (by decide : (bare (UInt64.size - 2)).Countable)
  obtain ⟨-, -, -, -, forever⟩ :=
    calls_exact root home (rfl : afterCalls [homeCall] blank = afterCalls [homeCall] blank)
  obtain ⟨countable, unknown, refused⟩ := forever (.pop 1) _ rfl [homeCall] _ home rfl
  exact ⟨rfl, rfl, countable, unknown, refused (.pop 1) rfl⟩

end Stack

end SettingsForm
