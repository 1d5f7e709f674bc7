import SettingsForm.Proofs.Session.Shape

/-!
# Finishing a form

Finishing dismisses session after session. Each session hands its edits to the one below it, under the
merge key of its origin and unless it has none, before that one is dismissed in turn. So what finishing
returns is read off the sessions from the root upwards: the edits of a session, together with what all
sessions above it come to (`Session.collected`). The host hears of each dismissal twice, before and after,
and of the innermost session first (`Session.farewells`).

The number of dismissals is not what ends finishing: any larger number gives the same.
-/

namespace SettingsForm

namespace Session

/-- What a session comes to with the edits of the session above it, given the origin of that one. Without
origin nothing is handed over, and neither are no edits. -/
def receiving (session : Session) (origin : Option Origin) (nested : Mapping) : Mapping :=
  match origin with
  | none => session.edits
  | some origin =>
    if nested = [] then session.edits else Mapping.insert origin.mergeKey (.mapping nested) session.edits

/-- What sessions come to, the lowest one first. -/
def collected : List Session → Mapping
  | [] => []
  | session :: above => session.receiving (above.head?.bind (·.origin)) (collected above)

/-- The session with other edits. -/
def holding (session : Session) (edits : Mapping) : Session :=
  { session with store := { session.store with edits } }

/-- The session while its edits are being handed over. -/
def leaving (session : Session) : Session := { session with state := .dismissing, active := none }

/-- The session once it is dismissed. -/
def gone (session : Session) : Session := { session.leaving with state := .dismissed }

/-- The two notices of the dismissal of a session. -/
def farewell (session : Session) : List HostCall := [.willDismiss session.leaving, .didDismiss session.gone]

/-- The notices of the dismissal of sessions, given the lowest one first and dismissed last. -/
def farewells : List Session → List HostCall
  | [] => []
  | session :: above =>
    farewells above ++ (session.holding (collected (session :: above))).farewell

/-- A session that takes edits back is dismissed in the same way as one that held them before. -/
theorem farewell_resume (session : Session) (origin : Origin) (nested : Mapping) :
    (session.resume origin.mergeKey nested).farewell =
      (session.holding (session.receiving (some origin) nested)).farewell := by
  cases nested with
  | nil => rfl
  | cons entry rest => rfl

/-- A session that takes edits back holds those that it receives. -/
theorem resume_edits (session : Session) (origin : Origin) (nested : Mapping) :
    (session.resume origin.mergeKey nested).edits = session.receiving (some origin) nested := by
  cases nested with
  | nil => rfl
  | cons entry rest => rfl

/-- Handing the edits of the uppermost session over does not change what the sessions come to. -/
theorem collected_resume {top parent : Session} {origin : Origin} (named : top.origin = some origin)
    (lower : List Session) :
    collected (lower ++ [parent.resume origin.mergeKey top.edits]) = collected (lower ++ [parent, top]) := by
  induction lower with
  | nil =>
    simp only [List.nil_append, collected, List.head?_nil, List.head?_cons, Option.bind_none,
      Option.bind_some, named]
    exact resume_edits parent origin top.edits
  | cons session lower inductionHypothesis =>
    have above : (lower ++ [parent.resume origin.mergeKey top.edits]).head?.bind Session.origin =
        (lower ++ [parent, top]).head?.bind Session.origin := by
      cases lower with
      | nil => rfl
      | cons next lower => rfl
    simp only [List.cons_append, collected, above, inductionHypothesis]

/-- The uppermost session is dismissed first; the others follow as if it had handed its edits over. -/
theorem farewells_resume {top parent : Session} {origin : Origin} (named : top.origin = some origin)
    (lower : List Session) :
    farewells (lower ++ [parent, top]) =
      top.farewell ++ farewells (lower ++ [parent.resume origin.mergeKey top.edits]) := by
  induction lower with
  | nil =>
    have last : farewells [top] = top.farewell := rfl
    have first : farewells [parent.resume origin.mergeKey top.edits] =
        (parent.resume origin.mergeKey top.edits).farewell := rfl
    rw [List.nil_append, List.nil_append, farewells, last, first, farewell_resume]
    simp only [collected, List.head?_nil, List.head?_cons, Option.bind_none, Option.bind_some, named]
    rfl
  | cons session lower inductionHypothesis =>
    have same : collected (session :: lower ++ [parent.resume origin.mergeKey top.edits]) =
        collected (session :: lower ++ [parent, top]) := collected_resume named (session :: lower)
    simp only [List.cons_append] at same
    simp only [List.cons_append, farewells, inductionHypothesis, same, List.append_assoc]

end Session

namespace Stack

/-- The innermost session of a linked stack can be dismissed. -/
theorem pop?_innermost {stack : Stack} (linked : stack.Linked) {top : Session} {rest : List Session}
    (live : stack.sessions = top :: rest) :
    ∃ popped, stack.pop? top.id = .ok popped ∧ popped.before = top.leaving ∧ popped.after = top.gone := by
  have free : top.state ≠ .childActive := by
    rw [(linked.free top (by simp [top?, live])).active]
    decide
  have found : stack.get? top.id = .ok top := by simp [get?, live]
  simp only [pop?, found, bind, Except.bind, if_neg free, live, ne_eq, not_true_eq_false, if_false]
  cases named : top.origin with
  | none => exact ⟨_, rfl, by rw [Session.leaving, named], by rw [Session.gone, Session.leaving, named]⟩
  | some origin => exact ⟨_, rfl, by rw [Session.leaving, named], by rw [Session.gone, Session.leaving, named]⟩

/-- The root is dismissed: its edits are those of the whole run, and no session is left. -/
theorem pop?_root {stack : Stack} (linked : stack.Linked) {root : Session}
    (live : stack.sessions = [root]) :
    stack.pop? root.id = .ok
      { before := root.leaving, after := root.gone, dismissal := .ok (.finished root.edits)
        stack := { stack with sessions := [] } } := by
  obtain ⟨⟨before, after, dismissal, left⟩, accepted, rfl, rfl⟩ := pop?_innermost linked live
  obtain ⟨top, rest, sessions, -, ended⟩ := pop?_cases linked accepted
  obtain ⟨rfl, rfl⟩ := List.cons.inj (live.symm.trans sessions)
  rcases ended with ⟨-, rfl, rfl⟩ | ⟨parent, below, origin, nonempty, -⟩
  · exact accepted
  · simp at nonempty

/-- A nested session is dismissed: the session below it takes the edits. -/
theorem pop?_nested {stack : Stack} (linked : stack.Linked) {top parent : Session} {below : List Session}
    (live : stack.sessions = top :: parent :: below) :
    ∃ origin, top.origin = some origin ∧ stack.pop? top.id = .ok
      { before := top.leaving, after := top.gone
        dismissal := .ok (.merged parent.id origin.mergeKey top.edits)
        stack := { stack with sessions := parent.resume origin.mergeKey top.edits :: below } } := by
  obtain ⟨⟨before, after, dismissal, left⟩, accepted, rfl, rfl⟩ := pop?_innermost linked live
  obtain ⟨innermost, rest, sessions, -, ended⟩ := pop?_cases linked accepted
  obtain ⟨rfl, rfl⟩ := List.cons.inj (live.symm.trans sessions)
  rcases ended with ⟨none, -⟩ | ⟨receiver, others, origin, split, -, named, rfl, rfl⟩
  · simp at none
  · obtain ⟨rfl, rfl⟩ := List.cons.inj split
    exact ⟨origin, named, accepted⟩

end Stack

namespace Controller

open Operation

variable {σ : Type} [Host σ]

/-- The root is dismissed: no session is left, and the edits of the root are returned. -/
theorem dismiss_root {c : Controller σ} (linked : c.stack.Linked) {root : Session}
    (live : c.stack.sessions = [root]) :
    ∃ host, perform dismiss c = (.ok (.finished root.edits), { c with
      host
      stack := { c.stack with sessions := [] }
      calls := c.calls ++ root.farewell }) := by
  refine ⟨Host.didDismiss root.gone (Host.willDismiss root.leaving c.host), ?_⟩
  rw [dismiss_live live, pop_accepted (Stack.pop?_root linked live), afterPop_ok rfl, List.append_assoc]
  rfl

/-- A nested session is dismissed: it hands its edits to the session below it. -/
theorem dismiss_nested {c : Controller σ} (linked : c.stack.Linked) {top parent : Session}
    {below : List Session} (live : c.stack.sessions = top :: parent :: below) :
    ∃ origin host, top.origin = some origin ∧
      perform dismiss c = (.ok (.merged parent.id origin.mergeKey top.edits), { c with
        host
        stack := { c.stack with sessions := parent.resume origin.mergeKey top.edits :: below }
        calls := c.calls ++ top.farewell }) := by
  obtain ⟨origin, named, accepted⟩ := Stack.pop?_nested linked live
  refine ⟨origin, Host.didDismiss top.gone (Host.willDismiss top.leaving c.host), named, ?_⟩
  rw [dismiss_live live, pop_accepted accepted, afterPop_ok rfl, List.append_assoc]
  rfl

/-- Dismissing at least as often as there are sessions ends with the dismissal of the root. -/
theorem dismissUpTo_all {c : Controller σ} (linked : c.stack.Linked) {top : Session}
    {below : List Session} (live : c.stack.sessions = top :: below) :
    ∃ host, ∀ most, below.length < most →
      perform (dismissUpTo most) c = (.ok (Session.collected c.stack.fromRoot), { c with
        host
        stack := { c.stack with sessions := [] }
        calls := c.calls ++ Session.farewells c.stack.fromRoot }) := by
  induction below generalizing c top with
  | nil =>
    obtain ⟨host, dismissed⟩ := dismiss_root linked live
    refine ⟨host, ?_⟩
    intro most enough
    obtain ⟨most, rfl⟩ := Nat.exists_eq_succ_of_ne_zero (Nat.ne_zero_of_lt enough)
    rw [dismissUpTo, perform_bind_ok dismissed, Stack.fromRoot, live]
    rfl
  | cons parent below inductionHypothesis =>
    obtain ⟨origin, host, named, dismissed⟩ := dismiss_nested linked live
    have resumed := linked.resume live origin.mergeKey top.edits
    obtain ⟨last, finished⟩ := inductionHypothesis (c := { c with
      host
      stack := { c.stack with sessions := parent.resume origin.mergeKey top.edits :: below }
      calls := c.calls ++ top.farewell }) resumed rfl
    refine ⟨last, ?_⟩
    intro most enough
    obtain ⟨most, rfl⟩ := Nat.exists_eq_succ_of_ne_zero (Nat.ne_zero_of_lt enough)
    rw [dismissUpTo, perform_bind_ok dismissed]
    simp only [finished most (Nat.lt_of_succ_lt_succ enough), Stack.fromRoot, live, List.reverse_cons,
      List.append_assoc, List.cons_append, List.nil_append, Session.collected_resume named,
      Session.farewells_resume named]

/-- Without sessions no number of dismissals gets anywhere. -/
theorem dismissUpTo_none {c : Controller σ} (empty : c.stack.sessions = []) (most : Nat) :
    perform (dismissUpTo most) c = (.error (.navigation (.dismissed c.stack.lastId)), c) := by
  cases most with
  | zero => rfl
  | succ most => rw [dismissUpTo, perform_bind_error (dismiss_empty empty)]

/-- Finishing a reachable form dismisses all its sessions, the innermost one first, and returns what they
come to. Without sessions it is refused. In either case more dismissals would have given the same. -/
theorem finish_collects {c : Controller σ} (reachable : Reachable c) :
    (c.stack.sessions ≠ [] →
      ∃ host, perform finish c = (.ok (Session.collected c.stack.fromRoot), { c with
        host
        stack := { c.stack with sessions := [] }
        calls := c.calls ++ Session.farewells c.stack.fromRoot })) ∧
      (c.stack.sessions = [] →
        perform finish c = (.error (.navigation (.dismissed c.stack.lastId)), c)) ∧
      ∀ most, c.stack.depth ≤ most → perform (dismissUpTo most) c = perform finish c := by
  have linked := reachable.nested.toLinked
  have bounded : perform finish c = perform (dismissUpTo c.stack.depth) c := perform_get_bind _ _
  rw [bounded]
  cases live : c.stack.sessions with
  | nil =>
    refine ⟨fun nonempty => absurd rfl nonempty, fun _ => dismissUpTo_none live _, ?_⟩
    intro most _
    rw [dismissUpTo_none live, dismissUpTo_none live]
  | cons top below =>
    have depth : c.stack.depth = below.length + 1 := by rw [Stack.depth, live, List.length_cons]
    obtain ⟨host, dismissed⟩ := dismissUpTo_all linked live
    have finished := dismissed c.stack.depth (by omega)
    refine ⟨fun _ => ⟨host, finished⟩, by simp, ?_⟩
    intro most enough
    rw [dismissed most (by omega), finished]

/-- A person's name and street are entered, and the form is finished from within the address. -/
theorem finish_collects_person :
    Reachable (runs [.commit "name" (.string "Ann"), .push 0 ⟨0, 1⟩, .commit "street" (.string "Elm")]
        personStarted) ∧
      (perform finish (runs [.commit "name" (.string "Ann"), .push 0 ⟨0, 1⟩,
          .commit "street" (.string "Elm")] personStarted)).1 =
        .ok [("home", .mapping [("street", .string "Elm")]), ("name", .string "Ann")] := by
  have started : Reachable personStarted := ⟨_, _, _, _, [], start_person, rfl⟩
  have reachable := started.runs [.commit "name" (.string "Ann"), .push 0 ⟨0, 1⟩,
    .commit "street" (.string "Elm")]
  obtain ⟨host, finished⟩ := (finish_collects reachable).1 (List.cons_ne_nil _ _)
  refine ⟨reachable, ?_⟩
  rw [finished]
  rfl

end Controller

end SettingsForm
