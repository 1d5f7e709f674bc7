import SettingsForm.Proofs.Session.Move
import SettingsForm.Proofs.Session.Navigation

/-!
# The course of every request

Each operation is taken apart into moves. Writing, editing and reporting make moves that open and dismiss
nothing; opening, dismissing and finishing make just the turns that their results tell. So what can be
noticed of a request is what can be noticed of its moves, and a run is a sequence of moves.
-/

namespace SettingsForm

namespace Controller

open Operation

variable {σ : Type} [Host σ]

/-- Moves lead from one controller to the other that open and dismiss no session. -/
def Changes (c after : Controller σ) : Prop :=
  ∃ events, Moves c events after ∧ ∀ event ∈ events, event.isChange = true

namespace Changes

/-- Nothing happened. -/
theorem none (c : Controller σ) : Changes c c := ⟨[], .done c, by simp⟩

/-- One move, of an event that opens and dismisses no session. -/
theorem of_move {c after : Controller σ} {events : List Event} (move : Move c events after)
    (changes : ∀ event ∈ events, event.isChange = true) : Changes c after :=
  ⟨events, .single move, changes⟩

/-- Changes follow one another. -/
theorem trans {c middle after : Controller σ} (first : Changes c middle)
    (second : Changes middle after) : Changes c after := by
  obtain ⟨events, moves, changes⟩ := first
  obtain ⟨more, others, changed⟩ := second
  refine ⟨events ++ more, moves.trans others, ?_⟩
  intro event member
  rcases List.mem_append.mp member with early | late
  · exact changes event early
  · exact changed event late

/-- What the host heard is all that can be noticed of such moves. -/
theorem moves {c after : Controller σ} (changes : Changes c after) :
    Moves c (heard c after) after := by
  obtain ⟨events, moves, only⟩ := changes
  rwa [moves.heard, List.filter_eq_self.mpr only]

end Changes

/-! ## Writing and editing -/

/-- A question other than the notice of a change changes nothing but the host. -/
theorem changes_ask {α : Type} (c : Controller σ) (call : HostCall) (question : σ → α × σ)
    (other : call.change? = none) : Changes c (perform (ask call question) c).2 :=
  .of_move (.asked call _ other) (by simp)

/-- Carrying out the host's answer to the question for a refresh. -/
theorem RefreshRun.changes {c after : Controller σ} {session : Session} {row : Row}
    {result : Except SettingsError Bool} (top : c.top? = some session)
    (run : RefreshRun c session row (result, after)) : Changes c after := by
  cases run with
  | declined answer => exact .of_move (.asked _ _ rfl) (by simp)
  | accepted answer valid => exact .of_move (.refreshed top answer valid) (by simp)
  | rejected invalid => exact .of_move (.asked _ _ rfl) (by simp)

/-- Up to the question for a refresh, a commit that the host hears of is one move. -/
theorem changes_announced {c : Controller σ} {session : Session} {key : String} {row : Row}
    {contract : Contract} {raw : Value} {committed : Committed} {store : Store}
    (top : c.top? = some session) (found : c.writableRow key = .ok (row, contract))
    (stored : session.store.commit key row contract raw c.config.lenientStrings = .ok (committed, store))
    (notified : committed.changed = true ∨ c.config.notifyUnchanged = true) :
    Changes c ((c.storing store).announced committed.value row) ∧
      ((c.storing store).announced committed.value row).top? = some { session with store } := by
  constructor
  · rcases storing_cases top stored with ⟨unchanged, -, same⟩ | ⟨changed, -, -⟩
    · have wanted : c.config.notifyUnchanged = true := by simpa [unchanged] using notified
      rw [same]
      exact .of_move (.repeated _ _ wanted) (by simp [Event.isChange])
    · exact .of_move (.written top found stored changed) (by simp [Event.isChange])
  · obtain ⟨rest, live⟩ := top?_eq_some_iff.mp top
    rw [storing, modifyTop_of_sessions live]
    rfl

/-- A commit opens and dismisses no session. -/
theorem changes_commit (c : Controller σ) (key : String) (raw : Value) :
    Changes c (perform (commit key raw) c).2 := by
  have run := commit_run c key raw
  generalize perform (commit key raw) c = ended at run ⊢
  cases run with
  | unwritable refused => exact .none c
  | unfit top found failed => exact .none c
  | @silent session row contract committed store top found stored unheard =>
    rcases storing_cases top stored with ⟨-, -, same⟩ | ⟨changed, -, -⟩
    · change Changes c (c.storing store)
      rw [same]
      exact .none c
    · exact absurd (Or.inl changed) unheard
  | heard top found stored notified answered =>
    obtain ⟨announced, first⟩ := changes_announced top found stored notified
    exact announced.trans (answered.changes first)
  | rejected top found stored notified answered =>
    obtain ⟨announced, first⟩ := changes_announced top found stored notified
    exact announced.trans (answered.changes first)

/-- Ending the open edit of whichever session is innermost. -/
theorem changes_endEdit (c : Controller σ) : Changes c (c.modifyTop (·.withEditing Option.none)) := by
  cases live : c.stack.sessions with
  | nil =>
    have same : c.modifyTop (·.withEditing Option.none) = c := by
      simp [modifyTop, Stack.modifyTop, live]
      rw [← live]
    rw [same]
    exact .none c
  | cons top rest => exact .of_move (.edited live Option.none (by simp)) (by simp)

/-- Beginning an edit opens and dismisses no session. -/
theorem changes_beginEdit (c : Controller σ) (key : String) :
    Changes c (perform (beginEdit key) c).2 := by
  cases found : c.writableRow key with
  | error error =>
    rw [beginEdit, perform_query_error found]
    exact .none c
  | ok writable =>
    obtain ⟨row, contract⟩ := writable
    obtain ⟨session, declared, top, resolved, -⟩ := writableRow_cases found
    obtain ⟨rest, live⟩ := top?_eq_some_iff.mp top
    rw [beginEdit, perform_query_ok found]
    refine .of_move (.edited live (some key) ?_) (by simp)
    intro present same
    obtain rfl := Option.some.inj same
    rw [resolved]
    rfl

/-- Cancelling an edit opens and dismisses no session. -/
theorem changes_cancelEdit (c : Controller σ) : Changes c (perform cancelEdit c).2 := by
  cases live : c.current with
  | error error =>
    rw [cancelEdit, perform_query_error live]
    exact .none c
  | ok session =>
    rw [cancelEdit, perform_query_ok live]
    exact changes_endEdit c

/-- Ending an edit with a value opens and dismisses no session. -/
theorem changes_commitEdit (c : Controller σ) (raw : Value) :
    Changes c (perform (commitEdit raw) c).2 := by
  rw [commitEdit, perform_get_bind]
  cases c.editing? with
  | none => exact .none c
  | some key =>
    have committing := changes_commit c key raw
    cases committed : perform (commit key raw) c with
    | mk result after =>
      rw [committed] at committing
      cases result with
      | error error =>
        simp only [perform_bind_error committed]
        exact committing
      | ok outcome =>
        simp only [perform_bind_ok committed, perform_get_bind]
        split
        · exact committing.trans (changes_endEdit after)
        · exact committing

/-- Selecting a choice opens and dismisses no session. -/
theorem changes_selectChoice (c : Controller σ) (key : String) (index : Nat) :
    Changes c (perform (selectChoice key index) c).2 := by
  rw [selectChoice, perform_get_bind]
  cases (c.rowFor? key).bind (·.choices[index]?) with
  | none => exact .none c
  | some choice => exact changes_commit c key choice.value

/-- A report about the row at a position asks the host at most once. -/
theorem changes_report {α : Type} (c : Controller σ) (position : Position) (call : Row → HostCall)
    (question : Row → σ → α × σ) (other : ∀ row, (call row).change? = none) :
    Changes c (perform (do
      let row ← query (·.rowAt position)
      ask (call row) (question row)) c).2 := by
  cases found : c.rowAt position with
  | error error =>
    rw [perform_query_error found]
    exact .none c
  | ok row =>
    rw [perform_query_ok found]
    exact changes_ask c (call row) (question row) (other row)

/-! ## Opening and dismissing -/

/-- Supplying a child's rows makes no turn. -/
theorem Supplies.moves {c asked : Controller σ} {row : Row} {groups : List Group}
    (supplied : Supplies c row groups asked) : Moves c [] asked := by
  cases supplied with
  | own carried => exact .done c
  | host bare answer => exact .single (.asked _ _ rfl)

/-- Opening a session asks the host and then makes at most one turn. -/
theorem moves_push {c : Controller σ} (linked : c.stack.Linked) (parent : SessionId)
    (position : Position) :
    Moves c (turnOf .opened (perform (push parent position) c).1) (perform (push parent position) c).2 := by
  have run := push_run c parent position
  generalize perform (push parent position) c = ended at run ⊢
  cases run with
  | refused closed => exact .done c
  | childless found bare answer => exact .single (.asked _ _ rfl)
  | invalid found supplied faulty => exact supplied.moves
  | blocked found supplied built full =>
    exact supplied.moves.trans (.single (.asked (.childValues _) _ rfl))
  | @opened session row groups schema asked id stack found supplied built pushed =>
    obtain ⟨get, free, at_, recurses⟩ := nestingRow_cases found
    obtain ⟨rfl, rest, live⟩ := Stack.top_of_get? linked get free
    obtain ⟨top, below, sessions, -, room, rfl, rfl⟩ := Stack.push?_cases linked pushed
    obtain ⟨rfl, rfl⟩ := List.cons.inj (live.symm.trans sessions)
    have questions : Moves c [] (asked.askedForValues row) :=
      supplied.moves.trans (.single (.asked (.childValues _) _ rfl))
    have turn : Moves (asked.askedForValues row) [.opened c.stack.nextId] { asked.askedForValues row with
        stack := { c.stack with
          sessions := .ofRow c.stack.nextId session.id position row schema (asked.childStore session row) ::
            session.waitFor position c.stack.nextId :: rest
          nextId := c.stack.nextId + 1 } } := by
      cases supplied with
      | own carried => exact .single (.opened _ _ c.host live at_ recurses built room)
      | host bare answer => exact .single (.opened _ _ c.host live at_ recurses built room)
    exact questions.trans turn

/-- A dismissal tells the host, makes one turn, and tells the host again. -/
theorem moves_pop {c : Controller σ} (linked : c.stack.Linked) (id : SessionId) :
    Moves c (turnOf .closed (perform (pop id) c).1) (perform (pop id) c).2 := by
  cases accepted : c.stack.pop? id with
  | error error =>
    rw [pop_refused accepted]
    exact .done c
  | ok popped =>
    rw [pop_accepted accepted]
    obtain ⟨before, after, result, stack⟩ := popped
    let told : Controller σ :=
      { c.record [.willDismiss before] with host := Host.willDismiss before c.host }
    have telling : Moves c [] told := .single (.asked (.willDismiss before) _ rfl)
    obtain ⟨dismissal, rfl, turn⟩ : ∃ dismissal, result = .ok dismissal ∧
        Moves told [.closed dismissal] { told with stack } := by
      obtain ⟨top, rest, live, -, ⟨rfl, finished, emptied⟩ |
        ⟨parent, below, origin, rfl, opened, named, merged, resumed⟩⟩ := Stack.pop?_cases linked accepted
      · obtain rfl : stack = { c.stack with sessions := [] } := emptied
        exact ⟨_, finished, .single (.finished live)⟩
      · obtain rfl : stack = { c.stack with
          sessions := parent.resume origin.mergeKey top.edits :: below } := resumed
        exact ⟨_, merged, .single (.merged live opened named)⟩
    have telledAgain : Moves { told with stack } [] (c.afterPop ⟨before, after, .ok dismissal, stack⟩) := by
      rw [afterPop_ok rfl]
      exact .single (.asked (.didDismiss after) _ rfl)
    exact telling.trans (turn.trans telledAgain)

/-- A dismissal makes at most one turn, that of the session that it closed. -/
theorem moves_dismiss {c : Controller σ} (linked : c.stack.Linked) :
    Moves c (turnOf .closed (perform dismiss c).1) (perform dismiss c).2 := by
  cases live : c.stack.sessions with
  | nil =>
    rw [dismiss_empty live]
    exact .done c
  | cons top rest =>
    rw [dismiss_live live]
    exact moves_pop linked top.id

/-- A dismissal that fails leaves everything as it was. -/
theorem dismiss_failed {c after : Controller σ} (linked : c.stack.Linked) {error : SettingsError}
    (failed : perform dismiss c = (.error error, after)) : after = c := by
  cases live : c.stack.sessions with
  | nil =>
    rw [dismiss_empty live] at failed
    exact (Prod.mk.inj failed).2.symm
  | cons top rest =>
    rw [dismiss_live live] at failed
    cases accepted : c.stack.pop? top.id with
    | error refusal =>
      rw [pop_refused accepted] at failed
      exact (Prod.mk.inj failed).2.symm
    | ok popped =>
      obtain ⟨dismissal, handed⟩ := Stack.pop?_reported linked accepted
      rw [pop_accepted accepted, handed] at failed
      cases (Prod.mk.inj failed).1

/-- Once the root is dismissed, no session is left. -/
theorem dismiss_finished {c after : Controller σ} (linked : c.stack.Linked) {edits : Mapping}
    (finished : perform dismiss c = (.ok (.finished edits), after)) : after.stack.sessions = [] := by
  cases live : c.stack.sessions with
  | nil =>
    rw [dismiss_empty live] at finished
    simp at finished
  | cons top rest =>
    rw [dismiss_live live] at finished
    cases accepted : c.stack.pop? top.id with
    | error refusal =>
      rw [pop_refused accepted] at finished
      simp at finished
    | ok popped =>
      rw [pop_accepted accepted] at finished
      obtain ⟨told, rfl⟩ := Prod.mk.inj finished
      obtain ⟨top, rest, -, -, ⟨-, -, emptied⟩ | ⟨parent, below, origin, -, -, -, merged, -⟩⟩ :=
        Stack.pop?_cases linked accepted
      · exact congrArg Stack.sessions emptied
      · rw [merged] at told
        cases told

/-- Nothing is left to dismiss without sessions. -/
theorem dismissals_empty {c : Controller σ} (empty : c.stack.sessions = []) (most : Nat) :
    dismissals most c = [] := by
  cases most with
  | zero => rfl
  | succ most => rw [dismissals, dismiss_empty empty]

/-- To dismiss session after session is to make as many turns. -/
theorem moves_dismissUpTo {c : Controller σ} (linked : c.stack.Linked) (most : Nat) :
    Moves c ((dismissals most c).map .closed) (perform (dismissUpTo most) c).2 := by
  induction most generalizing c with
  | zero => exact .done c
  | succ most inductionHypothesis =>
    have first := moves_dismiss linked
    cases dismissed : perform dismiss c with
    | mk result after =>
      rw [dismissed] at first
      cases result with
      | error error =>
        obtain rfl := dismiss_failed linked dismissed
        rw [dismissals, dismissUpTo, perform_bind_error dismissed, dismissed]
        exact .done after
      | ok dismissal =>
        rw [dismissals, dismissUpTo, perform_bind_ok dismissed, dismissed]
        cases dismissal with
        | finished edits =>
          simp only [dismissals_empty (dismiss_finished linked dismissed), perform_pure]
          exact first
        | merged parent key edits => exact first.trans (inductionHypothesis (first.linked linked))

/-- Without effect, dismissing may be repeated. -/
theorem dismisses_of_idle {c : Controller σ} (idle : (perform dismiss c).2 = c) (most : Nat) :
    runs (List.replicate most .dismiss) c = c := by
  induction most with
  | zero => rfl
  | succ most inductionHypothesis =>
    rw [List.replicate_succ, runs_cons, Request.run, idle, inductionHypothesis]

/-- A bounded number of dismissals leads where as many single requests lead. Once the form is finished, the
requests that are left over fail without effect. -/
theorem dismissUpTo_eq_dismisses {c : Controller σ} (linked : c.stack.Linked) (most : Nat) :
    (perform (dismissUpTo most) c).2 = runs (List.replicate most .dismiss) c := by
  induction most generalizing c with
  | zero => rfl
  | succ most inductionHypothesis =>
    have first := moves_dismiss linked
    rw [List.replicate_succ, runs_cons, Request.run]
    cases dismissed : perform dismiss c with
    | mk result after =>
      rw [dismissed] at first
      cases result with
      | error error =>
        obtain rfl := dismiss_failed linked dismissed
        rw [dismissUpTo, perform_bind_error dismissed]
        exact (dismisses_of_idle (by rw [dismissed]) most).symm
      | ok dismissal =>
        rw [dismissUpTo, perform_bind_ok dismissed]
        cases dismissal with
        | finished edits =>
          have idle : (perform dismiss after).2 = after := by
            rw [dismiss_empty (dismiss_finished linked dismissed)]
          exact (dismisses_of_idle idle most).symm
        | merged parent key edits => exact inductionHypothesis (first.linked linked)

/-- To finish is to dismiss every session. -/
theorem finish_eq_dismisses {c : Controller σ} (linked : c.stack.Linked) :
    (Request.finish : Request σ).run c = runs (List.replicate c.stack.depth .dismiss) c := by
  rw [Request.run, finish, perform_get_bind]
  exact dismissUpTo_eq_dismisses linked c.stack.depth

/-! ## Activating a row -/

/-- An activation that opens and dismisses no session. -/
def Stays (c : Controller σ) (ended : Except SettingsError Activation × Controller σ) : Prop :=
  Changes c ended.2 ∧ ∀ session, ended.1 ≠ .ok (.pushed session)

/-- An operation whose result becomes an activation other than that a session was opened. -/
theorem stays_bind {α : Type} {c : Controller σ} {operation : Operation σ α}
    {activation : α → Activation} (changes : Changes c (perform operation c).2)
    (other : ∀ value session, activation value ≠ .pushed session) :
    Stays c (perform (operation >>= fun value => pure (activation value)) c) := by
  cases performed : perform operation c with
  | mk result after =>
    rw [performed] at changes
    cases result with
    | error error =>
      rw [perform_bind_error performed]
      exact ⟨changes, by simp⟩
    | ok value =>
      rw [perform_bind_ok performed, perform_pure]
      exact ⟨changes, fun session => by simpa using other value session⟩

/-- To return an activation is to stay, unless it says that a session was opened. -/
theorem stays_pure (c : Controller σ) {activation : Activation}
    (other : ∀ session, activation ≠ .pushed session) :
    Stays c (perform (pure activation : Operation σ Activation) c) :=
  ⟨.none c, fun session => by simpa [perform_pure] using other session⟩

/-- To activate a row is to open a session from it, or to open and dismiss nothing. -/
theorem activate_cases (c : Controller σ) (position : Position) :
    (∃ session : Session, perform (activate position) c =
        perform (push session.id position >>= fun id => pure (.pushed id)) c) ∨
      Stays c (perform (activate position) c) := by
  cases live : c.current with
  | error error =>
    rw [activate, perform_query_error live]
    exact Or.inr ⟨.none c, by simp⟩
  | ok session =>
    cases found : c.rowAt position with
    | error error =>
      rw [activate, perform_query_ok live, perform_query_error found]
      exact Or.inr ⟨.none c, by simp⟩
    | ok row =>
      rw [activate, perform_query_ok live, perform_query_ok found, perform_get_bind]
      by_cases recurses : (c.contractFor row).recurses = true
      · rw [if_pos recurses]
        exact Or.inl ⟨session, rfl⟩
      · rw [if_neg recurses]
        refine Or.inr ?_
        -- Only the interactions that write or edit look at the row any further.
        cases (c.contractFor row).interaction with
        | trigger => exact stays_bind (changes_ask c _ _ rfl) (by simp)
        | custom =>
          refine stays_bind (changes_ask c _ _ rfl) ?_
          intro handled session
          cases handled <;> simp
        | display =>
          simp only
          split <;> exact stays_pure c (by simp)
        | selection =>
          simp only
          split
          · exact stays_pure c (by simp)
          · split
            · exact stays_bind (changes_commit c row.identifier row.declaredValue) (by simp)
            · exact stays_pure c (by simp)
        | toggle =>
          simp only
          split
          · exact stays_pure c (by simp)
          · exact stays_bind (changes_commit c row.identifier _) (by simp)
        | _ =>
          simp only
          split
          · exact stays_pure c (by simp)
          · exact stays_bind (changes_beginEdit c row.identifier) (by simp)

/-! ## Requests and runs -/

/-- What comes of an activation that opens a session is what comes of opening it. -/
theorem turns_of_pushed {c : Controller σ} {position : Position} {parent : SessionId}
    (opens : perform (activate position) c =
      perform (push parent position >>= fun id => pure (.pushed id)) c) :
    (perform (activate position) c).2 = (perform (push parent position) c).2 ∧
      (Request.activate position : Request σ).turns c =
        turnOf .opened (perform (push parent position) c).1 := by
  rw [Request.turns, opens]
  cases pushed : perform (push parent position) c with
  | mk result after =>
    cases result with
    | error error =>
      rw [perform_bind_error pushed]
      exact ⟨rfl, rfl⟩
    | ok id =>
      rw [perform_bind_ok pushed, perform_pure]
      exact ⟨rfl, rfl⟩

/-- The host hears of nothing during moves that make turns only. -/
theorem Moves.unheard {c after : Controller σ} {turns : List Event} (moves : Moves c turns after)
    (quiet : ∀ event ∈ turns, event.isChange = false) : Controller.heard c after = [] := by
  rw [moves.heard, List.filter_eq_nil_iff]
  simpa using quiet

/-- A result becomes a quiet event if its turn is quiet. -/
theorem quiet_turnOf {α : Type} {turn : α → Event} (quiet : ∀ value, (turn value).isChange = false)
    (result : Except SettingsError α) : ∀ event ∈ turnOf turn result, event.isChange = false := by
  intro event member
  obtain ⟨value, -, rfl⟩ := mem_turnOf member
  exact quiet value

/-- A request changes values without opening or dismissing a session, or it opens and dismisses sessions
without a change that the host hears of. -/
theorem request_cases (request : Request σ) {c : Controller σ} (linked : c.stack.Linked) :
    Changes c (request.run c) ∧ request.turns c = [] ∨
      Moves c (request.turns c) (request.run c) ∧
        ∀ event ∈ request.turns c, event.isChange = false := by
  cases request with
  | commit key raw => exact Or.inl ⟨changes_commit c key raw, rfl⟩
  | beginEdit key => exact Or.inl ⟨changes_beginEdit c key, rfl⟩
  | cancelEdit => exact Or.inl ⟨changes_cancelEdit c, rfl⟩
  | commitEdit raw => exact Or.inl ⟨changes_commitEdit c raw, rfl⟩
  | selectChoice key index => exact Or.inl ⟨changes_selectChoice c key index, rfl⟩
  | activate position =>
    rcases activate_cases c position with ⟨session, opens⟩ | ⟨changes, other⟩
    · obtain ⟨after, turns⟩ := turns_of_pushed opens
      rw [turns, Request.run, after]
      exact Or.inr ⟨moves_push linked session.id position, quiet_turnOf (fun _ => rfl) _⟩
    · refine Or.inl ⟨changes, ?_⟩
      rw [Request.turns]
      split
      · exact absurd (by assumption) (other _)
      · rfl
  | push parent position =>
    exact Or.inr ⟨moves_push linked parent position, quiet_turnOf (fun _ => rfl) _⟩
  | pop session => exact Or.inr ⟨moves_pop linked session, quiet_turnOf (fun _ => rfl) _⟩
  | dismiss => exact Or.inr ⟨moves_dismiss linked, quiet_turnOf (fun _ => rfl) _⟩
  | finish =>
    refine Or.inr ⟨?_, ?_⟩
    · rw [Request.run, finish, perform_get_bind]
      exact moves_dismissUpTo linked c.stack.depth
    · intro event member
      obtain ⟨dismissal, -, rfl⟩ := List.mem_map.mp member
      rfl
  | deleteRow position => exact Or.inl ⟨changes_report c position _ _ fun _ => rfl, rfl⟩
  | didLayout position => exact Or.inl ⟨changes_report c position _ _ fun _ => rfl, rfl⟩
  | touch position => exact Or.inl ⟨changes_report c position _ _ fun _ => rfl, rfl⟩
  | replaceHost host => exact Or.inl ⟨.of_move (.hostReplaced host) (by simp), rfl⟩
  | replaceRegistry registry => exact Or.inl ⟨.of_move (.registryReplaced registry) (by simp), rfl⟩

/-- No request has both a change that the host hears of and a session opened or dismissed, so nothing is
lost by putting one before the other. -/
theorem heard_or_turned (request : Request σ) {c : Controller σ} (linked : c.stack.Linked) :
    heard c (request.run c) = [] ∨ request.turns c = [] := by
  rcases request_cases request linked with ⟨-, none⟩ | ⟨moves, quiet⟩
  · exact Or.inr none
  · exact Or.inl (moves.unheard quiet)

/-- What can be noticed of a request is what can be noticed of the moves that it makes. -/
theorem moves_request (request : Request σ) {c : Controller σ} (linked : c.stack.Linked) :
    Moves c (request.events c) (request.run c) := by
  rw [Request.events]
  rcases request_cases request linked with ⟨changes, none⟩ | ⟨moves, quiet⟩
  · rw [none, List.append_nil]
    exact changes.moves
  · rw [moves.unheard quiet, List.nil_append]
    exact moves

/-- What can be noticed of a run is what can be noticed of the moves that it makes. -/
theorem moves_runs (requests : List (Request σ)) {c : Controller σ} (linked : c.stack.Linked) :
    Moves c (history requests c) (runs requests c) := by
  induction requests generalizing c with
  | nil => exact .done c
  | cons request rest inductionHypothesis =>
    have first := moves_request request linked
    exact first.trans (inductionHypothesis (first.linked linked))

/-- A form starts with a root session at level 0 that has no edits, for the groups that it is started with. -/
theorem start_cases {groups : List Group} {host : σ} {config : Config} {started : Controller σ}
    (start : start groups host config = .ok started) :
    ∃ title schema input fallback, Schema.build groups 0 = .ok schema ∧ started.config = config ∧
      started.stack = .ofRoot title schema (.ofValues input fallback) config.maxNesting := by
  cases built : Schema.build groups 0 with
  | error error => simp [Controller.start, built, bind, Except.bind] at start
  | ok schema =>
    simp only [Controller.start, built, bind, Except.bind, Except.ok.injEq] at start
    subst start
    exact ⟨_, schema, _, _, rfl, rfl, rfl⟩

/-- A form begins with one session, which is nested soundly. -/
theorem nested_of_start {groups : List Group} {host : σ} {config : Config} {started : Controller σ}
    (start : start groups host config = .ok started) : started.stack.Nested := by
  obtain ⟨title, schema, input, fallback, built, -, stack⟩ := start_cases start
  rw [stack]
  exact Stack.nested_ofRoot title schema _ _ (Schema.build_cases built).2.2.1

/-- The stack of every reachable controller is nested. -/
theorem Reachable.nested {c : Controller σ} (reachable : Reachable c) : c.stack.Nested := by
  obtain ⟨groups, host, config, started, requests, start, rfl⟩ := reachable
  have nested := nested_of_start start
  exact (moves_runs requests nested.toLinked).nested nested

end Controller

end SettingsForm
