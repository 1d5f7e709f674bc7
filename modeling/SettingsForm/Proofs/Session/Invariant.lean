import SettingsForm.Proofs.Session.Navigation
import SettingsForm.Proofs.Session.Request

/-!
# Invariants of a running form

A property of controllers is an invariant if it survives each thing that an operation can do: an answer of
the host, an edit opened or ended, a committed value, another schema, a session opened, a session dismissed.
Every operation is made of these, so it keeps each invariant, whether it succeeds or fails
(`Invariant.request`), and so does a run (`Invariant.runs`).

Unlike the moves of a controller, the cases say where the values of a newly opened session come from.
-/

namespace SettingsForm

namespace Controller

open Operation

variable {σ : Type}

/-- The operation keeps the property, whether it succeeds or fails. -/
def Keeps {α : Type} (property : Controller σ → Prop) (operation : Operation σ α) : Prop :=
  ∀ c, property c → property (perform operation c).2

namespace Keeps

variable {α β : Type} {property : Controller σ → Prop}

/-- Returning a value leaves the controller alone. -/
theorem pure (value : α) : Keeps property (pure value : Operation σ α) := fun _ holds => holds

/-- Raising an error leaves the controller alone. -/
theorem throw (error : SettingsError) : Keeps property (throw error : Operation σ α) := fun _ holds => holds

/-- Reading the controller leaves it alone. -/
theorem get : Keeps property (get : Operation σ (Controller σ)) := fun _ holds => holds

/-- A question about the controller leaves it alone, whatever it answers. -/
theorem query (read : Controller σ → Except SettingsError α) : Keeps property (query read) := by
  intro c holds
  rw [perform_query]
  exact holds

/-- Nothing is rolled back, so a sequence keeps what each of its steps keeps. -/
theorem bind {first : Operation σ α} {next : α → Operation σ β} (kept : Keeps property first)
    (others : ∀ value, Keeps property (next value)) : Keeps property (first >>= next) := by
  intro c holds
  have middle := kept c holds
  rw [perform_bind]
  cases performed : perform first c with
  | mk result after =>
    rw [performed] at middle
    cases result with
    | ok value => exact others value after middle
    | error error => exact middle

end Keeps

variable [Host σ]

/-- What has to be shown of a property so that operations keep it. The host and its record of calls play no
part in it. -/
structure Invariant (property : Controller σ → Prop) : Prop where
  host : ∀ {c : Controller σ} (host : σ) (calls : List HostCall),
    property c → property { c with host, calls }
  edited : ∀ {c : Controller σ} (key : Option String),
    property c → property (c.modifyTop (·.withEditing key))
  stored : ∀ {c : Controller σ} {session : Session} {key : String} {row : Row} {contract : Contract}
    {raw : Value} {committed : Committed} {store : Store}, c.top? = some session →
    c.writableRow key = .ok (row, contract) →
    session.store.commit key row contract raw c.config.lenientStrings = .ok (committed, store) →
    property c → property (c.storing store)
  refreshed : ∀ {c : Controller σ} {session : Session} {row : Row} {schema : Schema},
    c.top? = some session → c.advice session.schema.groups row ≠ .unchanged →
    Controller.refreshed session.schema (c.advice session.schema.groups row) = .ok schema →
    property c → property (c.modifyTop fun session => dropStaleEdit { session with schema })
  opened : ∀ {c asked : Controller σ} {parent id : SessionId} {position : Position} {session : Session}
    {row : Row} {groups : List Group} {schema : Schema} {stack : Stack},
    c.nestingRow parent position = .ok (session, row) → Supplies c row groups asked →
    Schema.build groups (session.level + 1) = .ok schema →
    c.stack.push? parent position row schema (asked.childStore session row) = .ok (id, stack) →
    property c → property { c with stack }
  dismissed : ∀ {c : Controller σ} {id : SessionId} {popped : Popped}, c.stack.pop? id = .ok popped →
    property c → property { c with stack := popped.stack }

namespace Invariant

variable {property : Controller σ → Prop}

/-- The host was told or asked something. -/
theorem told (invariant : Invariant property) {c : Controller σ} (calls : List HostCall) (host : σ)
    (holds : property c) : property { c.record calls with host } :=
  invariant.host (c := c) host (c.calls ++ calls) holds

/-- A question put to the host changes the host and its record of calls only. -/
theorem ask {α : Type} (invariant : Invariant property) (call : HostCall) (question : σ → α × σ) :
    Keeps property (ask call question) := by
  intro c holds
  rw [perform_ask]
  exact invariant.told _ _ holds

/-- Opening or ending an edit keeps an invariant. -/
theorem endEdit (invariant : Invariant property) (key : Option String) :
    Keeps property (modify (·.modifyTop (·.withEditing key)) : Operation σ Unit) := by
  intro c holds
  rw [perform_modify]
  exact invariant.edited key holds

/-- Carrying out the host's answer to the question for a refresh. -/
theorem answered (invariant : Invariant property) {c after : Controller σ} {session : Session} {row : Row}
    {result : Except SettingsError Bool} (top : c.top? = some session)
    (run : RefreshRun c session row (result, after)) (holds : property c) : property after := by
  have consulted : property (c.consulted session.schema.groups row) := invariant.told _ _ holds
  cases run with
  | declined answer => exact consulted
  | rejected invalid => exact consulted
  | accepted answer valid => exact invariant.told _ _ (invariant.refreshed top answer valid holds)

/-- A commit stores a value, tells the host and may refresh the rows; an invariant survives each step. -/
theorem commit (invariant : Invariant property) (key : String) (raw : Value) :
    Keeps property (commit key raw) := by
  intro c holds
  have run := commit_run c key raw
  have announced {session : Session} {store : Store} {value : Value} {row : Row}
      (top : c.top? = some session) (stored : property (c.storing store)) :
      property ((c.storing store).announced value row) ∧
        ((c.storing store).announced value row).top? = some { session with store } := by
    refine ⟨invariant.told _ _ stored, ?_⟩
    obtain ⟨rest, live⟩ := top?_eq_some_iff.mp top
    rw [storing, modifyTop_of_sessions live]
    rfl
  generalize perform (Controller.commit key raw) c = ended at run ⊢
  cases run with
  | unwritable refused => exact holds
  | unfit top found failed => exact holds
  | silent top found stored unheard => exact invariant.stored top found stored holds
  | heard top found stored notified run =>
    obtain ⟨told, first⟩ := announced top (invariant.stored top found stored holds)
    exact invariant.answered first run told
  | rejected top found stored notified run =>
    obtain ⟨told, first⟩ := announced top (invariant.stored top found stored holds)
    exact invariant.answered first run told

/-- Beginning an edit keeps an invariant, also where the row refuses it. -/
theorem beginEdit (invariant : Invariant property) (key : String) : Keeps property (beginEdit key) := by
  refine Keeps.bind (Keeps.query _) ?_
  intro writable
  exact invariant.endEdit (some key)

/-- Cancelling an edit keeps an invariant. -/
theorem cancelEdit (invariant : Invariant property) : Keeps property (σ := σ) cancelEdit := by
  refine Keeps.bind (Keeps.query _) ?_
  intro session
  exact invariant.endEdit none

/-- Ending an edit with a value keeps an invariant, also where the value or the refresh is rejected. -/
theorem commitEdit (invariant : Invariant property) (raw : Value) : Keeps property (commitEdit raw) := by
  refine Keeps.bind Keeps.get ?_
  intro c
  split
  · exact Keeps.throw _
  · rename_i key editing
    refine Keeps.bind (invariant.commit key raw) ?_
    intro outcome
    refine Keeps.bind Keeps.get ?_
    intro after
    split
    · exact Keeps.bind (invariant.endEdit none) fun _ => Keeps.pure outcome
    · exact Keeps.bind (Keeps.pure ()) fun _ => Keeps.pure outcome

/-- Selecting a choice is a commit, so it keeps an invariant. -/
theorem selectChoice (invariant : Invariant property) (key : String) (index : Nat) :
    Keeps property (selectChoice key index) := by
  refine Keeps.bind Keeps.get ?_
  intro c
  split
  · exact invariant.commit key _
  · exact Keeps.throw _

/-- Supplying a child's rows asks the host at most. -/
theorem supplied (invariant : Invariant property) {c asked : Controller σ} {row : Row} {groups : List Group}
    (supplied : Supplies c row groups asked) (holds : property c) : property asked := by
  cases supplied with
  | own carried => exact holds
  | host bare answer => exact invariant.told _ _ holds

/-- Opening a session keeps an invariant, by its case for a session that opens. -/
theorem push (invariant : Invariant property) (parent : SessionId) (position : Position) :
    Keeps property (push parent position) := by
  intro c holds
  have run := push_run c parent position
  generalize perform (Controller.push parent position) c = ended at run ⊢
  cases run with
  | refused closed => exact holds
  | childless found bare answer => exact invariant.told _ _ holds
  | invalid found supplied faulty => exact invariant.supplied supplied holds
  | blocked found supplied built full => exact invariant.told _ _ (invariant.supplied supplied holds)
  | opened found supplied built pushed =>
    have nested := invariant.opened found supplied built pushed holds
    cases supplied with
    | own carried => exact invariant.told _ _ nested
    | host bare answer => exact invariant.host (c := { c with stack := _ }) _ _ nested

/-- Dismissing a session keeps an invariant, also where the dismissal is refused. -/
theorem pop (invariant : Invariant property) (id : SessionId) : Keeps property (pop id) := by
  intro c holds
  cases accepted : c.stack.pop? id with
  | error error =>
    rw [pop_refused accepted]
    exact holds
  | ok popped =>
    rw [pop_accepted accepted]
    exact invariant.host (c := { c with stack := popped.stack }) _ _ (invariant.dismissed accepted holds)

/-- Dismissing the innermost session keeps an invariant. -/
theorem dismiss (invariant : Invariant property) : Keeps property (σ := σ) dismiss := by
  refine Keeps.bind (Keeps.query _) ?_
  intro session
  exact invariant.pop session.id

/-- Repeated dismissals keep an invariant, by induction on their number. -/
theorem dismissUpTo (invariant : Invariant property) (most : Nat) : Keeps property (dismissUpTo most) := by
  induction most with
  | zero => exact Keeps.bind Keeps.get fun c => Keeps.throw _
  | succ most inductionHypothesis =>
    refine Keeps.bind invariant.dismiss ?_
    intro dismissal
    cases dismissal with
    | finished edits => exact Keeps.pure edits
    | merged parent key edits => exact inductionHypothesis

/-- Finishing keeps an invariant, being repeated dismissals. -/
theorem finish (invariant : Invariant property) : Keeps property (σ := σ) finish := by
  refine Keeps.bind Keeps.get ?_
  intro c
  exact invariant.dismissUpTo c.stack.depth

/-- Activating a row ends in one of the other operations, so it keeps an invariant. -/
theorem activate (invariant : Invariant property) (position : Position) :
    Keeps property (activate position) := by
  refine Keeps.bind (Keeps.query _) fun session => Keeps.bind (Keeps.query _) fun row => ?_
  refine Keeps.bind Keeps.get ?_
  intro c
  by_cases recurses : (c.contractFor row).recurses = true
  · rw [if_pos recurses]
    exact Keeps.bind (invariant.push session.id position) fun id => Keeps.pure _
  · rw [if_neg recurses]
    cases (c.contractFor row).interaction with
    | trigger => exact Keeps.bind (invariant.ask _ _) fun _ => Keeps.pure _
    | custom => exact Keeps.bind (invariant.ask _ _) fun handled => Keeps.pure _
    | display =>
      simp only
      split <;> exact Keeps.pure _
    | selection =>
      simp only
      split
      · exact Keeps.pure _
      · split
        · exact Keeps.bind (invariant.commit _ _) fun outcome => Keeps.pure _
        · exact Keeps.pure _
    | toggle =>
      simp only
      split
      · exact Keeps.pure _
      · exact Keeps.bind (invariant.commit _ _) fun outcome => Keeps.pure _
    | _ =>
      simp only
      split
      · exact Keeps.pure _
      · exact Keeps.bind (invariant.beginEdit _) fun _ => Keeps.pure _

/-- Reporting something about a row to the host, or asking it to delete the row. -/
theorem report {α : Type} (invariant : Invariant property) (position : Position) (call : Row → HostCall)
    (question : Row → σ → α × σ) :
    Keeps property (query (·.rowAt position) >>= fun row => Controller.ask (call row) (question row)) :=
  Keeps.bind (Keeps.query _) fun row => invariant.ask (call row) (question row)

/-- A request keeps the property, whether it succeeds or fails. Another registry does so if the property
does not depend on it. -/
theorem request (invariant : Invariant property) {admits : Registry → Prop}
    (registry : ∀ {c : Controller σ} {registry : Registry}, admits registry → property c →
      property { c with registry })
    (request : Request σ) (admitted : ∀ registry, request = .replaceRegistry registry → admits registry)
    {c : Controller σ} (holds : property c) : property (request.run c) := by
  cases request with
  | commit key raw => exact invariant.commit key raw c holds
  | beginEdit key => exact invariant.beginEdit key c holds
  | cancelEdit => exact invariant.cancelEdit c holds
  | commitEdit raw => exact invariant.commitEdit raw c holds
  | selectChoice key index => exact invariant.selectChoice key index c holds
  | activate position => exact invariant.activate position c holds
  | push parent position => exact invariant.push parent position c holds
  | pop session => exact invariant.pop session c holds
  | dismiss => exact invariant.dismiss c holds
  | finish => exact invariant.finish c holds
  | deleteRow position => exact invariant.report position _ _ c holds
  | didLayout position => exact invariant.report position _ _ c holds
  | touch position => exact invariant.report position _ _ c holds
  | replaceHost host => exact invariant.host host c.calls holds
  | replaceRegistry other => exact registry (admitted other rfl) holds

/-- What a start establishes and every operation keeps holds after every run. -/
theorem runs (invariant : Invariant property) {admits : Registry → Prop}
    (registry : ∀ {c : Controller σ} {registry : Registry}, admits registry → property c →
      property { c with registry })
    (requests : List (Request σ))
    (admitted : ∀ registry, .replaceRegistry registry ∈ requests → admits registry)
    {c : Controller σ} (holds : property c) : property (runs requests c) := by
  induction requests generalizing c with
  | nil => exact holds
  | cons request rest inductionHypothesis =>
    refine inductionHypothesis ?_ ?_
    · intro other later
      exact admitted other (List.mem_cons_of_mem request later)
    · refine invariant.request registry request ?_ holds
      rintro other rfl
      exact admitted other List.mem_cons_self

end Invariant

end Controller

end SettingsForm
