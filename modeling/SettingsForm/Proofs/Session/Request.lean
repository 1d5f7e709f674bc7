import SettingsForm.Proofs.Session.Operation

/-!
# Requests and what comes of them

A request is one use of a controller by the presentation: an operation with its arguments, or the host or
the registry being replaced between operations. A run makes requests one after the other, whether they
succeed or fail, and a controller is reachable if a run from a newly started form ends in it.

`Request.events` is what can be noticed of a request from outside: the changes that the host hears of, the
sessions that are opened, and the dismissals. To finish a form is to dismiss session after session, so it
is noticed as that many dismissals.
-/

namespace SettingsForm

open Operation

/-- One use of a controller. The host and the registry may be replaced by any other at any time. -/
inductive Request (σ : Type) where
  | commit (key : String) (raw : Value)
  | beginEdit (key : String)
  | cancelEdit
  | commitEdit (raw : Value)
  | selectChoice (key : String) (index : Nat)
  | activate (position : Position)
  | push (parent : SessionId) (position : Position)
  | pop (session : SessionId)
  | dismiss
  | finish
  | deleteRow (position : Position)
  | didLayout (position : Position)
  | touch (position : Position)
  | replaceHost (host : σ)
  | replaceRegistry (registry : Registry)

/-- What can be noticed of a run. -/
inductive Event where
  /-- The host heard of a value for a row. -/
  | changed (value : Value) (row : Row)
  /-- A nested session was opened. -/
  | opened (session : SessionId)
  /-- The innermost session was dismissed. -/
  | closed (dismissal : Dismissal)

/-- The change that a call to the host tells of. -/
def HostCall.change? : HostCall → Option Event
  | .rowChanged value row => some (.changed value row)
  | _ => none

namespace Controller

variable {σ : Type} [Host σ]

/-- The ids of the live sessions, innermost first. -/
def liveIds (c : Controller σ) : List SessionId := c.stack.sessions.map (·.id)

/-- The changes that the host heard of between two moments of a run. -/
def heard (before after : Controller σ) : List Event :=
  (after.calls.drop before.calls.length).filterMap HostCall.change?

/-- What the result of an operation tells of the sessions, nothing if it failed. -/
def turnOf {α : Type} (turn : α → Event) : Except SettingsError α → List Event
  | .ok value => [turn value]
  | .error _ => []

/-- A turn is that of a result that succeeded. -/
theorem mem_turnOf {α : Type} {turn : α → Event} {result : Except SettingsError α} {event : Event}
    (member : event ∈ turnOf turn result) : ∃ value, result = .ok value ∧ event = turn value := by
  cases result with
  | ok value => exact ⟨value, rfl, List.mem_singleton.mp member⟩
  | error error => simp [turnOf] at member

/-- What comes of dismissing the innermost session a number of times. -/
def dismissals : Nat → Controller σ → List Dismissal
  | 0, _ => []
  | most + 1, c =>
    match perform dismiss c with
    | (.ok dismissal, after) => dismissal :: dismissals most after
    | (.error _, _) => []

end Controller

namespace Request

variable {σ : Type} [Host σ]

/-- The controller that a request leaves, whether it succeeds or fails. -/
def run : Request σ → Controller σ → Controller σ
  | .commit key raw, c => (perform (Controller.commit key raw) c).2
  | .beginEdit key, c => (perform (Controller.beginEdit key) c).2
  | .cancelEdit, c => (perform Controller.cancelEdit c).2
  | .commitEdit raw, c => (perform (Controller.commitEdit raw) c).2
  | .selectChoice key index, c => (perform (Controller.selectChoice key index) c).2
  | .activate position, c => (perform (Controller.activate position) c).2
  | .push parent position, c => (perform (Controller.push parent position) c).2
  | .pop session, c => (perform (Controller.pop session) c).2
  | .dismiss, c => (perform Controller.dismiss c).2
  | .finish, c => (perform Controller.finish c).2
  | .deleteRow position, c => (perform (Controller.deleteRow position) c).2
  | .didLayout position, c => (perform (Controller.didLayout position) c).2
  | .touch position, c => (perform (Controller.touch position) c).2
  | .replaceHost host, c => { c with host }
  | .replaceRegistry registry, c => { c with registry }

/-- The session that a request opened and the dismissals that it made, as its result tells. -/
def turns : Request σ → Controller σ → List Event
  | .activate position, c =>
    match (perform (Controller.activate position) c).1 with
    | .ok (.pushed session) => [.opened session]
    | _ => []
  | .push parent position, c => Controller.turnOf .opened (perform (Controller.push parent position) c).1
  | .pop session, c => Controller.turnOf .closed (perform (Controller.pop session) c).1
  | .dismiss, c => Controller.turnOf .closed (perform Controller.dismiss c).1
  | .finish, c => (Controller.dismissals c.stack.depth c).map .closed
  | _, _ => []

/-- What can be noticed of a request: the changes that the host hears of, then what its result tells. -/
def events (request : Request σ) (c : Controller σ) : List Event :=
  Controller.heard c (request.run c) ++ request.turns c

end Request

namespace Controller

variable {σ : Type} [Host σ]

/-- The controller after a run. -/
def runs (requests : List (Request σ)) (c : Controller σ) : Controller σ :=
  requests.foldl (fun c request => request.run c) c

/-- What can be noticed of a run, in order. -/
def history : List (Request σ) → Controller σ → List Event
  | [], _ => []
  | request :: rest, c => request.events c ++ history rest (request.run c)

/-- A run from the start of a form, with some configuration and some host, ends in the controller. -/
def Reachable (c : Controller σ) : Prop :=
  ∃ groups host config started requests,
    start groups host config = .ok started ∧ c = runs requests started

/-- A form of one text row and one row that opens a form of one text row. -/
def personForm : List Group :=
  [{ title := "Person", key := none, header := none, footer := none
     rows := [.ofPayload "Name" "name" (.string ""), .ofPayload "Home" "home" (.multiLevel (some
       [{ title := "Address", key := none, header := none, footer := none
          rows := [.ofPayload "Street" "street" (.string "")] }]))] }]

/-- That form, started with a host that supplies no values. -/
def personStarted : Controller StaticHost :=
  { host := .ofValues [] []
    registry := .empty
    config := .standard
    stack := .ofRoot "Person"
      { level := 0, groups := personForm, index := ⟨[("name", ⟨0, 0⟩)], [("home", ⟨0, 1⟩)]⟩, groupKeys := [] }
      (.ofValues [] []) 8
    calls := [.initialValues, .defaultValues] }

/-- The form of a person starts. -/
theorem start_person : start personForm (StaticHost.ofValues [] []) .standard = .ok personStarted := rfl

/-- A run takes its first request first. -/
theorem runs_cons (request : Request σ) (requests : List (Request σ)) (c : Controller σ) :
    runs (request :: requests) c = runs requests (request.run c) := rfl

/-- A run of two lists of requests goes through one after the other. -/
theorem runs_append (first second : List (Request σ)) (c : Controller σ) :
    runs (first ++ second) c = runs second (runs first c) := List.foldl_append

/-- More requests lead from a reachable controller to reachable ones. -/
theorem Reachable.runs {c : Controller σ} (reachable : Reachable c) (requests : List (Request σ)) :
    Reachable (runs requests c) := by
  obtain ⟨groups, host, config, started, before, start, rfl⟩ := reachable
  exact ⟨groups, host, config, started, before ++ requests, start, (runs_append _ _ _).symm⟩

end Controller

end SettingsForm
