import SettingsForm.Proofs.Session.Course

/-!
# Replaying what was noticed

Whoever notes the changes that the host hears of, the sessions that are opened and the dismissals can
rebuild the edits of every live session, and so the edits of the whole run. The host must not be told of
commits that change nothing: such a commit writes nothing, yet cannot be told apart from one that does.
-/

namespace SettingsForm

namespace Replay

/-- The innermost mapping takes the one that was above it under a key, unless that one is empty. -/
def handOver (key : String) (edits : Mapping) : List Mapping → List Mapping
  | [] => []
  | parent :: below =>
    if edits = [] then parent :: below
    else Mapping.insert key (.mapping edits) parent :: below

/-- What one event does to the noted mappings, innermost first. -/
def step : List Mapping → Event → List Mapping
  | noted, .opened _ => [] :: noted
  | [], _ => []
  | top :: below, .changed value row => Mapping.insert row.identifier value top :: below
  | top :: below, .closed (.merged _ key _) => handOver key top below
  | _ :: below, .closed (.finished _) => below

/-- The noted mappings after events, beginning with one empty mapping for the root. -/
def ofEvents (events : List Event) : List Mapping := events.foldl step [[]]

/-- A session that takes edits back hands them to its noted mapping. -/
theorem handOver_resume (key : String) (edits : Mapping) (parent : Session) (below : List Mapping) :
    handOver key edits (parent.edits :: below) = (parent.resume key edits).edits :: below := by
  cases edits with
  | nil => rfl
  | cons entry rest => rfl

end Replay

namespace Controller

open Operation

variable {σ : Type}

/-- The edits of the live sessions, innermost first. -/
def liveEdits (c : Controller σ) : List Mapping := c.stack.sessions.map Session.edits

variable [Host σ]

/-- What can be noticed of a move tells how the edits of the live sessions change. -/
theorem Move.replayed {c after : Controller σ} {events : List Event} (move : Move c events after)
    (silent : c.config.notifyUnchanged = false) : events.foldl Replay.step c.liveEdits = after.liveEdits := by
  cases move with
  | asked | hostReplaced | registryReplaced => rfl
  | edited live key named =>
    rw [modifyTop_of_sessions live]
    simp only [liveEdits, live, List.foldl_nil]
    rfl
  | @written top key row contract raw committed store first found stored changed =>
    obtain ⟨rest, live⟩ := top?_eq_some_iff.mp first
    have after : ((c.storing store).announced committed.value row).liveEdits =
        Mapping.insert key committed.value top.edits :: rest.map Session.edits := by
      rcases storing_cases first stored with ⟨unchanged, -⟩ | ⟨-, -, written⟩
      · simp [unchanged] at changed
      · rw [written, modifyTop_of_sessions live]
        rfl
    rw [after, ← writableRow_identifier found]
    simp only [liveEdits, live]
    rfl
  | repeated value row wanted => simp [silent] at wanted
  | @refreshed top row schema first answer valid =>
    obtain ⟨rest, live⟩ := top?_eq_some_iff.mp first
    have kept : (dropStaleEdit { top with schema }).edits = top.edits := by
      rcases dropStaleEdit_cases { top with schema } with same | ⟨-, ended⟩
      · rw [same]
        rfl
      · rw [ended]
        rfl
    rw [modifyTop_of_sessions (c := c.consulted top.schema.groups row) live]
    simp only [liveEdits, live, List.map_cons, kept, List.foldl_nil]
  | opened input fallback asked live found recurses built room =>
    simp only [liveEdits, live]
    rfl
  | finished live =>
    simp only [liveEdits, live]
    rfl
  | @merged top parent below origin live opened named =>
    simp only [liveEdits, live, List.map_cons]
    exact Replay.handOver_resume origin.mergeKey top.edits parent (below.map Session.edits)

/-- What can be noticed of a course of moves tells how the edits change, by induction on the moves. -/
theorem Moves.replayed {c after : Controller σ} {events : List Event} (moves : Moves c events after)
    (silent : c.config.notifyUnchanged = false) : events.foldl Replay.step c.liveEdits = after.liveEdits := by
  induction moves with
  | done c => rfl
  | step move _ inductionHypothesis =>
    rw [List.foldl_append, move.replayed silent]
    exact inductionHypothesis (by rw [move.config, silent])

/-- The edits that finishing returns are those of the last dismissal. -/
theorem dismissals_of_ok {c after : Controller σ} (linked : c.stack.Linked) {most : Nat}
    {edits : Mapping} (finished : perform (dismissUpTo most) c = (.ok edits, after)) :
    ∃ earlier, dismissals most c = earlier ++ [.finished edits] := by
  induction most generalizing c with
  | zero => simp [dismissUpTo, perform_get_bind, perform_throw] at finished
  | succ most inductionHypothesis =>
    have first := moves_dismiss linked
    cases dismissed : perform dismiss c with
    | mk result reached =>
      rw [dismissed] at first
      cases result with
      | error error =>
        rw [dismissUpTo, perform_bind_error dismissed] at finished
        simp at finished
      | ok dismissal =>
        rw [dismissUpTo, perform_bind_ok dismissed] at finished
        rw [dismissals, dismissed]
        cases dismissal with
        | finished last =>
          obtain ⟨same, -⟩ := Prod.mk.inj finished
          obtain rfl := Except.ok.inj same
          simp only [dismissals_empty (dismiss_finished linked dismissed)]
          exact ⟨[], rfl⟩
        | merged parent key handed =>
          obtain ⟨earlier, rest⟩ := inductionHypothesis (first.linked linked) finished
          simp only [rest]
          exact ⟨_ :: earlier, rfl⟩

/-- Replaying what was noticed of a run gives the edits of the live sessions, as long as the host is not
told of commits that change nothing. The mapping noted for the root when it is dismissed holds the edits of
the whole run, and these are what finishing returns. -/
theorem replay_history {groups : List Group} {host : σ} {config : Config} {started : Controller σ}
    (start : start groups host config = .ok started) (silent : config.notifyUnchanged = false)
    (requests : List (Request σ)) :
    Replay.ofEvents (history requests started) = (runs requests started).stack.sessions.map Session.edits ∧
      (∀ before edits after,
        history requests started = before ++ .closed (.finished edits) :: after →
          Replay.ofEvents before = [edits]) ∧
      ∀ edits, (perform finish (runs requests started)).1 = .ok edits →
        ∃ before, (Request.finish : Request σ).events (runs requests started) =
          before ++ [.closed (.finished edits)] := by
  obtain ⟨title, schema, input, fallback, -, rfl, stack⟩ := start_cases start
  have linked := (nested_of_start start).toLinked
  have course := moves_runs requests linked
  have blank : started.liveEdits = [[]] := by
    rw [liveEdits, stack]
    rfl
  refine ⟨?_, ?_, ?_⟩
  · rw [Replay.ofEvents, ← blank]
    exact course.replayed silent
  · intro before edits after split
    rw [split] at course
    obtain ⟨middle, reached, earlier, dismissal, -⟩ := course.around
    rw [Replay.ofEvents, ← blank, earlier.replayed silent]
    cases dismissal with
    | finished live =>
      simp only [liveEdits, live]
      rfl
  · intro edits finished
    rw [finish, perform_get_bind] at finished
    obtain ⟨earlier, ends⟩ := dismissals_of_ok (course.linked linked) (Prod.ext finished rfl)
    rw [Request.events, Request.turns, ends, List.map_append, ← List.append_assoc]
    exact ⟨_, rfl⟩

/-- The name and the address of a person are entered, and then the form is finished. -/
theorem replay_history_person :
    ∃ before, history [.commit "name" (.string "Ann"), .push 0 ⟨0, 1⟩,
        .commit "street" (.string "Elm"), .finish] personStarted =
          before ++ [.closed (.finished
            [("home", .mapping [("street", .string "Elm")]), ("name", .string "Ann")])] ∧
      Replay.ofEvents before =
        [[("home", .mapping [("street", .string "Elm")]), ("name", .string "Ann")]] := by
  have split : history [.commit "name" (.string "Ann"), .push 0 ⟨0, 1⟩, .commit "street" (.string "Elm"),
      .finish] personStarted = [_, _, _, _] ++ .closed (.finished _) :: [] := rfl
  exact ⟨_, split, (replay_history start_person rfl _).2.1 _ _ _ split⟩

end Controller

end SettingsForm
