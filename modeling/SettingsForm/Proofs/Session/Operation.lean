import SettingsForm.Proofs.Result
import SettingsForm.Session.Controller

/-!
# Operations as functions

An operation is read as a function from a controller to its result and the controller that it leaves. The
laws below evaluate the pieces of which operations are made, one step at a time: a failed step ends the
operation and keeps what was done before it, and a question to the host changes nothing but the host and
the record of calls.
-/

namespace SettingsForm

namespace Operation

variable {σ α β : Type}

/-- The result of an operation on a controller, and the controller that it leaves. -/
def perform (operation : Operation σ α) (c : Controller σ) :
    Except SettingsError α × Controller σ := operation.run c

/-- Returning a value changes nothing. -/
theorem perform_pure (value : α) (c : Controller σ) :
    perform (pure value : Operation σ α) c = (.ok value, c) := rfl

/-- Raising an error changes nothing. -/
theorem perform_throw (error : SettingsError) (c : Controller σ) :
    perform (throw error : Operation σ α) c = (.error error, c) := rfl

/-- Reading the controller yields it and changes nothing. -/
theorem perform_get (c : Controller σ) :
    perform (get : Operation σ (Controller σ)) c = (.ok c, c) := rfl

/-- A modification always succeeds. -/
theorem perform_modify (change : Controller σ → Controller σ) (c : Controller σ) :
    perform (modify change : Operation σ Unit) c = (.ok (), change c) := rfl

/-- The second step starts from what the first one left, unless that failed. -/
theorem perform_bind (first : Operation σ α) (next : α → Operation σ β) (c : Controller σ) :
    perform (first >>= next) c = match perform first c with
      | (.ok value, after) => perform (next value) after
      | (.error error, after) => (.error error, after) := by
  obtain ⟨⟨result, after⟩, reached⟩ : ∃ reached, perform first c = reached := ⟨_, rfl⟩
  rw [reached]
  cases result with
  | ok value => exact Result.run_bind_ok reached
  | error error => exact Result.run_bind_error reached

/-- After a step that succeeded, an operation goes on with its value. -/
theorem perform_bind_ok {first : Operation σ α} {next : α → Operation σ β} {c after : Controller σ}
    {value : α} (succeeded : perform first c = (.ok value, after)) :
    perform (first >>= next) c = perform (next value) after := by
  rw [perform_bind, succeeded]

/-- A step that fails ends the operation, and its effects stay. -/
theorem perform_bind_error {first : Operation σ α} {next : α → Operation σ β} {c after : Controller σ}
    {error : SettingsError} (failed : perform first c = (.error error, after)) :
    perform (first >>= next) c = (.error error, after) := by
  rw [perform_bind, failed]

/-- Reading leaves the controller as it is, also when it fails. -/
theorem perform_query (read : Controller σ → Except SettingsError α) (c : Controller σ) :
    perform (Controller.query read) c = (read c, c) := by
  rw [Controller.query, perform_bind, perform_get]
  cases answer : read c with
  | ok value => simp [Controller.query.liftExcept, answer, perform_pure]
  | error error => simp [Controller.query.liftExcept, answer, perform_throw]

/-- A question to the host always has an answer. It is recorded and may change the host. -/
theorem perform_ask (call : HostCall) (question : σ → α × σ) (c : Controller σ) :
    perform (Controller.ask call question) c =
      (.ok (question c.host).1, { c.record [call] with host := (question c.host).2 }) := rfl

/-- To tell the host something is recorded and cannot fail. -/
theorem perform_tell (call : HostCall) (notice : σ → σ) (c : Controller σ) :
    perform (Controller.tell call notice) c =
      (.ok (), { c.record [call] with host := notice c.host }) := rfl

/-- An operation that reads the controller goes on with it. -/
theorem perform_get_bind (next : Controller σ → Operation σ β) (c : Controller σ) :
    perform (get >>= next) c = perform (next c) c :=
  perform_bind_ok (perform_get c)

/-- A question that is answered hands its answer on. -/
theorem perform_query_ok {read : Controller σ → Except SettingsError α} {next : α → Operation σ β}
    {c : Controller σ} {value : α} (answer : read c = .ok value) :
    perform (Controller.query read >>= next) c = perform (next value) c :=
  perform_bind_ok (by rw [perform_query, answer])

/-- A question that is refused ends the operation without effect. -/
theorem perform_query_error {read : Controller σ → Except SettingsError α} {next : α → Operation σ β}
    {c : Controller σ} {error : SettingsError} (answer : read c = .error error) :
    perform (Controller.query read >>= next) c = (.error error, c) :=
  perform_bind_error (by rw [perform_query, answer])

end Operation

end SettingsForm
