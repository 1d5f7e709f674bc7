import SettingsForm.Command.Documents
import SettingsForm.Files.Store
import SettingsForm.Proofs.Result

/-!
# Work on a store of files

Work on files is safe if its failure leaves all files as they were (`Safe`). Work that only reads is safe whatever
its outcome, and so is a single change, because the store takes back a change that fails. After a change only such
work may follow as cannot fail any more (`safe_commit_bind`).

Loading a document only reads files.
-/

namespace SettingsForm

namespace Attempt

variable {α β : Type} {store : FileStore}

/-- If the work fails, the files are as they were. Otherwise its result and the files after it are such. -/
structure Safe (store : FileStore) (work : Attempt (StateM FileStore) α) (leaves : α → FileStore → Prop) :
    Prop where
  failed : ∀ failure after, work.run store = (.error failure, after) → after = store
  done : ∀ value after, work.run store = (.ok value, after) → leaves value after

/-- The work only reads files. -/
def Reads (work : Attempt (StateM FileStore) α) : Prop := ∀ store, (work.run store).2 = store

/-- The work has a result on the files. -/
def Yields (store : FileStore) (work : Attempt (StateM FileStore) α) (value : α) : Prop :=
  (work.run store).1 = .ok value

namespace Safe

variable {work : Attempt (StateM FileStore) α} {leaves : α → FileStore → Prop}

/-- Work that fails and leaves the files as they were is safe. -/
theorem of_error {failure : Failure} (ran : work.run store = (.error failure, store)) : Safe store work leaves where
  failed := fun _ _ again => (Prod.ext_iff.mp (again.symm.trans ran)).2
  done := fun _ _ again => nomatch again.symm.trans ran

/-- Work that succeeds is safe if what it leaves is as promised. -/
theorem of_ok {value : α} {after : FileStore} (ran : work.run store = (.ok value, after)) (holds : leaves value after) :
    Safe store work leaves where
  failed := fun _ _ again => nomatch again.symm.trans ran
  done := by
    intro other reached again
    have same : (Except.ok value, after) = ((Except.ok other : Except Failure α), reached) := ran.symm.trans again
    obtain ⟨rfl, rfl⟩ : value = other ∧ after = reached := by simpa using same
    exact holds

/-- Work that runs like safe work is safe. -/
theorem congr {other : Attempt (StateM FileStore) α} (safe : Safe store other leaves)
    (same : work.run store = other.run store) : Safe store work leaves where
  failed := fun failure after ran => safe.failed failure after (same.symm.trans ran)
  done := fun value after ran => safe.done value after (same.symm.trans ran)

end Safe

/-- A result at hand is reported in other words, and no file is touched. -/
theorem run_ofResult {ε : Type} (report : ε → Failure) (result : Except ε α) (store : FileStore) :
    (ofResult report result : Attempt (StateM FileStore) α).run store = (result.mapError report, store) := by
  cases result <;> rfl

/-- An operation on files is carried out, and only its error is reported in other words. -/
theorem run_perform (report : FileError → Failure) (operation : StateM FileStore (Except FileError α))
    (store : FileStore) : (perform report operation).run store =
      ((operation store).1.mapError report, (operation store).2) := by
  have lifted : (ExceptT.lift operation : Attempt (StateM FileStore) _).run store =
      (.ok (operation store).1, (operation store).2) := rfl
  rw [perform, Result.run_bind_ok lifted, run_ofResult]

/-! ## Reading -/

/-- A value at hand touches no file. -/
theorem reads_pure (value : α) : Reads (pure value) := fun _ => rfl

/-- Giving up touches no file. -/
theorem reads_throw (failure : Failure) : Reads (throw failure : Attempt (StateM FileStore) α) := fun _ => rfl

/-- A result at hand touches no file, whatever it is. -/
theorem reads_ofResult {ε : Type} (report : ε → Failure) (result : Except ε α) : Reads (ofResult report result) := by
  intro store
  rw [run_ofResult]

/-- An operation that only reads does so under whatever name its errors are reported. -/
theorem reads_perform (report : FileError → Failure) {operation : StateM FileStore (Except FileError α)}
    (reads : ∀ store, (operation store).2 = store) : Reads (perform report operation) := by
  intro store
  rw [run_perform]
  exact reads store

/-- Reading ends with a value or with a failure, on the files that there were. -/
theorem Reads.ends {work : Attempt (StateM FileStore) α} (reads : Reads work) (store : FileStore) :
    (∃ value, work.run store = (.ok value, store)) ∨ ∃ failure, work.run store = (.error failure, store) := by
  have same := reads store
  obtain ⟨⟨result, after⟩, reached⟩ : ∃ reached, work.run store = reached := ⟨_, rfl⟩
  obtain rfl : after = store := by rwa [reached] at same
  cases result with
  | ok value => exact Or.inl ⟨value, reached⟩
  | error failure => exact Or.inr ⟨failure, reached⟩

section Bind

variable {first : Attempt (StateM FileStore) α} {next : α → Attempt (StateM FileStore) β}

/-- Work that only reads may be followed by such work. -/
theorem Reads.bind (reads : Reads first) (others : ∀ value, Reads (next value)) : Reads (first >>= next) := by
  intro store
  rcases reads.ends store with ⟨value, reached⟩ | ⟨failure, reached⟩
  · rw [Result.run_bind_ok reached]
    exact others value store
  · rw [Result.run_bind_error reached]

/-- After reading, a result comes from what was read, on the same files. -/
theorem Reads.yields_bind_iff (reads : Reads first) {result : β} : Yields store (first >>= next) result ↔
    ∃ value, Yields store first value ∧ Yields store (next value) result := by
  rcases reads.ends store with ⟨value, reached⟩ | ⟨failure, reached⟩
  · simp [Yields, Result.run_bind_ok reached, reached]
  · simp [Yields, Result.run_bind_error reached, reached]

/-- What follows on reading has to be safe after each result. -/
theorem Reads.safe_bind (reads : Reads first) {leaves : β → FileStore → Prop}
    (others : ∀ value, Yields store first value → Safe store (next value) leaves) :
    Safe store (first >>= next) leaves := by
  rcases reads.ends store with ⟨value, reached⟩ | ⟨failure, reached⟩
  · exact (others value (congrArg Prod.fst reached)).congr (Result.run_bind_ok reached)
  · exact .of_error (Result.run_bind_error reached)

end Bind

/-- A result at hand is yielded just if it is a value. -/
theorem yields_ofResult {ε : Type} (report : ε → Failure) (result : Except ε α) (value : α) :
    Yields store (ofResult report result) value ↔ result = .ok value := by
  rw [Yields, run_ofResult]
  exact Result.mapError_eq_ok_iff

/-- An operation yields what it returns. -/
theorem yields_perform (report : FileError → Failure) (operation : StateM FileStore (Except FileError α))
    (value : α) : Yields store (perform report operation) value ↔ (operation store).1 = .ok value := by
  rw [Yields, run_perform]
  exact Result.mapError_eq_ok_iff

/-- The result may be put into another form. -/
theorem Safe.map {work : Attempt (StateM FileStore) α} {leaves : α → FileStore → Prop} (safe : Safe store work leaves)
    (wrap : α → β) {others : β → FileStore → Prop} (so : ∀ value after, leaves value after → others (wrap value) after) :
    Safe store (work >>= fun value => pure (wrap value)) others := by
  obtain ⟨⟨result, after⟩, reached⟩ : ∃ reached, work.run store = reached := ⟨_, rfl⟩
  cases result with
  | ok value => exact .of_ok (Result.run_bind_ok reached) (so value after (safe.done value after reached))
  | error failure =>
    obtain rfl := safe.failed failure after reached
    exact .of_error (Result.run_bind_error reached)

/-! ## Changing files -/

variable {operation : FileStore → Except FileError FileStore} {after : FileStore}

/-- A change that succeeds is made. -/
theorem run_commit (report : FileError → Failure) (done : operation store = .ok after) :
    (perform report (FileStore.commit operation)).run store = (.ok (), after) := by
  rw [run_perform, FileStore.commit, done]
  rfl

/-- A change that fails is taken back, and the error is reported. -/
theorem run_commit_error (report : FileError → Failure) {error : FileError}
    (refused : operation store = .error error) :
    (perform report (FileStore.commit operation)).run store = (.error (report error), store) := by
  rw [run_perform, FileStore.commit, refused]
  rfl

/-- A change that fails is not made. -/
theorem safe_commit (report : FileError → Failure) {leaves : Unit → FileStore → Prop}
    (so : ∀ after, operation store = .ok after → leaves () after) :
    Safe store (perform report (FileStore.commit operation)) leaves := by
  cases done : operation store with
  | ok after => exact .of_ok (run_commit report done) (so after done)
  | error failure => exact .of_error (run_commit_error report done)

/-- What follows on a change must not fail. -/
theorem safe_commit_bind (report : FileError → Failure) {next : Unit → Attempt (StateM FileStore) β}
    {leaves : β → FileStore → Prop} (so : ∀ middle, operation store = .ok middle →
      ∃ value after, (next ()).run middle = (.ok value, after) ∧ leaves value after) :
    Safe store (perform report (FileStore.commit operation) >>= next) leaves := by
  cases done : operation store with
  | ok middle =>
    obtain ⟨value, after, ran, holds⟩ := so middle done
    exact .of_ok ((Result.run_bind_ok (run_commit report done)).trans ran) holds
  | error failure => exact .of_error (Result.run_bind_error (run_commit_error report done))

end Attempt

open Attempt

/-! ## Loading documents -/

namespace Documents

/-- Loading a document only reads, whatever the format and the content. -/
theorem reads_load (path : String) : Reads (load path) := by
  refine (reads_ofResult _ _).bind fun format => ?_
  refine (reads_perform _ fun store => rfl).bind fun text => ?_
  split
  · exact reads_pure _
  · exact reads_throw _

/-- Loading a form only reads. -/
theorem reads_loadForm (path : String) : Reads (loadForm path) :=
  (reads_load path).bind fun _ => reads_ofResult _ _

/-- Loading values only reads, also where no file is given. -/
theorem reads_loadValues (path : Option String) : Reads (loadValues path) := by
  cases path with
  | none => exact reads_pure _
  | some path =>
    refine (reads_load path).bind fun value => ?_
    split
    · exact reads_pure _
    · exact reads_throw _

/-- Loading a configuration only reads, also where no file is given. -/
theorem reads_loadConfig (path : Option String) : Reads (loadConfig path) := by
  cases path with
  | none => exact reads_pure _
  | some path =>
    refine (reads_load path).bind fun value => ?_
    split
    · exact reads_pure _
    · exact reads_throw _

end Documents

end SettingsForm
