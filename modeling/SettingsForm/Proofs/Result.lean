/-!
# Steps that may fail

A sequence of steps succeeds just if every step does, each from the result of the one before. Functions
that check or read something part by part are taken apart with this. Steps that also change a state hand it on
(`run_bind_ok`, `run_bind_error`).
-/

namespace SettingsForm

namespace Result

variable {ε α β : Type}

/-- Two steps succeed with a result just if the first yields a value from which the second yields the result.
-/
theorem bind_eq_ok_iff {first : Except ε α} {next : α → Except ε β} {result : β} :
    first >>= next = .ok result ↔ ∃ value, first = .ok value ∧ next value = .ok result := by
  cases first with
  | error error => simp [bind, Except.bind]
  | ok value => simp [bind, Except.bind]

/-- Two steps fail with an error just if the first does, or the second does after what the first yields. -/
theorem bind_eq_error_iff {first : Except ε α} {next : α → Except ε β} {error : ε} :
    first >>= next = .error error ↔
      first = .error error ∨ ∃ value, first = .ok value ∧ next value = .error error := by
  cases first with
  | error fault => simp [bind, Except.bind]
  | ok value => simp [bind, Except.bind]

/-- Wrapping up what a step yields does not touch its errors. -/
theorem map_eq_error_iff {step : Except ε α} (wrap : α → β) {error : ε} :
    step >>= (fun value => .ok (wrap value)) = .error error ↔ step = .error error := by
  simp [bind_eq_error_iff]

section Run

variable {σ : Type} {first : ExceptT ε (StateM σ) α} {next : α → ExceptT ε (StateM σ) β} {state after : σ}

/-- The second step starts from the state that the first one left. -/
theorem run_bind_ok {value : α} (succeeded : first.run state = (.ok value, after)) :
    (first >>= next).run state = (next value).run after := by
  have chained : (first >>= next).run state =
      (ExceptT.bindCont next (first.run state).1).run (first.run state).2 := rfl
  rw [chained, succeeded]
  rfl

/-- A failure keeps the state that the failing step left; nothing is rolled back. -/
theorem run_bind_error {error : ε} (failed : first.run state = (.error error, after)) :
    (first >>= next).run state = (.error error, after) := by
  have chained : (first >>= next).run state =
      (ExceptT.bindCont next (first.run state).1).run (first.run state).2 := rfl
  rw [chained, failed]
  rfl

end Run

/-- Reporting errors in other words does not touch what a step yields. -/
theorem mapError_eq_ok_iff {δ : Type} {report : ε → δ} {step : Except ε α} {value : α} :
    step.mapError report = .ok value ↔ step = .ok value := by
  cases step with
  | error error => exact iff_of_false nofun nofun
  | ok other =>
    constructor
    · intro same
      rw [Except.ok.inj same]
    · intro same
      obtain rfl := Except.ok.inj same
      rfl

/-- What comes next has to be the same only for the result that there is. -/
theorem bind_congr_ok {first : Except ε α} {next other : α → Except ε β}
    (same : ∀ value, first = .ok value → next value = other value) : first >>= next = first >>= other := by
  cases first with
  | error error => rfl
  | ok value => exact same value rfl

/-- If going through a list fails, it does so at one element, with the error of the step taken there. -/
theorem foldlM_error {step : β → α → Except ε β} {list : List α} {start : β} {error : ε}
    (failed : list.foldlM step start = .error error) :
    ∃ before element after middle, list = before ++ element :: after ∧
      before.foldlM step start = .ok middle ∧ step middle element = .error error := by
  induction list generalizing start with
  | nil => cases failed
  | cons element rest inductionHypothesis =>
    rw [List.foldlM_cons] at failed
    cases taken : step start element with
    | error fault =>
      rw [taken] at failed
      obtain rfl := Except.error.inj failed
      exact ⟨[], element, rest, start, rfl, rfl, taken⟩
    | ok next =>
      rw [taken] at failed
      obtain ⟨before, at_, after, middle, rfl, passed, refused⟩ := inductionHypothesis failed
      refine ⟨element :: before, at_, after, middle, rfl, ?_, refused⟩
      rw [List.foldlM_cons, taken]
      exact passed

/-- The step succeeds, whatever its result is. -/
def Succeeds (step : Except ε α) : Prop := ∃ value, step = .ok value

/-- A value at hand is a success. -/
theorem succeeds_ok (value : α) : Succeeds (.ok value : Except ε α) := ⟨value, rfl⟩

/-- An error at hand is no success. -/
theorem not_succeeds_error (error : ε) : ¬ Succeeds (.error error : Except ε α) := by
  rintro ⟨value, same⟩
  cases same

/-- Two steps succeed just if the first yields a value from which the second succeeds. -/
theorem succeeds_bind_iff {first : Except ε α} {next : α → Except ε β} :
    Succeeds (first >>= next) ↔ ∃ value, first = .ok value ∧ Succeeds (next value) := by
  simp only [Succeeds, bind_eq_ok_iff]
  constructor
  · rintro ⟨result, value, found, continued⟩
    exact ⟨value, found, result, continued⟩
  · rintro ⟨value, found, result, continued⟩
    exact ⟨result, value, found, continued⟩

/-- If it does not depend on the first result whether the rest succeeds, the two conditions are apart. -/
theorem succeeds_bind_and {first : Except ε α} {next : α → Except ε β} {condition : Prop}
    (rest : ∀ value, Succeeds (next value) ↔ condition) :
    Succeeds (first >>= next) ↔ Succeeds first ∧ condition := by
  rw [succeeds_bind_iff]
  constructor
  · rintro ⟨value, found, continued⟩
    exact ⟨⟨value, found⟩, (rest value).mp continued⟩
  · rintro ⟨⟨value, found⟩, holds⟩
    exact ⟨value, found, (rest value).mpr holds⟩

/-- Making something of the result cannot fail. -/
theorem succeeds_map_iff {step : Except ε α} (wrap : α → β) :
    Succeeds (step >>= fun value => .ok (wrap value)) ↔ Succeeds step := by
  have always : ∀ value, Succeeds (.ok (wrap value) : Except ε β) ↔ True :=
    fun value => iff_true_intro (succeeds_ok (wrap value))
  rw [succeeds_bind_and always, and_true]

/-- A list is put together if its first element is there, and the list of the others. -/
theorem succeeds_cons_iff {first : Except ε α} {others : Except ε (List α)} :
    Succeeds (first >>= fun value => others >>= fun rest => .ok (value :: rest)) ↔
      Succeeds first ∧ Succeeds others :=
  succeeds_bind_and fun value => succeeds_map_iff (value :: ·)

/-- A list is not put together if its first element is not there, or if it is and the list of the others is not. -/
theorem cons_eq_error_iff {first : Except ε α} {others : Except ε (List α)} {error : ε} :
    first >>= (fun value => others >>= fun rest => .ok (value :: rest)) = .error error ↔
      first = .error error ∨ Succeeds first ∧ others = .error error := by
  rw [bind_eq_error_iff]
  refine or_congr_right ?_
  constructor
  · rintro ⟨value, found, failed⟩
    exact ⟨⟨value, found⟩, (map_eq_error_iff (value :: ·)).mp failed⟩
  · rintro ⟨⟨value, found⟩, failed⟩
    exact ⟨value, found, (map_eq_error_iff (value :: ·)).mpr failed⟩

/-- The step succeeds with a value under a condition, and fails otherwise. -/
def Returns (step : Except ε α) (value : α) (condition : Prop) : Prop :=
  ∀ other, step = .ok other ↔ value = other ∧ condition

/-- A value at hand is returned whatever else holds. -/
theorem returns_ok (value : α) : Returns (.ok value : Except ε α) value True := by
  intro other
  rw [Except.ok.injEq, and_true]

/-- The condition under which a step returns a value may be put in other words. -/
theorem Returns.congr {step : Except ε α} {value : α} {condition same : Prop}
    (returns : Returns step value condition) (equivalent : condition ↔ same) : Returns step value same :=
  fun other => (returns other).trans (and_congr_right fun _ => equivalent)

/-- What is made of the result is returned under the same condition. -/
theorem Returns.map {step : Except ε α} {value : α} {condition : Prop}
    (returns : Returns step value condition) (wrap : α → β) :
    Returns (step >>= fun value => .ok (wrap value)) (wrap value) condition := by
  intro other
  rw [bind_eq_ok_iff]
  simp only [returns _, Except.ok.injEq]
  constructor
  · rintro ⟨_, ⟨rfl, holds⟩, same⟩
    exact ⟨same, holds⟩
  · rintro ⟨same, holds⟩
    exact ⟨value, ⟨rfl, holds⟩, same⟩

/-- A list is returned if its first element is, and the list of the others. -/
theorem Returns.cons {step : Except ε α} {others : Except ε (List α)} {value : α} {rest : List α}
    {condition further : Prop} (first : Returns step value condition) (remaining : Returns others rest further) :
    Returns (step >>= fun value => others >>= fun rest => .ok (value :: rest)) (value :: rest)
      (condition ∧ further) := by
  intro list
  rw [bind_eq_ok_iff]
  simp only [first _, (remaining.map (_ :: ·)) _]
  constructor
  · rintro ⟨_, ⟨rfl, holds⟩, same, also⟩
    exact ⟨same, holds, also⟩
  · rintro ⟨same, holds, also⟩
    exact ⟨value, ⟨rfl, holds⟩, same, also⟩

end Result

end SettingsForm
