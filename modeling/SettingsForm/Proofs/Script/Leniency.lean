import SettingsForm.Proofs.Contract.Leniency
import SettingsForm.Proofs.Script.Order

/-!
# Scripts in strict and in lenient mode

A script that succeeds in strict mode succeeds in lenient mode and returns the same edits (`Script.run_lenient`).
A commit that is accepted strictly is accepted leniently with the same value, and whether it writes anything
does not depend on the mode: in either mode a value counts as in effect if the one before converts to it
leniently. So the lenient run goes through the screens of the strict one, form by form.
-/

namespace SettingsForm

namespace Screen

variable {key : String} {effect wider : Effect}

/-- Where the second effect succeeds, the first does so too and leaves the same screen. -/
def Extends (wider effect : Effect) : Prop :=
  ∀ screen after, effect screen = some after → wider screen = some after

/-- One effect after another is extended if both are. -/
theorem Extends.bind {next further : Effect} (begins : Extends wider effect) (continues : Extends further next) :
    Extends (fun screen => (wider screen).bind further) (fun screen => (effect screen).bind next) := by
  intro screen after effected
  obtain ⟨middle, first, second⟩ := Option.bind_eq_some_iff.mp effected
  exact Option.bind_eq_some_iff.mpr ⟨middle, begins screen middle first, continues middle after second⟩

/-- A visit of a nested form is extended if what is done there is. -/
theorem Extends.descend (inside : Extends wider effect) (maxNesting : Nat) (key : String) :
    Extends (Screen.descend maxNesting key wider) (Screen.descend maxNesting key effect) := by
  intro screen after effected
  obtain ⟨change, returns, rfl⟩ := Option.map_eq_some_iff.mp effected
  obtain ⟨left, visited, same⟩ := Option.map_eq_some_iff.mp returns
  obtain ⟨shown, opened, done⟩ := Option.bind_eq_some_iff.mp visited
  rw [Screen.descend, returns?, opened, Option.bind_some, inside shown left done, Option.map_some, same,
    Option.map_some]

/-- What a strict commit stores, a lenient commit stores. -/
theorem stores?_lenient {raw : Value} {screen : Screen} {change : Option Value}
    (strict : stores? false key raw screen = some change) : stores? true key raw screen = some change := by
  obtain ⟨row, writable, stores⟩ := Option.bind_eq_some_iff.mp strict
  rw [stores?, writable, Option.bind_some]
  split at stores
  · rename_i value converted
    have lenient : (Contract.builtin row.rowType).coerce key row raw true = .ok value :=
      Coercion.apply_lenient _ converted
    rw [lenient]
    exact stores
  · cases stores

/-- A write that succeeds strictly does the same leniently. -/
theorem write_lenient (key : String) (raw : Value) : Extends (write true key raw) (write false key raw) := by
  intro screen after written
  obtain ⟨change, stores, rfl⟩ := Option.map_eq_some_iff.mp written
  rw [write, stores?_lenient stores, Option.map_some]

/-- Writes that succeed strictly do the same leniently. -/
theorem writes_lenient (commits : List (String × Value)) :
    Extends (runAll (commits.map fun (key, raw) => (key, write true key raw)))
      (runAll (commits.map fun (key, raw) => (key, write false key raw))) := by
  induction commits with
  | nil =>
    intro screen after ran
    exact ran
  | cons commit rest inductionHypothesis => exact (write_lenient commit.1 commit.2).bind inductionHypothesis

end Screen

namespace Visit

mutual

/-- A visit that succeeds strictly does the same leniently. -/
theorem effect_lenient (config : Config) : ∀ visit : Visit,
    Screen.Extends (visit.effect { config with lenientStrings := true })
      (visit.effect { config with lenientStrings := false })
  | .mk commits children => by
    have both := (Screen.writes_lenient commits).bind (childEffects_lenient config children)
    intro screen after effected
    rw [Visit.effect, Screen.runAll_append] at effected ⊢
    exact both screen after effected

/-- Nested visits that succeed strictly do the same leniently. -/
theorem childEffects_lenient (config : Config) : ∀ children : List (String × Visit),
    Screen.Extends (Screen.runAll (childEffects { config with lenientStrings := true } children))
      (Screen.runAll (childEffects { config with lenientStrings := false } children))
  | [] => by
    intro screen after ran
    exact ran
  | (key, child) :: rest =>
    ((effect_lenient config child).descend config.maxNesting key).bind (childEffects_lenient config rest)

end

end Visit

namespace Script

/-- What strict conversion accepts, lenient conversion accepts with the same result, also where a host converts;
and a script that succeeds in strict mode succeeds in lenient mode with the same edits. -/
theorem run_lenient :
    (∀ (coercion : Coercion) (key : String) (row : Row) (raw value : Value),
      coercion.apply key row raw false = .ok value → coercion.apply key row raw true = .ok value) ∧
    ∀ (groups : List Group) (values fallback : Mapping) (config : Config) (assignments : List Assignment)
      (diff : Mapping),
      run groups values fallback { config with lenientStrings := false } assignments = .ok diff →
        run groups values fallback { config with lenientStrings := true } assignments = .ok diff := by
  constructor
  · intro coercion key row raw value strict
    exact coercion.apply_lenient strict
  · intro groups values fallback config assignments diff succeeds
    obtain ⟨schema, after, built, effected, same⟩ := run_ok_iff.mp succeeds
    have lenient := Visit.effect_lenient config (Visit.ofAssignments assignments) _ after effected
    exact run_ok_iff.mpr ⟨schema, after, built, lenient, same⟩

/-- The age that is assigned strictly is in effect already, as a text. -/
theorem run_lenient_server :
    (Coercion.selection.apply "pick" Contract.crossedRow (.string "a") false = .ok (.string "a") ∧
      Coercion.selection.apply "pick" Contract.crossedRow (.string "a") true = .ok (.string "a")) ∧
    (run serverForm [("age", .string "41")] [] { Config.standard with lenientStrings := false } serverScript =
        .ok [("net", .mapping [("host", .string "a"), ("port", .number (.ofInt64 80))])] ∧
      run serverForm [("age", .string "41")] [] { Config.standard with lenientStrings := true } serverScript =
        .ok [("net", .mapping [("host", .string "a"), ("port", .number (.ofInt64 80))])]) := by
  have chosen : Coercion.selection.apply "pick" Contract.crossedRow (.string "a") false = .ok (.string "a") := by
    rfl
  have succeeds : run serverForm [("age", .string "41")] [] { Config.standard with lenientStrings := false }
      serverScript = .ok [("net", .mapping [("host", .string "a"), ("port", .number (.ofInt64 80))])] :=
    run_ok_iff.mpr ⟨_, _, by rfl, by rfl, by rfl⟩
  exact ⟨⟨chosen, run_lenient.1 _ _ _ _ _ chosen⟩, succeeds, run_lenient.2 _ _ _ _ _ _ succeeds⟩

end Script

end SettingsForm
