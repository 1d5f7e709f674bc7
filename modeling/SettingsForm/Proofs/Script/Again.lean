import Mathlib.Data.List.Pairwise
import SettingsForm.Proofs.Script.Edits
import SettingsForm.Proofs.Store.Paths

/-!
# Scripts that are run again

The edits that a script returns are meant to be kept: whoever runs it puts them among the values. If they are
stored there along the assigned paths, and the script is run again, it finds every value that it assigns in
effect and returns no edits.

An assignment sees nothing but what is in effect at the end of its path (`Store.along?`), as long as no other
assignment is to that path, leads to it or continues it. So it is enough to compare the two runs along the
assigned paths, form by form. Where the first run stored a value, the second finds that value; where the first
run found the assigned value in effect and stored nothing, the second finds what the first one found.
-/

namespace SettingsForm

namespace Assignment

/-- No assigned path leads to another one, and none is assigned twice. -/
def Apart (assignments : List Assignment) : Prop :=
  assignments.Pairwise fun a b => ¬ a.path <+: b.path ∧ ¬ b.path <+: a.path

variable {key : String} {assignments : List Assignment} {a : Assignment}

/-- Distinct paths of which none leads to another are apart. -/
theorem apart_of_distinct (distinct : (assignments.map (·.path)).Nodup)
    (free : ∀ a ∈ assignments, ∀ b ∈ assignments, a.path <+: b.path → a.path = b.path) :
    Apart assignments := by
  refine (List.pairwise_map.mp distinct).imp_of_mem ?_
  intro a b listed also different
  exact ⟨fun leads => different (free a listed b also leads),
    fun leads => different (free b also a listed leads).symm⟩

/-- An assignment is the only one that has to do with its path. -/
theorem Apart.alone (apart : Apart assignments) (listed : a ∈ assignments) : Alone a.path assignments := by
  intro b also _ comparable
  by_cases same : b = a
  · rw [same]
  · have symmetric : Std.Symm fun a b : Assignment => ¬ a.path <+: b.path ∧ ¬ b.path <+: a.path :=
      ⟨fun _ _ both => both.symm⟩
    exact absurd comparable (not_or.mpr (apart.forall also listed same))

/-- A single value is assigned to a path. -/
theorem Apart.values (apart : Apart assignments) (listed : a ∈ assignments) :
    values a.path assignments = [a.value] := by
  have member : a ∈ assignments.filter (·.path = a.path) := List.mem_filter.mpr ⟨listed, by simp⟩
  have pairwise := apart.filter fun b => b.path = a.path
  have same : ∀ b ∈ assignments.filter (·.path = a.path), b.path = a.path := by
    intro b kept
    simpa using (List.mem_filter.mp kept).2
  rw [Assignment.values]
  generalize assignments.filter (·.path = a.path) = kept at member pairwise same
  rcases kept with - | ⟨first, - | ⟨second, rest⟩⟩
  · cases member
  · rw [List.mem_singleton.mp member]
    rfl
  · have different := (List.rel_of_pairwise_cons pairwise List.mem_cons_self).1
    rw [same first (by simp), same second (by simp)] at different
    exact absurd List.prefix_rfl different

/-- Below a merge key the paths are apart, too. -/
theorem Apart.below (apart : Apart assignments) (key : String) : Apart (Assignment.below key assignments) := by
  refine List.pairwise_filterMap.mpr (apart.imp ?_)
  intro a b different inner leads other also
  obtain ⟨-, rfl⟩ := below?_eq_some_iff.mp leads
  obtain ⟨-, rfl⟩ := below?_eq_some_iff.mp also
  simpa only [List.prefix_cons_inj] using different

end Assignment

namespace Screen

variable {key : String} {screen again after shown : Screen}

/-! ## Effects that find their work done -/

/-- Effects that leave a screen as it is do so one after the other. -/
theorem runAll_settled {steps : List (String × Effect)} (settled : ∀ step ∈ steps, step.2 screen = some screen) :
    runAll steps screen = some screen := by
  induction steps with
  | nil => rfl
  | cons step rest inductionHypothesis =>
    rw [runAll_cons, settled step List.mem_cons_self, Option.bind_some]
    exact inductionHypothesis fun other member => settled other (List.mem_cons_of_mem step member)

/-- A commit stores nothing on a screen of the same form where its value is in effect: either because it was
in effect before, or because it is the one that was stored. -/
theorem write_again {lenient : Bool} {raw : Value} (written : write lenient key raw screen = some after)
    (blank : screen.edit? key = none) (form : again.schema = screen.schema)
    (held : again.store.get? key = (after.edit? key).or (screen.store.get? key)) :
    write lenient key raw again = some again := by
  obtain ⟨row, value, writable, converted, ends⟩ := write_cases written
  have same : again.writable? key = some row := by
    rw [writable?, form]
    exact writable
  have inEffect : again.store.isInEffect key row (Contract.builtin row.rowType) value = true := by
    rcases ends with ⟨before, rfl⟩ | rfl
    · rw [blank, Option.none_or] at held
      simpa only [Store.isInEffect, Store.effective, held] using before
    · rw [edit?_put, Option.some_or] at held
      refine Store.isInEffect_iff.mpr (Or.inl ?_)
      rw [Store.effective, held]
      exact BEq.rfl
  simp only [write, stores?, same, Option.bind_some, converted, inEffect, if_true, Option.map_some]
  rfl

/-- The nested form that is shown for a merge key depends on the form alone, and its store on the store. -/
theorem nested?_again {maxNesting : Nat} (opened : screen.nested? maxNesting key = some shown)
    (form : again.schema = screen.schema) :
    shown.store = screen.store.inner key ∧
      again.nested? maxNesting key = some ⟨shown.schema, again.store.inner key⟩ := by
  obtain ⟨⟨position, row⟩, found, -⟩ := Option.bind_eq_some_iff.mp opened
  rw [nested?_of_find? screen maxNesting found] at opened
  rw [← form] at found opened
  rw [nested?_of_find? again maxNesting found]
  obtain ⟨groups, carried, opened⟩ := Option.bind_eq_some_iff.mp opened
  obtain ⟨schema, built, opened⟩ := Option.bind_eq_some_iff.mp opened
  obtain ⟨room, same⟩ := Option.ite_none_right_eq_some.mp opened
  obtain rfl := Option.some.inj same
  refine ⟨rfl, ?_⟩
  rw [carried, Option.bind_some, built, Option.bind_some, if_pos room]
  rfl

/-- A visit of a nested form in which nothing is edited stores nothing. -/
theorem descend_settled {maxNesting : Nat} {inside : Effect} (opened : screen.nested? maxNesting key = some shown)
    (settled : inside shown = some shown) (blank : shown.store.edits = []) :
    descend maxNesting key inside screen = some screen := by
  rw [descend, returns?, opened, Option.bind_some, settled, Option.map_some, if_pos blank, Option.map_some]
  rfl

end Screen

namespace Visit

open Screen

/-- What is in effect on one screen where assignments are carried out and on another, along each assigned path:
on the other screen it is what the assignments left on the first, if they left anything, and what was in effect
there otherwise. -/
def Kept (assignments : List Assignment) (screen after again : Screen) : Prop :=
  ∀ a ∈ assignments, a.path ≠ [] → again.store.along? a.path =
    (Value.at? a.path (.mapping after.store.edits)).or (screen.store.along? a.path)

section

variable {config : Config} {assignments : List Assignment} {screen after again : Screen} {key : String}

/-- The commit of a value that is assigned in the form itself finds it in effect. -/
theorem commit_again (apart : Assignment.Apart assignments)
    (effected : (ofAssignments assignments).effect config screen = some after)
    (blank : screen.store.edits = []) (form : again.schema = screen.schema)
    (kept : Kept assignments screen after again) {raw : Value} (listed : ⟨[key], raw⟩ ∈ assignments) :
    write config.lenientStrings key raw again = some again := by
  have leaf : Assignment.below key assignments = [] := (apart.alone listed).below_nil
  obtain ⟨written, ran, ⟨-, left⟩ | ⟨leads, -⟩⟩ := effect_at effected key
  · rw [apart.values listed, List.map_singleton, runAll_cons] at ran
    obtain ⟨middle, stored, finished⟩ := Option.bind_eq_some_iff.mp ran
    obtain rfl := Option.some.inj finished
    have read : (middle.edit? key).bind (Value.at? []) = middle.edit? key := Option.bind_fun_some _
    have held := kept _ listed (List.cons_ne_nil key [])
    rw [at?_mapping, left, read] at held
    exact write_again stored (by rw [edit?, blank]; rfl) form held
  · exact absurd leaf leads

/-- What is kept of a form is kept of the nested forms that the assignments lead into. -/
theorem Kept.below (apart : Assignment.Apart assignments)
    (effected : (ofAssignments assignments).effect config screen = some after)
    (blank : screen.store.edits = []) (form : again.schema = screen.schema)
    (kept : Kept assignments screen after again) (leads : Assignment.below key assignments ≠ []) :
    ∃ shown nested, again.nested? config.maxNesting key = some ⟨shown.schema, again.store.inner key⟩ ∧
      (ofAssignments (Assignment.below key assignments)).effect config shown = some nested ∧
      shown.store.edits = [] ∧
      Kept (Assignment.below key assignments) shown nested ⟨shown.schema, again.store.inner key⟩ := by
  obtain ⟨first, leading⟩ := List.exists_mem_of_ne_nil _ leads
  obtain ⟨further, listed⟩ := Assignment.mem_below.mp leading
  have unassigned : Assignment.values [key] assignments = [] := (apart.alone listed).values_head further
  obtain ⟨shown, nested, opened, inside, read⟩ := effect_below effected blank unassigned leads
  obtain ⟨store, openedAgain⟩ := nested?_again opened form
  refine ⟨shown, nested, openedAgain, inside, (nested?_cases opened).2, ?_⟩
  intro inner within named
  have held := kept _ (Assignment.mem_below.mp within).2 (List.cons_ne_nil key _)
  rw [Store.along?_cons named, Store.along?_cons named, read _ named, ← store] at held
  exact held

/-- Where everything that the assignments left is kept, they find nothing to do. -/
theorem effect_again (apart : Assignment.Apart assignments)
    (effected : (ofAssignments assignments).effect config screen = some after)
    (blank : screen.store.edits = []) (form : again.schema = screen.schema) (unedited : again.store.edits = [])
    (kept : Kept assignments screen after again) :
    (ofAssignments assignments).effect config again = some again := by
  -- The induction is on the length of the paths, which are shorter in a nested form.
  obtain ⟨depth, bounded⟩ := Assignment.exists_depth assignments
  induction depth generalizing assignments screen after again with
  | zero =>
    obtain rfl : assignments = [] := by
      rw [List.eq_nil_iff_forall_not_mem]
      intro a listed
      exact absurd (bounded a listed) (Nat.not_lt_zero _)
    rfl
  | succ depth inductionHypothesis =>
    rw [effect_eq]
    refine runAll_settled ?_
    rintro ⟨key, effect⟩ member
    have atKey : (key, effect) ∈ ((ofAssignments assignments).steps config).filter (·.1 = key) :=
      List.mem_filter.mpr ⟨member, by simp⟩
    rw [filter_steps] at atKey
    rcases List.mem_append.mp atKey with committed | visited
    · obtain ⟨raw, assigned, same⟩ := List.mem_map.mp committed
      obtain rfl := (Prod.mk.inj same).2
      exact commit_again apart effected blank form kept (Assignment.mem_values.mp assigned)
    · have leads : Assignment.below key assignments ≠ [] := by
        intro none
        rw [if_pos none] at visited
        cases visited
      rw [if_neg leads, List.mem_singleton] at visited
      obtain rfl := (Prod.mk.inj visited).2
      obtain ⟨shown, nested, opened, inside, fresh, below⟩ := kept.below apart effected blank form leads
      refine descend_settled opened ?_ rfl
      refine inductionHypothesis (apart.below key) inside fresh rfl rfl below ?_
      intro inner within
      have longer := bounded _ (Assignment.mem_below.mp within).2
      simpa using longer

end

end Visit

namespace Script

/-- The values with every entry of the edits that lies at the end of an assigned path stored along that path. -/
def stored (diff : Mapping) (assignments : List Assignment) (values : Mapping) : Mapping :=
  assignments.foldl (fun values a => (Value.at? a.path (.mapping diff)).elim values fun entry =>
    Mapping.storeAt entry a.path values) values

variable {diff fallback : Mapping} {assignments : List Assignment}

/-- What the first assignment stores is stored before the rest. -/
theorem stored_cons (first : Assignment) (rest : List Assignment) (values : Mapping) :
    stored diff (first :: rest) values = stored diff rest
      ((Value.at? first.path (.mapping diff)).elim values fun entry => Mapping.storeAt entry first.path values) :=
  rfl

/-- What is stored along other paths is not seen along a path that has nothing to do with them. -/
theorem along?_stored_apart {path : List String}
    (apart : ∀ a ∈ assignments, ¬ path <+: a.path ∧ ¬ a.path <+: path) (values : Mapping) :
    (Store.ofValues (stored diff assignments values) fallback).along? path =
      (Store.ofValues values fallback).along? path := by
  induction assignments generalizing values with
  | nil => rfl
  | cons first rest inductionHypothesis =>
    rw [stored_cons, inductionHypothesis fun a later => apart a (List.mem_cons_of_mem first later)]
    cases Value.at? first.path (.mapping diff) with
    | none => rfl
    | some entry =>
      obtain ⟨leads, continues⟩ := apart first List.mem_cons_self
      exact Store.along?_storeAt_apart leads continues entry values fallback

/-- Along an assigned path, the values hold the entry of the edits, or what they held before. -/
theorem along?_stored (apart : Assignment.Apart assignments) {a : Assignment} (listed : a ∈ assignments)
    (named : a.path ≠ []) (values : Mapping) :
    (Store.ofValues (stored diff assignments values) fallback).along? a.path =
      (Value.at? a.path (.mapping diff)).or ((Store.ofValues values fallback).along? a.path) := by
  induction assignments generalizing values with
  | nil => cases listed
  | cons first rest inductionHypothesis =>
    obtain ⟨others, later⟩ := List.pairwise_cons.mp apart
    rw [stored_cons]
    rcases List.mem_cons.mp listed with rfl | among
    · rw [along?_stored_apart others]
      cases Value.at? a.path (.mapping diff) with
      | none => rfl
      | some entry => exact Store.along?_storeAt_self named entry values fallback
    · have unseen : (Store.ofValues (stored diff [first] values) fallback).along? a.path =
          (Store.ofValues values fallback).along? a.path :=
        along?_stored_apart (List.forall_mem_singleton.mpr (others a among).symm) values
      rw [inductionHypothesis later among]
      exact congrArg _ unseen

/-- A script whose assigned paths are distinct and do not lead to one another is run again, over the values
with all that it edited along those paths. It succeeds again and edits nothing. -/
theorem run_again {groups : List Group} {values fallback : Mapping} {config : Config}
    {assignments : List Assignment} {diff : Mapping}
    (succeeds : run groups values fallback config assignments = .ok diff)
    (distinct : (assignments.map (·.path)).Nodup)
    (free : ∀ a ∈ assignments, ∀ b ∈ assignments, a.path <+: b.path → a.path = b.path) :
    run groups (stored diff assignments values) fallback config assignments = .ok [] := by
  obtain ⟨schema, after, built, effected, rfl⟩ := run_ok_iff.mp succeeds
  have apart := Assignment.apart_of_distinct distinct free
  have kept : Visit.Kept assignments ⟨schema, .ofValues values fallback⟩ after
      ⟨schema, .ofValues (stored after.store.edits assignments values) fallback⟩ :=
    fun a listed named => along?_stored apart listed named values
  exact run_ok_iff.mpr ⟨schema, _, built, Visit.effect_again apart effected rfl rfl rfl kept, rfl⟩

/-- The host of a server is in effect as a fallback, while the value for the network is no mapping. -/
theorem run_again_server :
    run serverForm [("net", .string "none")] [("net", .mapping [("host", .string "a")])] .standard serverScript =
        .ok [("age", .number (.ofInt64 41)), ("net", .mapping [("port", .number (.ofInt64 80))])] ∧
      stored [("age", .number (.ofInt64 41)), ("net", .mapping [("port", .number (.ofInt64 80))])] serverScript
          [("net", .string "none")] =
        [("age", .number (.ofInt64 41)), ("net", .mapping [("port", .number (.ofInt64 80))])] ∧
      run serverForm [("age", .number (.ofInt64 41)), ("net", .mapping [("port", .number (.ofInt64 80))])]
        [("net", .mapping [("host", .string "a")])] .standard serverScript = .ok [] := by
  have succeeds : run serverForm [("net", .string "none")] [("net", .mapping [("host", .string "a")])] .standard
      serverScript = .ok [("age", .number (.ofInt64 41)), ("net", .mapping [("port", .number (.ofInt64 80))])] :=
    run_ok_iff.mpr ⟨_, _, by rfl, by rfl, by rfl⟩
  refine ⟨succeeds, by rfl, ?_⟩
  exact run_again succeeds (by decide) (by decide)

end Script

end SettingsForm
