import SettingsForm.Proofs.Contract.Conversion
import SettingsForm.Proofs.Script.Order

/-!
# What a script leaves

The edits that a script returns hold what was assigned and nothing else. Along an assigned path that no
other assigned path continues or leads to, they hold the value assigned last, as it was converted, or nothing
if that value was in effect before. Conversely, whatever they hold in a form that was visited lies on an
assigned path.

The exception are keys that a form uses twice, for a row that holds values and for a nesting row. If a value
is assigned to such a key and others are assigned below it, the nested form finds the entries of the value as
its own.
-/

namespace SettingsForm

/-- What a value holds along a path of keys. -/
def Value.at? : List String → Value → Option Value
  | [], value => some value
  | key :: rest, .mapping entries => (Mapping.get? key entries).bind (at? rest)
  | _ :: _, _ => none

namespace Assignment

/-- No other assignment is to a path that leads to this one or continues it. -/
def Alone (path : List String) (assignments : List Assignment) : Prop :=
  ∀ a ∈ assignments, a.path ≠ [] → a.path <+: path ∨ path <+: a.path → a.path = path

/-- The form that a path leads to is visited: it is the root form, or something is assigned below the path. -/
def Visited (path : List String) (assignments : List Assignment) : Prop :=
  path = [] ∨ ∃ a ∈ assignments, path <+: a.path ∧ path ≠ a.path

variable {head key : String} {trail : List String} {assignments : List Assignment}

/-- Nothing is assigned below such a path. -/
theorem Alone.below_nil (alone : Alone [key] assignments) : below key assignments = [] := by
  rw [List.eq_nil_iff_forall_not_mem]
  intro inner listed
  obtain ⟨further, member⟩ := mem_below.mp listed
  have same := alone _ member (List.cons_ne_nil key _) (Or.inr ⟨inner.path, rfl⟩)
  exact further (List.cons.inj same).2

/-- Nothing is assigned to a form that such a path leads through. -/
theorem Alone.values_head (alone : Alone (head :: trail) assignments) (further : trail ≠ []) :
    values [head] assignments = [] := by
  rw [List.eq_nil_iff_forall_not_mem]
  intro value assigned
  have same := alone _ (mem_values.mp assigned) (List.cons_ne_nil head []) (Or.inl ⟨trail, rfl⟩)
  exact further (List.cons.inj same).2.symm

/-- What holds of a path alone holds of its rest in the nested form that it leads into. -/
theorem Alone.below (alone : Alone (head :: trail) assignments) :
    Alone trail (Assignment.below head assignments) := by
  intro inner listed _ comparable
  obtain ⟨-, member⟩ := mem_below.mp listed
  have same := alone _ member (List.cons_ne_nil head _)
    (comparable.imp (List.prefix_cons_inj head).mpr (List.prefix_cons_inj head).mpr)
  exact (List.cons.inj same).2

/-- A nested form is visited if something is assigned below its merge key. -/
theorem Visited.below (visited : Visited (head :: trail) assignments) :
    Assignment.below head assignments ≠ [] ∧ Visited trail (Assignment.below head assignments) := by
  obtain none | ⟨⟨path, value⟩, listed, ⟨rest, rfl⟩, further⟩ := visited
  · cases none
  · have more : rest ≠ [] := by simpa using further
    have inner : ⟨trail ++ rest, value⟩ ∈ Assignment.below head assignments :=
      mem_below.mpr ⟨by simp [more], listed⟩
    exact ⟨List.ne_nil_of_mem inner, Or.inr ⟨_, inner, ⟨rest, rfl⟩, by simpa using more⟩⟩

end Assignment

namespace Screen

/-- The nested form that a path of merge keys leads to, as it is shown before anything is done. -/
def at? (maxNesting : Nat) : List String → Screen → Option Screen
  | [], screen => some screen
  | key :: rest, screen => (screen.nested? maxNesting key).bind (at? maxNesting rest)

variable {key : String} {lenient : Bool}

/-- What is read along a path begins with what is stored under its first key. -/
theorem at?_mapping (screen : Screen) (key : String) (rest : List String) :
    Value.at? (key :: rest) (.mapping screen.store.edits) = (screen.edit? key).bind (Value.at? rest) := rfl

/-! ## Commits to one key -/

/-- A commit that succeeds converts the value, and stores it unless it is in effect. -/
theorem write_cases {raw : Value} {screen after : Screen} (written : write lenient key raw screen = some after) :
    ∃ row value, screen.writable? key = some row ∧
      (Contract.builtin row.rowType).coerce key row raw lenient = .ok value ∧
      (screen.store.isInEffect key row (Contract.builtin row.rowType) value = true ∧ after = screen ∨
        after = screen.put key value) := by
  obtain ⟨change, stores, rfl⟩ := Option.map_eq_some_iff.mp written
  obtain ⟨row, writable, converts⟩ := Option.bind_eq_some_iff.mp stores
  split at converts
  · rename_i value converted
    refine ⟨row, value, writable, converted, ?_⟩
    obtain rfl := Option.some.inj converts
    by_cases inEffect : screen.store.isInEffect key row (Contract.builtin row.rowType) value = true
    · rw [if_pos inEffect]
      exact Or.inl ⟨inEffect, rfl⟩
    · rw [if_neg inEffect]
      exact Or.inr rfl
  · cases converts

/-- Only a converted value, if any, was stored under the key since the screen was shown. -/
structure Written (lenient : Bool) (key : String) (shown now : Screen) : Prop where
  frame : now = { shown with store := { shown.store with edits := now.store.edits } }
  stored : now.edit? key = none ∨ ∃ row held raw, shown.writable? key = some row ∧
    now.edit? key = some held ∧ (Contract.builtin row.rowType).coerce key row raw lenient = .ok held

/-- As long as nothing is stored under the key, the same value is in effect. -/
theorem Written.effective {shown now : Screen} (written : Written lenient key shown now)
    (same : now.edit? key = shown.edit? key) (declared : Value) :
    now.store.effective key declared = shown.store.effective key declared := by
  have frame := written.frame
  rw [edit?, edit?] at same
  rw [Store.effective, Store.effective, Store.get?_eq, Store.get?_eq, same, frame]

/-- A value that was stored is the edit of its key. -/
theorem edit?_put (screen : Screen) (value : Value) : (screen.put key value).edit? key = some value :=
  Mapping.get?_insert_self key value _

/-- Another write under the key leaves only a converted value there. -/
theorem Written.write {raw : Value} {shown now after : Screen} (sofar : Written lenient key shown now)
    (written : write lenient key raw now = some after) : Written lenient key shown after := by
  obtain ⟨row, value, writable, converted, ⟨-, rfl⟩ | rfl⟩ := write_cases written
  · exact sofar
  · have same : shown.writable? key = some row := by
      rw [sofar.frame] at writable
      exact writable
    refine ⟨?_, Or.inr ⟨row, value, raw, same, edit?_put now value, converted⟩⟩
    rw [sofar.frame]
    rfl

/-- Any number of writes under the key leave only a converted value there. -/
theorem Written.writes {raws : List Value} {shown now after : Screen} (sofar : Written lenient key shown now)
    (ran : runAll (raws.map fun raw => (key, Screen.write lenient key raw)) now = some after) :
    Written lenient key shown after := by
  induction raws generalizing now with
  | nil =>
    obtain rfl := Option.some.inj ran
    exact sofar
  | cons raw rest inductionHypothesis =>
    rw [List.map_cons, runAll_cons] at ran
    obtain ⟨middle, written, remaining⟩ := Option.bind_eq_some_iff.mp ran
    exact inductionHypothesis (sofar.write written) remaining

/-- After commits to one key, the key holds a value equal to the one committed last, or nothing, and then that
value was in effect from the start. -/
theorem writes_last {raws : List Value} {raw : Value} {shown after : Screen} (fresh : shown.edit? key = none)
    (ran : runAll ((raws ++ [raw]).map fun raw => (key, write lenient key raw)) shown = some after) :
    ∃ row value, shown.writable? key = some row ∧
      (Contract.builtin row.rowType).coerce key row raw lenient = .ok value ∧
      ((∃ held, after.edit? key = some held ∧ (held == value) = true) ∨
        after.edit? key = none ∧
          shown.store.isInEffect key row (Contract.builtin row.rowType) value = true) := by
  rw [List.map_append, runAll_append] at ran
  obtain ⟨before, earlier, last⟩ := Option.bind_eq_some_iff.mp ran
  obtain ⟨now, written, finished⟩ := Option.bind_eq_some_iff.mp last
  obtain rfl := Option.some.inj finished
  have sofar : Written lenient key shown before := Written.writes ⟨rfl, Or.inl fresh⟩ earlier
  obtain ⟨row, value, writable, converted, done⟩ := write_cases written
  have same : shown.writable? key = some row := by
    rw [sofar.frame] at writable
    exact writable
  refine ⟨row, value, same, converted, ?_⟩
  rcases done with ⟨inEffect, rfl⟩ | rfl
  · rcases sofar.stored with none | ⟨other, held, first, known, stored, accepted⟩
    · refine Or.inr ⟨none, ?_⟩
      rw [Store.isInEffect_iff] at inEffect ⊢
      rwa [sofar.effective (none.trans fresh.symm)] at inEffect
    · obtain rfl := Option.some.inj (known.symm.trans same)
      have current : now.store.effective key other.declaredValue = held := by
        rw [edit?] at stored
        rw [Store.effective, Store.get?_eq, stored]
        rfl
      rw [Store.isInEffect_iff, current] at inEffect
      refine Or.inl ⟨held, stored, ?_⟩
      rcases inEffect with equal | ⟨again, accepts, equal⟩
      · exact equal
      · exact BEq.trans (BEq.symm (Contract.coerce_again accepted accepts)) equal
  · exact Or.inl ⟨value, edit?_put before value, BEq.rfl⟩

/-- If a nested form is shown after commits to its merge key, the key is that of a row that holds values, too. -/
theorem writes_shared {maxNesting : Nat} {raws : List Value} (committed : raws ≠ []) {screen written nested : Screen}
    (ran : runAll (raws.map fun raw => (key, write lenient key raw)) screen = some written)
    (shown : written.nested? maxNesting key = some nested) :
    (screen.writable? key).isSome = true ∧ (Script.nestingRow? screen.schema key).isSome = true := by
  constructor
  · obtain ⟨raw, rest, rfl⟩ := List.exists_cons_of_ne_nil committed
    rw [List.map_cons, runAll_cons] at ran
    obtain ⟨middle, first, -⟩ := Option.bind_eq_some_iff.mp ran
    obtain ⟨row, -, writable, -⟩ := write_cases first
    rw [writable]
    rfl
  · have keyed : Keyed (raws.map fun raw => (key, write lenient key raw)) := by
      intro step member
      obtain ⟨raw, -, rfl⟩ := List.mem_map.mp member
      exact atKey_write lenient key raw
    have nesting := (nested?_cases shown).1
    rwa [(runAll_frame keyed ran).1] at nesting

end Screen

namespace Visit

open Screen

variable {config : Config}

/-- What a visit leaves under a key is what the commits to the key and the visit of the nested form with that
merge key leave there. -/
theorem effect_at {assignments : List Assignment} {screen after : Screen}
    (effected : (ofAssignments assignments).effect config screen = some after) (key : String) :
    ∃ written, runAll ((Assignment.values [key] assignments).map fun raw =>
        (key, write config.lenientStrings key raw)) screen = some written ∧
      (Assignment.below key assignments = [] ∧ after.edit? key = written.edit? key ∨
        Assignment.below key assignments ≠ [] ∧ ∃ shown nested,
          written.nested? config.maxNesting key = some shown ∧
          (ofAssignments (Assignment.below key assignments)).effect config shown = some nested ∧
          after.edit? key = if nested.store.edits = [] then written.edit? key
            else some (.mapping nested.store.edits)) := by
  rw [effect_eq] at effected
  obtain ⟨middle, ran, same⟩ := runAll_at (keyed_steps config _) effected key
  rw [filter_steps, runAll_append] at ran
  obtain ⟨written, committed, visited⟩ := Option.bind_eq_some_iff.mp ran
  refine ⟨written, committed, ?_⟩
  rw [same]
  by_cases blank : Assignment.below key assignments = []
  · rw [if_pos blank] at visited
    obtain rfl := Option.some.inj visited
    exact Or.inl ⟨blank, rfl⟩
  · refine Or.inr ⟨blank, ?_⟩
    rw [if_neg blank, runAll_cons] at visited
    obtain ⟨last, descended, finished⟩ := Option.bind_eq_some_iff.mp visited
    obtain rfl := Option.some.inj finished
    obtain ⟨change, returned, rfl⟩ := Option.map_eq_some_iff.mp descended
    obtain ⟨nested, inside, rfl⟩ := Option.map_eq_some_iff.mp returned
    obtain ⟨shown, opened, effected⟩ := Option.bind_eq_some_iff.mp inside
    refine ⟨shown, nested, opened, effected, ?_⟩
    by_cases none : nested.store.edits = []
    · rw [if_pos none, if_pos none]
      rfl
    · rw [if_neg none, if_neg none]
      exact edit?_put written _

/-- If nothing is assigned to a merge key itself, what is read below the key is what the visit of the nested form
leaves. -/
theorem effect_below {assignments : List Assignment} {screen after : Screen}
    (effected : (ofAssignments assignments).effect config screen = some after)
    (blank : screen.store.edits = []) {key : String} (unassigned : Assignment.values [key] assignments = [])
    (leads : Assignment.below key assignments ≠ []) :
    ∃ shown nested, screen.nested? config.maxNesting key = some shown ∧
      (ofAssignments (Assignment.below key assignments)).effect config shown = some nested ∧
      ∀ rest, rest ≠ [] → Value.at? (key :: rest) (.mapping after.store.edits) =
        Value.at? rest (.mapping nested.store.edits) := by
  obtain ⟨written, committed, ⟨none, -⟩ | ⟨-, shown, nested, opened, inside, left⟩⟩ := effect_at effected key
  · exact absurd none leads
  · rw [unassigned] at committed
    obtain rfl := Option.some.inj committed
    refine ⟨shown, nested, opened, inside, ?_⟩
    intro rest further
    obtain ⟨next, others, rfl⟩ := List.exists_cons_of_ne_nil further
    rw [at?_mapping, left]
    by_cases none : nested.store.edits = []
    · rw [if_pos none, none, edit?, blank]
      rfl
    · rw [if_neg none]
      rfl

/-! ## Along assigned paths -/

/-- The edits hold what was assigned last, as it was converted, or nothing if it was in effect before. -/
theorem effect_assigned {trail : List String} {key : String} {raw : Value} {assignments : List Assignment}
    {screen after : Screen} (effected : (ofAssignments assignments).effect config screen = some after)
    (blank : screen.store.edits = [])
    (last : (Assignment.values (trail ++ [key]) assignments).getLast? = some raw)
    (alone : Assignment.Alone (trail ++ [key]) assignments) :
    ∃ place row value, screen.at? config.maxNesting trail = some place ∧ place.writable? key = some row ∧
      (Contract.builtin row.rowType).coerce key row raw config.lenientStrings = .ok value ∧
      ((∃ held, Value.at? (trail ++ [key]) (.mapping after.store.edits) = some held ∧
          (held == value) = true) ∨
        Value.at? (trail ++ [key]) (.mapping after.store.edits) = none ∧
          place.store.isInEffect key row (Contract.builtin row.rowType) value = true) := by
  induction trail generalizing assignments screen after with
  | nil =>
    obtain ⟨raws, assigned⟩ := List.getLast?_eq_some_iff.mp last
    simp only [List.nil_append] at assigned alone ⊢
    obtain ⟨written, committed, ⟨-, left⟩ | ⟨leads, -⟩⟩ := effect_at effected key
    · rw [assigned] at committed
      have fresh : screen.edit? key = none := by rw [edit?, blank]; rfl
      obtain ⟨row, value, writable, converted, ends⟩ := writes_last fresh committed
      refine ⟨screen, row, value, rfl, writable, converted, ?_⟩
      have read : Value.at? [key] (.mapping after.store.edits) = written.edit? key := by
        rw [at?_mapping, left]
        exact Option.bind_fun_some (written.edit? key)
      rw [read]
      exact ends
    · exact absurd (alone.below_nil) leads
  | cons head trail inductionHypothesis =>
    have unassigned : Assignment.values [head] assignments = [] := alone.values_head (by simp)
    have further : trail ++ [key] ≠ [] := by simp
    have lastBelow : (Assignment.values (trail ++ [key]) (Assignment.below head assignments)).getLast? =
        some raw := by
      rw [Assignment.values_below, if_neg further]
      exact last
    have leads : Assignment.below head assignments ≠ [] := by
      intro none
      rw [none] at lastBelow
      cases lastBelow
    obtain ⟨shown, nested, opened, inside, read⟩ := effect_below effected blank unassigned leads
    rw [List.cons_append, read _ further]
    obtain ⟨place, row, value, found, rest⟩ :=
      inductionHypothesis inside (nested?_cases opened).2 lastBelow alone.below
    refine ⟨place, row, value, ?_, rest⟩
    rw [Screen.at?, opened]
    exact found

/-! ## What is held -/

/-- Whatever the edits hold in a form that was visited lies on an assigned path, unless a value was assigned to a
key that one of the forms on the way uses for a row that holds values and for a nesting row. -/
theorem effect_entries {trail : List String} {key : String} {entry : Value} {assignments : List Assignment}
    {screen after : Screen} (effected : (ofAssignments assignments).effect config screen = some after)
    (blank : screen.store.edits = []) (visited : Assignment.Visited trail assignments)
    (held : Value.at? (trail ++ [key]) (.mapping after.store.edits) = some entry) :
    (∃ a ∈ assignments, trail ++ [key] <+: a.path) ∨
      ∃ outer shared place, outer ++ [shared] <+: trail ∧ (∃ a ∈ assignments, a.path = outer ++ [shared]) ∧
        screen.at? config.maxNesting outer = some place ∧ (place.writable? shared).isSome = true ∧
        (Script.nestingRow? place.schema shared).isSome = true := by
  induction trail generalizing assignments screen after with
  | nil =>
    refine Or.inl ?_
    obtain ⟨written, committed, ⟨-, left⟩ | ⟨leads, -⟩⟩ := effect_at effected key
    · cases assigned : Assignment.values [key] assignments with
      | nil =>
        rw [assigned] at committed
        obtain rfl := Option.some.inj committed
        rw [List.nil_append, at?_mapping, left, edit?, blank] at held
        cases held
      | cons raw rest =>
        have member : raw ∈ Assignment.values [key] assignments := by rw [assigned]; exact List.mem_cons_self
        exact ⟨_, Assignment.mem_values.mp member, List.prefix_rfl⟩
    · obtain ⟨inner, listed⟩ := List.exists_mem_of_ne_nil _ leads
      exact ⟨_, (Assignment.mem_below.mp listed).2, inner.path, rfl⟩
  | cons head trail inductionHypothesis =>
    obtain ⟨leads, below⟩ := visited.below
    by_cases unassigned : Assignment.values [head] assignments = []
    · obtain ⟨shown, nested, opened, inside, read⟩ := effect_below effected blank unassigned leads
      rw [List.cons_append, read _ (by simp)] at held
      rcases inductionHypothesis inside (nested?_cases opened).2 below held with
        ⟨inner, listed, continued⟩ | ⟨outer, shared, place, within, ⟨inner, listed, path⟩, found, both⟩
      · exact Or.inl ⟨_, (Assignment.mem_below.mp listed).2, (List.prefix_cons_inj head).mpr continued⟩
      · refine Or.inr ⟨head :: outer, shared, place, (List.prefix_cons_inj head).mpr within,
          ⟨_, (Assignment.mem_below.mp listed).2, congrArg (head :: ·) path⟩, ?_, both⟩
        rw [Screen.at?, opened]
        exact found
    · obtain ⟨written, committed, ⟨none, -⟩ | ⟨-, shown, nested, opened, -⟩⟩ := effect_at effected head
      · exact absurd none leads
      · obtain ⟨raw, assigned⟩ := List.exists_mem_of_ne_nil _ unassigned
        exact Or.inr ⟨[], head, screen, ⟨trail, rfl⟩, ⟨_, Assignment.mem_values.mp assigned, rfl⟩, rfl,
          writes_shared unassigned committed opened⟩

end Visit

namespace Script

/-- Edits account for assignments to a form that is shown on a screen. -/
structure Accounts (config : Config) (root : Screen) (assignments : List Assignment) (diff : Mapping) : Prop where
  /-- Along an assigned path, unless other assigned paths lead to it or continue it, they hold the value assigned
  last, as the contract of the row converts it, or nothing if the value in effect before equals that or converts
  to it. -/
  assigned : ∀ trail key raw, (Assignment.values (trail ++ [key]) assignments).getLast? = some raw →
    Assignment.Alone (trail ++ [key]) assignments →
    ∃ place row value, root.at? config.maxNesting trail = some place ∧ place.writable? key = some row ∧
      (Contract.builtin row.rowType).coerce key row raw config.lenientStrings = .ok value ∧
      ((∃ held, Value.at? (trail ++ [key]) (.mapping diff) = some held ∧ (held == value) = true) ∨
        Value.at? (trail ++ [key]) (.mapping diff) = none ∧
          ((place.store.effective key row.declaredValue == value) = true ∨
            ∃ converted, (Contract.builtin row.rowType).coerce key row
              (place.store.effective key row.declaredValue) true = .ok converted ∧
              (converted == value) = true))
  /-- Whatever they hold in a form that was visited lies on an assigned path, unless a form on the way uses one
  key for a row that holds values and for a nesting row, and a value was assigned to that key. -/
  held : ∀ trail key entry, Assignment.Visited trail assignments →
    Value.at? (trail ++ [key]) (.mapping diff) = some entry →
    (∃ a ∈ assignments, trail ++ [key] <+: a.path) ∨
      ∃ outer shared place, outer ++ [shared] <+: trail ∧ (∃ a ∈ assignments, a.path = outer ++ [shared]) ∧
        root.at? config.maxNesting outer = some place ∧ (place.writable? shared).isSome = true ∧
        (nestingRow? place.schema shared).isSome = true

/-- The edits that a script returns account for its assignments. -/
theorem run_accounts {groups : List Group} {values fallback : Mapping} {config : Config}
    {assignments : List Assignment} {diff : Mapping}
    (succeeds : run groups values fallback config assignments = .ok diff) :
    ∃ schema, Schema.build groups 0 = .ok schema ∧
      Accounts config ⟨schema, .ofValues values fallback⟩ assignments diff := by
  obtain ⟨schema, after, built, effected, rfl⟩ := run_ok_iff.mp succeeds
  refine ⟨schema, built, ?_, ?_⟩
  · intro trail key raw last alone
    obtain ⟨place, row, value, found, writable, converted, ends⟩ :=
      Visit.effect_assigned effected rfl last alone
    rw [Store.isInEffect_iff] at ends
    exact ⟨place, row, value, found, writable, converted, ends⟩
  · intro trail key entry visited held
    exact Visit.effect_entries effected rfl visited held

/-- The port of a server, and an empty host. -/
def portScript : List Assignment :=
  [⟨["net", "port"], .number (.ofInt64 80)⟩, ⟨["net", "host"], .string ""⟩]

/-- The port is edited, while the host was empty before. -/
theorem run_accounts_server :
    run serverForm [] [] .standard portScript = .ok [("net", .mapping [("port", .number (.ofInt64 80))])] ∧
      ∃ schema, Schema.build serverForm 0 = .ok schema ∧
        Accounts .standard ⟨schema, .ofValues [] []⟩ portScript
          [("net", .mapping [("port", .number (.ofInt64 80))])] := by
  have succeeds : run serverForm [] [] .standard portScript =
      .ok [("net", .mapping [("port", .number (.ofInt64 80))])] :=
    run_ok_iff.mpr ⟨_, _, by rfl, by rfl, by rfl⟩
  exact ⟨succeeds, run_accounts succeeds⟩

/-- A form with a row for any value and a nested form under the same key. -/
def sharedForm : List Group :=
  [⟨"T", none, none, none, [.ofPayload "K" "k" (.custom .null),
    .ofPayload "More" "k" (.multiLevel (some [⟨"In", none, none, none, [.ofPayload "Y" "y" (.string "d")]⟩]))]⟩]

/-- A mapping for the shared key, and a text for the nested form. -/
def sharedScript : List Assignment :=
  [⟨["k"], .mapping [("x", .number (.ofInt64 1))]⟩, ⟨["k", "y"], .string "d"⟩]

/-- The entry of the mapping is held in the nested form, although nothing was assigned to it there. -/
theorem run_shared :
    ∃ diff, run sharedForm [] [] .standard sharedScript = .ok diff ∧
      Assignment.Visited ["k"] sharedScript ∧
      Value.at? ["k", "x"] (.mapping diff) = some (.number (.ofInt64 1)) ∧
      ¬ ∃ a ∈ sharedScript, ["k", "x"] <+: a.path := by
  have succeeds : run sharedForm [] [] .standard sharedScript =
      .ok [("k", .mapping [("x", .number (.ofInt64 1))])] :=
    run_ok_iff.mpr ⟨_, _, by rfl, by rfl, by rfl⟩
  have visited : Assignment.Visited ["k"] sharedScript :=
    Or.inr ⟨⟨["k", "y"], .string "d"⟩, by simp [sharedScript], ⟨["y"], rfl⟩, by simp⟩
  exact ⟨_, succeeds, visited, by rfl, by simp [sharedScript]⟩

end Script

end SettingsForm
