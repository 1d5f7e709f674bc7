import SettingsForm.Proofs.Store.Layers
import SettingsForm.Script.Run

/-!
# What a visit does to a form

With the contracts of the types in force, what a script does to one form depends on the schema and the store
of its session alone; both together are a screen. A commit and a visit of a nested form are effects at a
key: they look at what is stored under that key and at nothing else in the edits, and may store another
value there. So effects at different keys can be exchanged, and a sequence of effects does the same in every
order that keeps the effects at each key in theirs.
-/

namespace SettingsForm

/-- The schema and the store of a session. -/
structure Screen where
  schema : Schema
  store : Store

namespace Screen

/-- What is done to a screen, unless it fails. -/
abbrev Effect := Screen → Option Screen

/-- The screen with one more value among its edits. -/
def put (key : String) (screen : Screen) (value : Value) : Screen :=
  { screen with store := { screen.store with edits := Mapping.insert key value screen.store.edits } }

/-- The screen with a value stored under a key, or the screen itself. -/
def noting (key : String) (screen : Screen) (change : Option Value) : Screen :=
  change.elim screen (screen.put key)

/-- The edits of the screen, looked up. -/
def edit? (key : String) (screen : Screen) : Option Value := Mapping.get? key screen.store.edits

/-- A row can be written to: it is there, it is editable, and the contract of its type stores values. The
row then bears the key as its identifier. -/
def writable? (key : String) (screen : Screen) : Option Row :=
  (screen.schema.resolve? key).bind fun row =>
    if row.editable = true ∧ (Contract.builtin row.rowType).persisted = true then
      some { row with identifier := key }
    else none

/-- What a commit to a key stores there: the converted value, or nothing if it is in effect already. -/
def stores? (lenient : Bool) (key : String) (raw : Value) (screen : Screen) : Option (Option Value) :=
  (screen.writable? key).bind fun row =>
    match (Contract.builtin row.rowType).coerce key row raw lenient with
    | .ok value =>
      some (if screen.store.isInEffect key row (Contract.builtin row.rowType) value then none else some value)
    | .error _ => none

/-- Commits a value to a key. -/
def write (lenient : Bool) (key : String) (raw : Value) : Effect := fun screen =>
  (screen.stores? lenient key raw).map (screen.noting key)

/-- The nested form of the row with a merge key, as it is shown first. -/
def nested? (maxNesting : Nat) (key : String) (screen : Screen) : Option Screen :=
  (screen.schema.rows.find? fun (_, row) => row.rowType.isNesting && row.mergeKey = key).bind fun (_, row) =>
    row.childGroups?.bind fun groups =>
      (Schema.build groups (screen.schema.level + 1)).toOption.bind fun schema =>
        if screen.schema.level + 1 ≤ maxNesting then
          some
            { schema
              store := .ofValues ((screen.store.nestedEffective? key).getD [])
                ((screen.store.nestedFallback? key).getD []) }
        else none

/-- What a visit of the nested form with a merge key stores there: the edits made in it, if there are any. -/
def returns? (maxNesting : Nat) (key : String) (inside : Effect) (screen : Screen) : Option (Option Value) :=
  ((screen.nested? maxNesting key).bind inside).map fun nested =>
    if nested.store.edits = [] then none else some (.mapping nested.store.edits)

/-- Visits the nested form with a merge key. -/
def descend (maxNesting : Nat) (key : String) (inside : Effect) : Effect := fun screen =>
  (screen.returns? maxNesting key inside).map (screen.noting key)

/-- Effects one after the other, each with the key that it is at. -/
def runAll (steps : List (String × Effect)) : Effect := fun screen =>
  steps.foldlM (fun screen step => step.2 screen) screen

end Screen

mutual

/-- What a visit does to a form: the commits first, then the nested forms. -/
def Visit.effect (config : Config) : Visit → Screen.Effect
  | .mk commits children => Screen.runAll <|
    (commits.map fun (key, raw) => (key, Screen.write config.lenientStrings key raw)) ++
      Visit.childEffects config children

/-- What visits of nested forms do to the form around them. -/
def Visit.childEffects (config : Config) : List (String × Visit) → List (String × Screen.Effect)
  | [] => []
  | (key, child) :: rest =>
    (key, Screen.descend config.maxNesting key (child.effect config)) :: Visit.childEffects config rest

end

namespace Screen

variable {key other : String}

/-! ## Nested forms -/

/-- The row with the merge key says which nested form is shown. -/
theorem nested?_of_find? (screen : Screen) (maxNesting : Nat) {position : Position} {row : Row}
    (found : (screen.schema.rows.find? fun (_, row) => row.rowType.isNesting && row.mergeKey = key) =
      some (position, row)) :
    screen.nested? maxNesting key = row.childGroups?.bind fun groups =>
      (Schema.build groups (screen.schema.level + 1)).toOption.bind fun schema =>
        if screen.schema.level + 1 ≤ maxNesting then
          some ⟨schema, .ofValues ((screen.store.nestedEffective? key).getD [])
            ((screen.store.nestedFallback? key).getD [])⟩
        else none := by
  rw [nested?, found]
  rfl

/-- A nested form is shown for a nesting row, and without edits. -/
theorem nested?_cases {maxNesting : Nat} {screen nested : Screen}
    (shown : screen.nested? maxNesting key = some nested) :
    (Script.nestingRow? screen.schema key).isSome = true ∧ nested.store.edits = [] := by
  obtain ⟨⟨position, row⟩, found, -⟩ := Option.bind_eq_some_iff.mp shown
  constructor
  · rw [Script.nestingRow?, found]
    rfl
  · rw [nested?_of_find? screen maxNesting found] at shown
    obtain ⟨groups, -, shown⟩ := Option.bind_eq_some_iff.mp shown
    obtain ⟨schema, -, shown⟩ := Option.bind_eq_some_iff.mp shown
    obtain ⟨-, same⟩ := Option.ite_none_right_eq_some.mp shown
    obtain rfl := Option.some.inj same
    rfl

/-! ## Effects at a key -/

/-- The effect may store a value under the key. What it stores, and whether it fails, does not depend on
what is stored under other keys. -/
structure AtKey (key : String) (effect : Effect) : Prop where
  decides : ∃ decide : Screen → Option (Option Value),
    (∀ screen, effect screen = (decide screen).map (screen.noting key)) ∧
      ∀ screen other value, other ≠ key → decide (screen.put other value) = decide screen

/-- What is stored under different keys may be stored in either order. -/
theorem noting_comm (different : other ≠ key) (screen : Screen) (change written : Option Value) :
    (screen.noting other written).noting key change = (screen.noting key change).noting other written := by
  cases change with
  | none => rfl
  | some value =>
    cases written with
    | none => rfl
    | some second =>
      simp only [noting, Option.elim_some, put]
      rw [Mapping.insert_comm different]

/-- Effects at different keys can be exchanged. -/
theorem AtKey.comm {effect further : Effect} (first : AtKey key effect) (second : AtKey other further)
    (different : other ≠ key) (screen : Screen) :
    (effect screen).bind further = (further screen).bind effect := by
  obtain ⟨decide, effects, sees⟩ := first.decides
  obtain ⟨settle, furthers, notices⟩ := second.decides
  have unseen (change : Option Value) : settle (screen.noting key change) = settle screen := by
    cases change with
    | none => rfl
    | some value => exact notices screen key value different.symm
  have unnoticed (change : Option Value) : decide (screen.noting other change) = decide screen := by
    cases change with
    | none => rfl
    | some value => exact sees screen other value different
  rw [effects, furthers]
  cases decided : decide screen with
  | none =>
    cases settle screen with
    | none => rfl
    | some written => simp [effects, unnoticed, decided]
  | some change =>
    cases settled : settle screen with
    | none => simp [furthers, unseen, settled]
    | some written =>
      simp only [Option.map_some, Option.bind_some, effects, furthers, unseen, unnoticed, decided, settled]
      rw [noting_comm different]

/-- An effect changes nothing but the edit under its key. -/
theorem AtKey.frame {effect : Effect} (atKey : AtKey key effect) {screen after : Screen}
    (effected : effect screen = some after) :
    after = { screen with store := { screen.store with edits := after.store.edits } } ∧
      ∀ other, other ≠ key → after.edit? other = screen.edit? other := by
  obtain ⟨decide, effects, -⟩ := atKey.decides
  rw [effects] at effected
  obtain ⟨change, -, rfl⟩ := Option.map_eq_some_iff.mp effected
  cases change with
  | none => exact ⟨rfl, fun _ _ => rfl⟩
  | some value => exact ⟨rfl, fun other different => Mapping.get?_insert_of_ne key other value _ different⟩

/-- What is looked up under a key does not depend on the edits under another one. -/
theorem get?_put (different : other ≠ key) (screen : Screen) (value : Value) :
    (screen.put other value).store.get? key = screen.store.get? key := by
  rw [Store.get?_eq, Store.get?_eq, put, Mapping.get?_insert_of_ne other key value _ different.symm]

/-- A commit is an effect at the key that it writes to. -/
theorem atKey_write (lenient : Bool) (key : String) (raw : Value) : AtKey key (write lenient key raw) where
  decides := by
    refine ⟨stores? lenient key raw, fun _ => rfl, ?_⟩
    intro screen other value different
    have same : (screen.put other value).writable? key = screen.writable? key := rfl
    have unseen (row : Row) (contract : Contract) (committed : Value) :
        (screen.put other value).store.isInEffect key row contract committed =
          screen.store.isInEffect key row contract committed := by
      simp only [Store.isInEffect, Store.effective, get?_put different]
    simp only [stores?, same, unseen]

/-- A visit of a nested form is an effect at its merge key. -/
theorem atKey_descend (maxNesting : Nat) (key : String) (inside : Effect) :
    AtKey key (descend maxNesting key inside) where
  decides := by
    refine ⟨returns? maxNesting key inside, fun _ => rfl, ?_⟩
    intro screen other value different
    have same : (screen.put other value).nested? maxNesting key = screen.nested? maxNesting key := by
      simp only [nested?, Store.nestedEffective?, get?_put different]
      rfl
    simp only [returns?, same]

/-! ## Sequences of effects -/

section Sequence

variable {steps others : List (String × Effect)}

/-- Each effect is at the key that it is listed with. -/
def Keyed (steps : List (String × Effect)) : Prop := ∀ step ∈ steps, AtKey step.1 step.2

/-- A sequence of effects has the first one, then the rest. -/
theorem runAll_cons (step : String × Effect) (rest : List (String × Effect)) (screen : Screen) :
    runAll (step :: rest) screen = (step.2 screen).bind (runAll rest) := rfl

/-- Two sequences run one after the other. -/
theorem runAll_append (first second : List (String × Effect)) (screen : Screen) :
    runAll (first ++ second) screen = (runAll first screen).bind (runAll second) :=
  List.foldlM_append

/-- An effect may go before effects at other keys. -/
theorem runAll_advance {step : String × Effect} (atKey : AtKey step.1 step.2) {before : List (String × Effect)}
    (keyed : Keyed before) (apart : ∀ other ∈ before, other.1 ≠ step.1) (after : List (String × Effect))
    (screen : Screen) :
    runAll (before ++ step :: after) screen = runAll (step :: (before ++ after)) screen := by
  induction before generalizing screen with
  | nil => rfl
  | cons first rest inductionHypothesis =>
    have moved : runAll (rest ++ step :: after) = fun screen => (step.2 screen).bind (runAll (rest ++ after)) := by
      funext screen
      exact inductionHypothesis (fun other member => keyed other (List.mem_cons_of_mem first member))
        (fun other member => apart other (List.mem_cons_of_mem first member)) screen
    have exchanged := atKey.comm (keyed first List.mem_cons_self) (apart first List.mem_cons_self) screen
    calc runAll (first :: (rest ++ step :: after)) screen
        = (first.2 screen).bind fun screen => (step.2 screen).bind (runAll (rest ++ after)) := by
          rw [runAll_cons, moved]
      _ = ((step.2 screen).bind first.2).bind (runAll (rest ++ after)) := by
          rw [exchanged, Option.bind_assoc]
      _ = runAll (step :: (first :: rest ++ after)) screen := by
          rw [runAll_cons, Option.bind_assoc]
          rfl

/-- Lists that agree at every key have the same effects in them. -/
theorem mem_of_reordered (same : ∀ key, steps.filter (·.1 = key) = others.filter (·.1 = key))
    {step : String × Effect} (member : step ∈ others) : step ∈ steps := by
  have kept : step ∈ others.filter (·.1 = step.1) := List.mem_filter.mpr ⟨member, by simp⟩
  rw [← same] at kept
  exact (List.mem_filter.mp kept).1

/-- Effects may be run in any order that keeps the order of those at the same key. -/
theorem runAll_reordered (keyed : Keyed steps)
    (same : ∀ key, steps.filter (·.1 = key) = others.filter (·.1 = key)) : runAll steps = runAll others := by
  induction steps generalizing others with
  | nil =>
    cases others with
    | nil => rfl
    | cons step rest => exact absurd (mem_of_reordered same List.mem_cons_self) List.not_mem_nil
  | cons step rest inductionHypothesis =>
    -- The first effect at the same key on the other side is this one, and it may go first there, too.
    have first := same step.1
    rw [List.filter_cons_of_pos (by simp)] at first
    obtain ⟨before, after, rfl, apart, -, remaining⟩ := List.filter_eq_cons_iff.mp first.symm
    have different : ∀ other ∈ before, other.1 ≠ step.1 := by
      intro other member
      simpa using apart other member
    have keyedBefore : Keyed before := by
      intro other member
      exact keyed other (mem_of_reordered same (List.mem_append_left _ member))
    have others : ∀ key, rest.filter (·.1 = key) = (before ++ after).filter (·.1 = key) := by
      intro key
      rw [List.filter_append]
      by_cases here : step.1 = key
      · subst here
        rw [List.filter_eq_nil_iff.mpr apart, List.nil_append, remaining]
      · have equal := same key
        rwa [List.filter_cons_of_neg (by simpa using here), List.filter_append,
          List.filter_cons_of_neg (by simpa using here)] at equal
    have continued : runAll rest = runAll (before ++ after) :=
      inductionHypothesis (fun other member => keyed other (List.mem_cons_of_mem step member)) others
    funext screen
    rw [runAll_advance (keyed step List.mem_cons_self) keyedBefore different, runAll_cons, runAll_cons,
      continued]

/-- A sequence changes nothing but the edits under the keys of its effects. -/
theorem runAll_frame (keyed : Keyed steps) {screen after : Screen} (ran : runAll steps screen = some after) :
    after = { screen with store := { screen.store with edits := after.store.edits } } ∧
      ∀ key, (∀ step ∈ steps, step.1 ≠ key) → after.edit? key = screen.edit? key := by
  induction steps generalizing screen with
  | nil =>
    obtain rfl := Option.some.inj ran
    exact ⟨rfl, fun _ _ => rfl⟩
  | cons step rest inductionHypothesis =>
    rw [runAll_cons] at ran
    obtain ⟨middle, effected, remaining⟩ := Option.bind_eq_some_iff.mp ran
    obtain ⟨first, kept⟩ := (keyed step List.mem_cons_self).frame effected
    obtain ⟨later, others⟩ :=
      inductionHypothesis (fun other member => keyed other (List.mem_cons_of_mem step member)) remaining
    constructor
    · rw [later, first]
    · intro key apart
      rw [others key fun other member => apart other (List.mem_cons_of_mem step member),
        kept key (apart step List.mem_cons_self).symm]

/-- What a sequence leaves under a key is what its effects at that key leave there. -/
theorem runAll_at (keyed : Keyed steps) {screen after : Screen} (ran : runAll steps screen = some after)
    (key : String) :
    ∃ middle, runAll (steps.filter (·.1 = key)) screen = some middle ∧
      after.edit? key = middle.edit? key := by
  have sorted : ∀ other, steps.filter (·.1 = other) =
      (steps.filter (·.1 = key) ++ steps.filter (·.1 ≠ key)).filter (·.1 = other) := by
    intro other
    rw [List.filter_append, List.filter_filter, List.filter_filter]
    by_cases same : other = key
    · subst same
      simp
    · have none : steps.filter (fun step => step.1 = other && step.1 = key) = [] := by
        rw [List.filter_eq_nil_iff]
        rintro step -
        simp only [Bool.and_eq_true, decide_eq_true_eq, not_and]
        rintro rfl
        exact same
      have all : steps.filter (fun step => step.1 = other && step.1 ≠ key) = steps.filter (·.1 = other) := by
        refine List.filter_congr ?_
        rintro step -
        by_cases here : step.1 = other
        · simp [here, same]
        · simp [here]
      rw [none, all, List.nil_append]
  rw [runAll_reordered keyed sorted, runAll_append] at ran
  obtain ⟨middle, here, elsewhere⟩ := Option.bind_eq_some_iff.mp ran
  refine ⟨middle, here, ?_⟩
  have keyedElsewhere : Keyed (steps.filter (·.1 ≠ key)) := fun step member =>
    keyed step (List.mem_filter.mp member).1
  refine (runAll_frame keyedElsewhere elsewhere).2 key ?_
  intro step member
  simpa using (List.mem_filter.mp member).2

end Sequence

end Screen

end SettingsForm
