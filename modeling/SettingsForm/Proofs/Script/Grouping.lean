import Mathlib.Data.List.Induction
import SettingsForm.Proofs.Script.Screen

/-!
# How assignments are grouped

The visit of a form commits what is assigned to paths of one part, and visits a nested form for what is
assigned below its merge key, once for each key. The visit of the nested form is that of the assignments
below the key, so what a script does to a form is told by the values that are assigned to each path
(`filter_steps`), and two scripts that assign the same values to each path, in the same order for each,
have the same effect (`effect_reordered`).
-/

namespace SettingsForm

namespace Assignment

/-- The values assigned to a path, in order. -/
def values (path : List String) (assignments : List Assignment) : List Value :=
  (assignments.filter (·.path = path)).map (·.value)

/-- What is assigned in the form itself. -/
def direct? (a : Assignment) : Option (String × Value) :=
  match a.path with
  | [key] => some (key, a.value)
  | _ => none

/-- The assignment as one in the nested form with a merge key, if it leads there. -/
def below? (key : String) (a : Assignment) : Option Assignment :=
  match a.path with
  | head :: next :: rest => if head = key then some ⟨next :: rest, a.value⟩ else none
  | _ => none

/-- The assignments that lead into the nested form with a merge key. -/
def below (key : String) (assignments : List Assignment) : List Assignment :=
  assignments.filterMap (below? key)

/-- One more assignment is one more below a key if it leads there. -/
theorem below_concat (key : String) (assignments : List Assignment) (a : Assignment) :
    below key (assignments ++ [a]) = below key assignments ++ (a.below? key).toList := by
  rw [below, List.filterMap_append]
  cases found : a.below? key <;> simp [below, found]

/-- An assignment leads into a nested form if its path goes on after the key. -/
theorem below?_eq_some_iff {key : String} {a inner : Assignment} :
    a.below? key = some inner ↔ inner.path ≠ [] ∧ a = ⟨key :: inner.path, inner.value⟩ := by
  obtain ⟨path, value⟩ := a
  obtain ⟨rest, assigned⟩ := inner
  cases path with
  | nil => simp [below?]
  | cons head tail =>
    cases tail with
    | nil =>
      simp only [below?, ne_eq, mk.injEq, List.cons.injEq, reduceCtorEq, false_iff]
      rintro ⟨named, ⟨-, rfl⟩, -⟩
      exact named rfl
    | cons next last =>
      simp only [below?, Option.ite_none_right_eq_some, Option.some.injEq, mk.injEq, List.cons.injEq]
      constructor
      · rintro ⟨rfl, rfl, rfl⟩
        exact ⟨List.cons_ne_nil next last, ⟨rfl, rfl⟩, rfl⟩
      · rintro ⟨-, ⟨rfl, rfl⟩, rfl⟩
        exact ⟨rfl, rfl, rfl⟩

/-- Below a key are the assignments whose paths go on after it, without the key. -/
theorem mem_below {key : String} {assignments : List Assignment} {inner : Assignment} :
    inner ∈ below key assignments ↔ inner.path ≠ [] ∧ ⟨key :: inner.path, inner.value⟩ ∈ assignments := by
  simp only [below, List.mem_filterMap, below?_eq_some_iff]
  constructor
  · rintro ⟨a, listed, named, rfl⟩
    exact ⟨named, listed⟩
  · rintro ⟨named, listed⟩
    exact ⟨_, listed, named, rfl⟩

/-- A value is assigned to a path just if one of the assignments does so. -/
theorem mem_values {path : List String} {assignments : List Assignment} {value : Value} :
    value ∈ values path assignments ↔ ⟨path, value⟩ ∈ assignments := by
  simp only [values, List.mem_map, List.mem_filter, decide_eq_true_eq]
  constructor
  · rintro ⟨a, ⟨listed, rfl⟩, rfl⟩
    exact listed
  · intro listed
    exact ⟨_, ⟨listed, rfl⟩, rfl⟩

/-- Below a key, the same values are assigned to the rest of each path. -/
theorem values_below (key : String) (rest : List String) (assignments : List Assignment) :
    values rest (below key assignments) = if rest = [] then [] else values (key :: rest) assignments := by
  induction assignments with
  | nil => simp [values, below]
  | cons a others inductionHypothesis =>
    simp only [values, below] at inductionHypothesis ⊢
    cases found : a.below? key with
    | none =>
      rw [List.filterMap_cons_none found, inductionHypothesis]
      by_cases ends : rest = []
      · simp [ends]
      · have elsewhere : a.path ≠ key :: rest := by
          intro same
          have leads : a.below? key = some ⟨rest, a.value⟩ :=
            below?_eq_some_iff.mpr ⟨ends, by cases a; exact congrArg (mk · _) same⟩
          rw [found] at leads
          cases leads
        simp [ends, elsewhere]
    | some inner =>
      obtain ⟨named, rfl⟩ := below?_eq_some_iff.mp found
      rw [List.filterMap_cons_some found, List.filter_cons, List.filter_cons]
      by_cases same : inner.path = rest
      · simp [same, inductionHypothesis, same ▸ named]
      · simp [same, inductionHypothesis]

/-- A list that assigns nothing to any path is empty. -/
theorem nil_of_values {assignments : List Assignment} (none : ∀ path, values path assignments = []) :
    assignments = [] := by
  rw [List.eq_nil_iff_forall_not_mem]
  intro a listed
  have assigned : a.value ∈ values a.path assignments := mem_values.mpr listed
  rw [none] at assigned
  cases assigned

/-- The paths of finitely many assignments have bounded lengths. -/
theorem exists_depth (assignments : List Assignment) : ∃ depth, ∀ a ∈ assignments, a.path.length < depth := by
  induction assignments with
  | nil => exact ⟨0, by simp⟩
  | cons first rest inductionHypothesis =>
    obtain ⟨depth, bounded⟩ := inductionHypothesis
    refine ⟨max depth (first.path.length + 1), ?_⟩
    intro a member
    rcases List.mem_cons.mp member with rfl | later
    · omega
    · have shorter := bounded a later
      omega

/-- What is assigned in the form itself, key by key. -/
theorem filter_direct (key : String) (assignments : List Assignment) :
    (assignments.filterMap direct?).filter (·.1 = key) =
      (values [key] assignments).map fun value => (key, value) := by
  induction assignments with
  | nil => rfl
  | cons a others inductionHypothesis =>
    obtain ⟨path, value⟩ := a
    simp only [values] at inductionHypothesis ⊢
    match path with
    | [] =>
      rw [List.filterMap_cons_none rfl, inductionHypothesis]
      rfl
    | [last] =>
      have here : direct? ⟨[last], value⟩ = some (last, value) := rfl
      rw [List.filterMap_cons_some here, List.filter_cons, List.filter_cons]
      by_cases same : last = key
      · simp [same, inductionHypothesis]
      · simp [same, inductionHypothesis]
    | head :: next :: rest =>
      rw [List.filterMap_cons_none rfl, inductionHypothesis, List.filter_cons_of_neg (by simp)]

end Assignment

namespace Visit

open Screen

/-! ## The visit of a list of assignments -/

/-- The visits of a list grow by one assignment after the other. -/
theorem ofAssignments_concat (assignments : List Assignment) (a : Assignment) :
    ofAssignments (assignments ++ [a]) = (ofAssignments assignments).insert a.value a.path := by
  rw [ofAssignments, List.foldl_append]
  rfl

/-- An assignment to a row of the form itself is committed last. -/
theorem commits_insert (visit : Visit) (a : Assignment) :
    (visit.insert a.value a.path).commits = visit.commits ++ a.direct?.toList := by
  obtain ⟨commits, children⟩ := visit
  obtain ⟨path, value⟩ := a
  match path with
  | [] => simp [insert, Assignment.direct?]
  | [key] => rfl
  | head :: next :: rest => simp [insert, Assignment.direct?, Visit.commits]

/-- Changing one nested visit changes what is visited under its key only. -/
theorem lookup_updateChild (change : Visit → Visit) (head key : String) (children : List (String × Visit)) :
    (updateChild head change children).lookup key =
      if key = head then some (change ((children.lookup key).getD empty)) else children.lookup key := by
  induction children with
  | nil =>
    by_cases same : key = head
    · simp [updateChild, same]
    · simp [updateChild, same, List.lookup_cons, beq_eq_false_iff_ne.mpr same]
  | cons entry rest inductionHypothesis =>
    obtain ⟨present, child⟩ := entry
    by_cases here : present = head
    · subst here
      by_cases same : key = present
      · simp [updateChild, same]
      · simp [updateChild, same, List.lookup_cons, beq_eq_false_iff_ne.mpr same]
    · by_cases same : key = present
      · subst same
        simp [updateChild, here]
      · simp [updateChild, here, List.lookup_cons, beq_eq_false_iff_ne.mpr same, inductionHypothesis]

/-- Changing a nested visit adds its key if it is new. -/
theorem mem_keys_updateChild (change : Visit → Visit) (head key : String) (children : List (String × Visit)) :
    key ∈ (updateChild head change children).map Prod.fst ↔ key = head ∨ key ∈ children.map Prod.fst := by
  induction children with
  | nil => simp [updateChild]
  | cons entry rest inductionHypothesis =>
    obtain ⟨present, child⟩ := entry
    by_cases here : present = head
    · simp [updateChild, here]
    · simp only [updateChild, here, if_false, List.map_cons, List.mem_cons, inductionHypothesis]
      exact or_left_comm

/-- No key is added twice. -/
theorem nodup_updateChild (change : Visit → Visit) (head : String) {children : List (String × Visit)}
    (distinct : (children.map Prod.fst).Nodup) :
    ((updateChild head change children).map Prod.fst).Nodup := by
  induction children with
  | nil => simp [updateChild]
  | cons entry rest inductionHypothesis =>
    obtain ⟨present, child⟩ := entry
    obtain ⟨fresh, others⟩ := List.nodup_cons.mp distinct
    by_cases here : present = head
    · simpa [updateChild, here] using distinct
    · rw [updateChild, if_neg here, List.map_cons, List.nodup_cons, mem_keys_updateChild]
      refine ⟨?_, inductionHypothesis others⟩
      rintro (same | again)
      · exact here same
      · exact fresh again

/-- A nested form is visited as before, unless the assignment leads there. -/
theorem lookup_children_insert (visit : Visit) (a : Assignment) (key : String) :
    (visit.insert a.value a.path).children.lookup key = match a.below? key with
      | some inner => some (((visit.children.lookup key).getD empty).insert inner.value inner.path)
      | none => visit.children.lookup key := by
  obtain ⟨commits, children⟩ := visit
  obtain ⟨path, value⟩ := a
  match path with
  | [] => rfl
  | [last] => rfl
  | head :: next :: rest =>
    simp only [insert, Visit.children, Assignment.below?, lookup_updateChild]
    by_cases same : key = head
    · simp [same]
    · simp [same, Ne.symm same]

/-- No nested form is visited twice, however many assignments are added. -/
theorem nodup_children_insert {visit : Visit} (distinct : (visit.children.map Prod.fst).Nodup)
    (value : Value) (path : List String) :
    ((visit.insert value path).children.map Prod.fst).Nodup := by
  obtain ⟨commits, children⟩ := visit
  match path with
  | [] => exact distinct
  | [last] => exact distinct
  | head :: next :: rest => exact nodup_updateChild _ head distinct

/-- The visit of assignments: what they assign in the form itself is committed in order, and each nested form
is visited once, for the assignments that lead there. -/
theorem ofAssignments_cases (assignments : List Assignment) :
    (ofAssignments assignments).commits = assignments.filterMap Assignment.direct? ∧
      ((ofAssignments assignments).children.map Prod.fst).Nodup ∧
      ∀ key, (ofAssignments assignments).children.lookup key =
        if Assignment.below key assignments = [] then none
        else some (ofAssignments (Assignment.below key assignments)) := by
  induction assignments using List.reverseRecOn with
  | nil => exact ⟨rfl, .nil, fun key => rfl⟩
  | append_singleton before a inductionHypothesis =>
    obtain ⟨commits, distinct, lookup⟩ := inductionHypothesis
    rw [ofAssignments_concat]
    refine ⟨?_, nodup_children_insert distinct a.value a.path, ?_⟩
    · rw [commits_insert, commits, List.filterMap_append]
      cases found : a.direct? <;> simp [found]
    · intro key
      rw [lookup_children_insert, lookup, Assignment.below_concat]
      cases a.below? key with
      | none => simp
      | some inner =>
        have added : ofAssignments (Assignment.below key before ++ [inner]) =
            (ofAssignments (Assignment.below key before)).insert inner.value inner.path :=
          ofAssignments_concat _ inner
        by_cases blank : Assignment.below key before = []
        · simp [blank, ofAssignments]
        · simp [blank, added]

/-! ## The effect of a visit -/

/-- What a visit does, step by step. -/
def steps (config : Config) (visit : Visit) : List (String × Effect) :=
  (visit.commits.map fun (key, raw) => (key, write config.lenientStrings key raw)) ++
    childEffects config visit.children

/-- The effect of a visit is that of its steps. -/
theorem effect_eq (config : Config) (visit : Visit) : visit.effect config = runAll (visit.steps config) := by
  cases visit
  rw [effect]
  rfl

/-- The effect of a nested visit descends into the form of its key. -/
theorem mem_childEffects {config : Config} {children : List (String × Visit)} {step : String × Effect}
    (member : step ∈ childEffects config children) :
    ∃ child : Visit, step.2 = descend config.maxNesting step.1 (child.effect config) := by
  induction children with
  | nil => cases member
  | cons entry rest inductionHypothesis =>
    rcases List.mem_cons.mp member with rfl | later
    · exact ⟨entry.2, rfl⟩
    · exact inductionHypothesis later

/-- Each step of a visit is an effect at its key. -/
theorem keyed_steps (config : Config) (visit : Visit) : Keyed (visit.steps config) := by
  intro step member
  rcases List.mem_append.mp member with committed | visited
  · obtain ⟨⟨key, raw⟩, -, rfl⟩ := List.mem_map.mp committed
    exact atKey_write config.lenientStrings key raw
  · obtain ⟨child, same⟩ := mem_childEffects visited
    rw [same]
    exact atKey_descend config.maxNesting step.1 _

/-- With distinct keys, a visit descends once into the form of a key that it visits. -/
theorem filter_childEffects (config : Config) (key : String) {children : List (String × Visit)}
    (distinct : (children.map Prod.fst).Nodup) :
    (childEffects config children).filter (·.1 = key) = (children.lookup key).toList.map fun child =>
      (key, descend config.maxNesting key (child.effect config)) := by
  induction children with
  | nil => rfl
  | cons entry rest inductionHypothesis =>
    obtain ⟨present, child⟩ := entry
    obtain ⟨fresh, others⟩ := List.nodup_cons.mp distinct
    by_cases here : present = key
    · subst here
      have absent : rest.lookup present = none := by
        rw [List.lookup_eq_none_iff]
        rintro ⟨other, visit⟩ listed
        simp only [bne_iff_ne, ne_eq]
        rintro rfl
        exact fresh (List.mem_map.mpr ⟨_, listed, rfl⟩)
      simp [childEffects, inductionHypothesis others, absent]
    · simp [childEffects, here, inductionHypothesis others, List.lookup_cons,
        beq_eq_false_iff_ne.mpr (Ne.symm here)]

/-- What assignments do at a key: they commit the values assigned to it in order, and then visit the nested
form if any of them leads there. -/
theorem filter_steps (config : Config) (key : String) (assignments : List Assignment) :
    ((ofAssignments assignments).steps config).filter (·.1 = key) =
      ((Assignment.values [key] assignments).map fun raw => (key, write config.lenientStrings key raw)) ++
        if Assignment.below key assignments = [] then [] else
          [(key, descend config.maxNesting key
            ((ofAssignments (Assignment.below key assignments)).effect config))] := by
  obtain ⟨commits, distinct, lookup⟩ := ofAssignments_cases assignments
  rw [steps, List.filter_append, filter_childEffects config key distinct, lookup, commits]
  congr 1
  · rw [List.filter_map]
    have sameKey : ((fun step : String × Effect => decide (step.1 = key)) ∘
        fun commit : String × Value => (commit.1, write config.lenientStrings commit.1 commit.2)) =
          fun commit => decide (commit.1 = key) := rfl
    rw [sameKey, Assignment.filter_direct, List.map_map]
    rfl
  · split <;> rfl

/-- Assignments of the same values to each path, in the same order for each, have the same effect. -/
theorem effect_reordered (config : Config) {assignments others : List Assignment}
    (same : ∀ path, Assignment.values path assignments = Assignment.values path others) :
    (ofAssignments assignments).effect config = (ofAssignments others).effect config := by
  obtain ⟨depth, bounded⟩ := Assignment.exists_depth assignments
  induction depth generalizing assignments others with
  | zero =>
    obtain rfl : assignments = [] := by
      rw [List.eq_nil_iff_forall_not_mem]
      intro a listed
      exact absurd (bounded a listed) (Nat.not_lt_zero _)
    obtain rfl : others = [] := Assignment.nil_of_values fun path => (same path).symm
    rfl
  | succ depth inductionHypothesis =>
    rw [effect_eq, effect_eq]
    refine runAll_reordered (keyed_steps config _) ?_
    intro key
    have inner : ∀ path, Assignment.values path (Assignment.below key assignments) =
        Assignment.values path (Assignment.below key others) := by
      intro path
      rw [Assignment.values_below, Assignment.values_below, same]
    have shorter : ∀ a ∈ Assignment.below key assignments, a.path.length < depth := by
      intro a listed
      have longer := bounded _ (Assignment.mem_below.mp listed).2
      simpa using longer
    have nested := inductionHypothesis inner shorter
    have blank : Assignment.below key assignments = [] ↔ Assignment.below key others = [] := by
      constructor
      · intro none
        exact Assignment.nil_of_values fun path => by rw [← inner, none]; rfl
      · intro none
        exact Assignment.nil_of_values fun path => by rw [inner, none]; rfl
    rw [filter_steps, filter_steps, same, nested]
    simp only [blank]

end Visit

end SettingsForm
