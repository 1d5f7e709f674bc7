import SettingsForm.Proofs.Schema.Entries
import SettingsForm.Proofs.Script.Grouping

/-!
# Grouping loses and invents nothing

A visit stands for the assignments that it carries out: those that it commits in the form, and then those of
each nested form, whose paths start with the merge key of that form (`Visit.flatten`). The visit of a list of
assignments stands for just these assignments. They are carried out in another order, but those to one path
in the order in which they were given (`Visit.ofAssignments_lossless`).

Whatever the visit does to a path, it does for the values assigned to that path (`Visit.values_flatten`), so
the two lists are compared path by path. A nested form of the visit is the visit of the assignments below its
key, and what holds of a visit is carried over to the visits nested in it along the trail that leads there.
-/

namespace SettingsForm

namespace Assignment

/-- An assignment in a nested form as one in the form around it. -/
def within (key : String) (a : Assignment) : Assignment := ⟨key :: a.path, a.value⟩

/-- The merge key with which a path leads on, from the form at the end of a trail into one nested in it. -/
def turn? (trail : List String) (a : Assignment) : Option String :=
  if trail <+: a.path then
    match a.path.drop trail.length with
    | key :: _ :: _ => some key
    | _ => none
  else none

/-- A path turns to a key after a trail if it follows the trail, takes the key and goes on. -/
theorem turn?_eq_some_iff {trail : List String} {a : Assignment} {key : String} :
    a.turn? trail = some key ↔ ∃ rest, rest ≠ [] ∧ a.path = trail ++ key :: rest := by
  constructor
  · intro turned
    obtain ⟨⟨rest, leads⟩, goes⟩ := Option.ite_none_right_eq_some.mp turned
    rw [← leads, List.drop_left] at goes
    match rest with
    | [] => cases goes
    | [last] => cases goes
    | head :: next :: others =>
      obtain rfl := Option.some.inj goes
      exact ⟨next :: others, List.cons_ne_nil next others, leads.symm⟩
  · rintro ⟨rest, named, leads⟩
    obtain ⟨next, others, rfl⟩ := List.exists_cons_of_ne_nil named
    rw [turn?, leads, if_pos (List.prefix_append trail _), List.drop_left]

/-- A path leads on from a nested form as the rest of it does. -/
theorem turn?_cons (key : String) (trail : List String) (a : Assignment) :
    a.turn? (key :: trail) = (a.below? key).bind (turn? trail) := by
  ext next
  rw [turn?_eq_some_iff, Option.bind_eq_some_iff]
  constructor
  · rintro ⟨rest, named, leads⟩
    refine ⟨⟨trail ++ next :: rest, a.value⟩, below?_eq_some_iff.mpr ⟨by simp, ?_⟩, ?_⟩
    · cases a
      exact congrArg (mk · _) leads
    · exact turn?_eq_some_iff.mpr ⟨rest, named, rfl⟩
  · rintro ⟨inner, found, turned⟩
    obtain ⟨-, rfl⟩ := below?_eq_some_iff.mp found
    obtain ⟨rest, named, leads⟩ := turn?_eq_some_iff.mp turned
    exact ⟨rest, named, congrArg (key :: ·) leads⟩

/-- Values assigned by a list of assignments and then by another. -/
theorem values_append (path : List String) (first second : List Assignment) :
    values path (first ++ second) = values path first ++ values path second := by
  rw [values, List.filter_append, List.map_append]
  rfl

/-- Within a nested form, nothing is assigned to the empty path. -/
theorem values_within_nil (key : String) (assignments : List Assignment) :
    values [] (assignments.map (within key)) = [] := by
  simp [values, within]

/-- Within a nested form, a path is assigned what its rest was assigned, if it leads into the form. -/
theorem values_within_cons (key head : String) (rest : List String) (assignments : List Assignment) :
    values (head :: rest) (assignments.map (within key)) =
      if head = key then values rest assignments else [] := by
  by_cases same : head = key
  · simp [values, within, List.filter_map, Function.comp_def, same]
  · simp [values, within, List.filter_map, Function.comp_def, same, Ne.symm same]

/-- The assignments to a path are told by the values assigned to it. -/
theorem filter_eq_values (path : List String) (assignments : List Assignment) :
    assignments.filter (·.path = path) = (values path assignments).map fun value => ⟨path, value⟩ := by
  rw [values, List.map_map]
  refine (List.map_id _).symm.trans (List.map_congr_left ?_)
  rintro ⟨own, value⟩ selected
  obtain ⟨-, ends⟩ := List.mem_filter.mp selected
  obtain rfl : own = path := of_decide_eq_true ends
  rfl

/-- Lists that assign the same values to each path hold the same assignments. -/
theorem perm_of_values {assignments others : List Assignment}
    (same : ∀ path, values path assignments = values path others) : assignments.Perm others := by
  classical
  rw [List.perm_iff_count]
  intro a
  have counted (list : List Assignment) : list.count a = (list.filter (·.path = a.path)).count a := by
    rw [List.count_filter (by simp)]
  rw [counted assignments, counted others, filter_eq_values, filter_eq_values, same]

end Assignment

namespace Visit

mutual

/-- The assignments that a visit carries out, in order: those of the form itself before those of its nested
forms. -/
def flatten : Visit → List Assignment
  | mk commits children =>
    (commits.map fun commit => ⟨[commit.1], commit.2⟩) ++ flattenChildren children

/-- The assignments that nested visits carry out, under their keys. -/
def flattenChildren : List (String × Visit) → List Assignment
  | [] => []
  | (key, child) :: rest => child.flatten.map (Assignment.within key) ++ flattenChildren rest

end

/-- A trail of merge keys leads from a visit to one that is nested in it. -/
inductive Leads : List String → Visit → Visit → Prop
  | here (visit : Visit) : Leads [] visit visit
  | into {visit child node : Visit} {key : String} {trail : List String}
      (listed : (key, child) ∈ visit.children) (further : Leads trail child node) :
      Leads (key :: trail) visit node

/-! ## What is carried out for each path -/

/-- Nested visits assign nothing to the empty path. -/
theorem values_nil_flattenChildren (children : List (String × Visit)) :
    Assignment.values [] (flattenChildren children) = [] := by
  induction children with
  | nil => rfl
  | cons entry rest inductionHypothesis =>
    rw [flattenChildren, Assignment.values_append, Assignment.values_within_nil, inductionHypothesis,
      List.append_nil]

/-- For a path below a merge key, the nested form with that key carries out what it does for the rest. -/
theorem values_cons_flattenChildren {children : List (String × Visit)}
    (distinct : (children.map Prod.fst).Nodup) (head : String) (rest : List String) :
    Assignment.values (head :: rest) (flattenChildren children) =
      (children.lookup head).elim [] fun child => Assignment.values rest child.flatten := by
  induction children with
  | nil => rfl
  | cons entry others inductionHypothesis =>
    obtain ⟨key, child⟩ := entry
    obtain ⟨fresh, distinct⟩ := List.nodup_cons.mp distinct
    rw [flattenChildren, Assignment.values_append, Assignment.values_within_cons,
      inductionHypothesis distinct]
    by_cases same : head = key
    · subst same
      simp [lookup_eq_none_iff_keys.mpr fresh]
    · simp [same, List.lookup_cons, beq_eq_false_iff_ne.mpr same]

/-- No path is empty. -/
theorem values_nil_flatten (visit : Visit) : Assignment.values [] visit.flatten = [] := by
  obtain ⟨commits, children⟩ := visit
  rw [flatten, Assignment.values_append, values_nil_flattenChildren, List.append_nil]
  simp [Assignment.values, List.filter_map, Function.comp_def]

/-- A path is assigned the values committed to it, if it ends in the form itself, and those assigned by the
nested visit that it leads into. -/
theorem values_cons_flatten {visit : Visit} (distinct : (visit.children.map Prod.fst).Nodup) (head : String)
    (rest : List String) :
    Assignment.values (head :: rest) visit.flatten =
      (if rest = [] then (visit.commits.filter (·.1 = head)).map Prod.snd else []) ++
        (visit.children.lookup head).elim [] fun child => Assignment.values rest child.flatten := by
  obtain ⟨commits, children⟩ := visit
  rw [flatten, Assignment.values_append]
  congr 1
  · by_cases ends : rest = []
    · simp [Assignment.values, List.filter_map, Function.comp_def, ends, Visit.commits]
    · simp [Assignment.values, List.filter_map, Function.comp_def, ends, Ne.symm ends]
  · exact values_cons_flattenChildren distinct head rest

/-- The visit of assignments carries out for each path what is assigned to it, in order. -/
theorem values_flatten (path : List String) (assignments : List Assignment) :
    Assignment.values path (ofAssignments assignments).flatten =
      if path = [] then [] else Assignment.values path assignments := by
  induction path generalizing assignments with
  | nil => rw [values_nil_flatten, if_pos rfl]
  | cons head rest inductionHypothesis =>
    obtain ⟨commits, distinct, lookup⟩ := ofAssignments_cases assignments
    have nested : ((ofAssignments assignments).children.lookup head).elim []
        (fun child => Assignment.values rest child.flatten) =
          Assignment.values rest (ofAssignments (Assignment.below head assignments)).flatten := by
      rw [lookup]
      split
      · rename_i none
        rw [none]
        rfl
      · rfl
    rw [values_cons_flatten distinct, nested, inductionHypothesis, commits, Assignment.filter_direct,
      List.map_map, Assignment.values_below, if_neg (List.cons_ne_nil head rest)]
    by_cases ends : rest = []
    · simp [ends, Function.comp_def]
    · simp [ends]

/-! ## The order of nested forms -/

/-- Changing a nested visit appends its key if it is new. -/
theorem keys_updateChild (change : Visit → Visit) (head : String) (children : List (String × Visit)) :
    (updateChild head change children).map Prod.fst =
      if head ∈ children.map Prod.fst then children.map Prod.fst else children.map Prod.fst ++ [head] := by
  induction children with
  | nil => rfl
  | cons entry rest inductionHypothesis =>
    obtain ⟨key, child⟩ := entry
    by_cases here : key = head
    · simp [updateChild, here]
    · simp only [updateChild, here, if_false, List.map_cons, inductionHypothesis, List.mem_cons,
        Ne.symm here, false_or]
      split <;> rfl

/-- A nested form is added for the first assignment that leads there. -/
theorem keys_insert (visit : Visit) (a : Assignment) :
    (visit.insert a.value a.path).children.map Prod.fst =
      let keys := visit.children.map Prod.fst
      match a.turn? [] with
      | some key => if key ∈ keys then keys else keys ++ [key]
      | none => keys := by
  obtain ⟨commits, children⟩ := visit
  obtain ⟨path, value⟩ := a
  match path with
  | [] => rfl
  | [last] => rfl
  | head :: next :: rest => exact keys_updateChild (insert value (next :: rest)) head children

/-- To remove duplicates after adding a key is to add the key unless it is there. -/
theorem eraseDups_concat (keys : List String) (key : String) :
    (keys ++ [key]).eraseDups =
      if key ∈ keys.eraseDups then keys.eraseDups else keys.eraseDups ++ [key] := by
  rw [List.eraseDups_append]
  by_cases present : key ∈ keys
  · simp [List.removeAll, present]
  · simp [List.removeAll, present, List.eraseDups_cons]

/-- The nested forms are visited in the order in which the assignments first lead there. -/
theorem keys_ofAssignments (assignments : List Assignment) :
    (ofAssignments assignments).children.map Prod.fst =
      (assignments.filterMap (Assignment.turn? [])).eraseDups := by
  induction assignments using List.reverseRecOn with
  | nil => rfl
  | append_singleton before a inductionHypothesis =>
    rw [ofAssignments_concat, keys_insert, inductionHypothesis, List.filterMap_append]
    cases turned : a.turn? [] with
    | none => simp [turned]
    | some key =>
      rw [List.filterMap_cons_some turned, List.filterMap_nil, eraseDups_concat]

/-- What is visited below a key, and that something is assigned there. -/
theorem child_of_mem {assignments : List Assignment} {key : String} {child : Visit}
    (listed : (key, child) ∈ (ofAssignments assignments).children) :
    Assignment.below key assignments ≠ [] ∧ child = ofAssignments (Assignment.below key assignments) := by
  obtain ⟨-, distinct, lookup⟩ := ofAssignments_cases assignments
  have found := lookup_of_mem distinct listed
  rw [lookup] at found
  obtain ⟨named, same⟩ := Option.ite_none_left_eq_some.mp found
  exact ⟨named, (Option.some.inj same).symm⟩

/-- The visit of assignments that lead somewhere carries them out, in another order. -/
theorem flatten_perm {assignments : List Assignment} (named : ∀ a ∈ assignments, a.path ≠ []) :
    (ofAssignments assignments).flatten.Perm assignments := by
  refine Assignment.perm_of_values fun path => ?_
  rw [values_flatten]
  split
  · rename_i ends
    subst ends
    symm
    rw [List.eq_nil_iff_forall_not_mem]
    intro value assigned
    exact named _ (Assignment.mem_values.mp assigned) rfl
  · rfl

/-- The form at the end of a trail, in the visit of a list of assignments. -/
structure Tidy (assignments : List Assignment) (trail : List String) (node : Visit) : Prop where
  /-- No nested form is visited twice. -/
  distinct : (node.children.map Prod.fst).Nodup
  /-- The nested forms are visited in the order in which the assignments first lead there. -/
  ordered : node.children.map Prod.fst = (assignments.filterMap (Assignment.turn? trail)).eraseDups
  /-- Nothing is visited in vain. -/
  busy : ∀ entry ∈ node.children, entry.2.flatten ≠ []

/-- The root of the visit is tidy. -/
theorem tidy_root (assignments : List Assignment) : Tidy assignments [] (ofAssignments assignments) where
  distinct := (ofAssignments_cases assignments).2.1
  ordered := keys_ofAssignments assignments
  busy := by
    rintro ⟨key, child⟩ listed
    obtain ⟨assigned, rfl⟩ := child_of_mem listed
    have carriedOut : (ofAssignments (Assignment.below key assignments)).flatten.Perm _ :=
      flatten_perm fun a inner => (Assignment.mem_below.mp inner).1
    exact fun nothing => assigned (List.nil_perm.mp (nothing ▸ carriedOut))

/-- Every form that a trail leads to is tidy, by induction on the trail. -/
theorem tidy_of_leads {assignments : List Assignment} {trail : List String} {visit node : Visit}
    (leads : Leads trail visit node) (grouped : visit = ofAssignments assignments) :
    Tidy assignments trail node := by
  induction leads generalizing assignments with
  | here visit => exact grouped ▸ tidy_root assignments
  | @into visit child node key trail listed further inductionHypothesis =>
    subst grouped
    obtain ⟨-, same⟩ := child_of_mem listed
    obtain ⟨distinct, ordered, busy⟩ := inductionHypothesis same
    refine ⟨distinct, ?_, busy⟩
    rw [ordered, Assignment.below, List.filterMap_filterMap]
    exact congrArg (fun turns => (List.filterMap turns assignments).eraseDups)
      (funext fun a => (Assignment.turn?_cons key trail a).symm)

/-- The visit of assignments carries out these assignments and no others, those to one path in the order in
which they are given, and is tidy at the end of every trail. -/
theorem ofAssignments_lossless {assignments : List Assignment} (named : ∀ a ∈ assignments, a.path ≠ []) :
    (ofAssignments assignments).flatten.Perm assignments ∧
      (∀ path, (ofAssignments assignments).flatten.filter (·.path = path) =
        assignments.filter (·.path = path)) ∧
      ∀ trail node, Leads trail (ofAssignments assignments) node → Tidy assignments trail node := by
  have carriedOut := flatten_perm named
  refine ⟨carriedOut, ?_, fun trail node leads => tidy_of_leads leads rfl⟩
  intro path
  by_cases ends : path = []
  · have nowhere : ∀ a ∈ assignments, ¬decide (a.path = path) = true := by
      intro a listed reaches
      exact named a listed ((of_decide_eq_true reaches).trans ends)
    rw [List.filter_eq_nil_iff.mpr nowhere, List.filter_eq_nil_iff]
    exact fun a listed => nowhere a (carriedOut.subset listed)
  · rw [Assignment.filter_eq_values, Assignment.filter_eq_values, values_flatten, if_neg ends]

/-- Assignments to two nested forms in turns, one of them two levels deep and made twice. -/
def interleaved : List Assignment :=
  [⟨["net", "proxy", "on"], .bool true⟩, ⟨["ui", "font"], .string "mono"⟩, ⟨["user"], .string "guest"⟩,
    ⟨["net", "host"], .string "a"⟩, ⟨["net", "proxy", "on"], .bool false⟩]

/-- The form itself comes first, then each nested form once; the value assigned last comes last. -/
theorem ofAssignments_lossless_interleaved :
    (∀ a ∈ interleaved, a.path ≠ []) ∧
      [⟨["user"], .string "guest"⟩, ⟨["net", "host"], .string "a"⟩, ⟨["net", "proxy", "on"], .bool true⟩,
        ⟨["net", "proxy", "on"], .bool false⟩, ⟨["ui", "font"], .string "mono"⟩].Perm interleaved ∧
      Tidy interleaved ["net"]
        (mk [("host", .string "a")] [("proxy", mk [("on", .bool true), ("on", .bool false)] [])]) := by
  have named : ∀ a ∈ interleaved, a.path ≠ [] := by simp [interleaved]
  obtain ⟨carriedOut, -, tidy⟩ := ofAssignments_lossless named
  exact ⟨named, carriedOut, tidy ["net"] _ (.into List.mem_cons_self (.here _))⟩

end Visit

end SettingsForm
