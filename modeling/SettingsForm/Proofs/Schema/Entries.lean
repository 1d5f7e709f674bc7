import Mathlib.Data.List.Nodup
import SettingsForm.Schema.Basic

/-!
# Rows in display order

The rows of groups are listed with their positions, group after group and row after row. The list is given
by recursion on the groups, and `Schema.rows` is this list. A row stands at a position in the list just if
looking the position up finds it.

`bearing` picks the rows that bear an identifier, either those that hold values or the structural ones, and
lists them by identifier. The first one listed for an identifier is the first one in display order, which is
the order of positions (`ordered_groupsFrom`).
-/

namespace SettingsForm

/-- Rows of one group, numbered from a position on. -/
def rowsFrom (position : Position) : List Row → List (Position × Row)
  | [] => []
  | row :: rest => (position, row) :: rowsFrom ⟨position.group, position.row + 1⟩ rest

/-- The rows of groups, the first of which stands at a place. -/
def groupsFrom (place : Nat) : List Group → List (Position × Row)
  | [] => []
  | group :: rest => rowsFrom ⟨place, 0⟩ group.rows ++ groupsFrom (place + 1) rest

/-- A row stands at a position of groups. -/
def Stands (groups : List Group) (position : Position) (row : Row) : Prop :=
  ∃ group, groups[position.group]? = some group ∧ group.rows[position.row]? = some row

/-- One position comes before another in display order. -/
def Position.Before (first second : Position) : Prop :=
  first.group < second.group ∨ first.group = second.group ∧ first.row < second.row

/-- The identifiers of the rows that hold values, or of the structural ones, with their positions. -/
def bearing (persisted : Bool) (entries : List (Position × Row)) : List (String × Position) :=
  entries.filterMap fun (position, row) =>
    if row.identifier ≠ "" ∧ row.isPersisted = persisted then some (row.identifier, position) else none

/-- The rows of a group are numbered in turn. -/
theorem rowsFrom_eq (position : Position) (rows : List Row) :
    rowsFrom position rows =
      (rows.zipIdx position.row).map fun (row, r) => (⟨position.group, r⟩, row) := by
  induction rows generalizing position with
  | nil => rfl
  | cons row rest inductionHypothesis => rw [rowsFrom, inductionHypothesis, List.zipIdx_cons, List.map_cons]

/-- The groups are numbered in turn, and so are the rows in each of them. -/
theorem groupsFrom_eq (place : Nat) (groups : List Group) :
    groupsFrom place groups = (groups.zipIdx place).flatMap fun (group, g) =>
      group.rows.zipIdx.map fun (row, r) => (⟨g, r⟩, row) := by
  induction groups generalizing place with
  | nil => rfl
  | cons group rest inductionHypothesis =>
    rw [groupsFrom, inductionHypothesis, rowsFrom_eq, List.zipIdx_cons, List.flatMap_cons]

/-- The listed rows of a schema are those of its groups, from the first one on. -/
theorem Schema.rows_eq (schema : Schema) : schema.rows = groupsFrom 0 schema.groups :=
  (groupsFrom_eq 0 schema.groups).symm

/-- The rows of further groups stand after those of the first groups. -/
theorem groupsFrom_append (place : Nat) (first second : List Group) :
    groupsFrom place (first ++ second) = groupsFrom place first ++ groupsFrom (place + first.length) second := by
  induction first generalizing place with
  | nil => rfl
  | cons group rest inductionHypothesis =>
    have following : place + 1 + rest.length = place + (group :: rest).length := by
      rw [List.length_cons]
      omega
    rw [List.cons_append, groupsFrom, groupsFrom, inductionHypothesis, List.append_assoc, following]

/-- Where a row of a group is listed. -/
theorem mem_rowsFrom {position found : Position} {rows : List Row} {row : Row} :
    (found, row) ∈ rowsFrom position rows ↔
      found.group = position.group ∧ position.row ≤ found.row ∧ rows[found.row - position.row]? = some row := by
  obtain ⟨group, number⟩ := found
  simp only [rowsFrom_eq, List.mem_map, Prod.exists, Prod.mk.injEq, Position.mk.injEq,
    List.mem_zipIdx_iff_le_and_getElem?_sub]
  constructor
  · rintro ⟨_, _, ⟨least, at_⟩, ⟨rfl, rfl⟩, rfl⟩
    exact ⟨rfl, least, at_⟩
  · rintro ⟨rfl, least, at_⟩
    exact ⟨row, number, ⟨least, at_⟩, ⟨rfl, rfl⟩, rfl⟩

/-- Where a row of some groups is listed. -/
theorem mem_groupsFrom {place : Nat} {found : Position} {groups : List Group} {row : Row} :
    (found, row) ∈ groupsFrom place groups ↔ place ≤ found.group ∧
      ∃ group, groups[found.group - place]? = some group ∧ group.rows[found.row]? = some row := by
  obtain ⟨place', number⟩ := found
  simp only [groupsFrom_eq, List.mem_flatMap, List.mem_map, Prod.exists, Prod.mk.injEq, Position.mk.injEq,
    List.mem_zipIdx_iff_le_and_getElem?_sub, Nat.zero_le, true_and, Nat.sub_zero]
  constructor
  · rintro ⟨group, _, ⟨least, at_⟩, _, _, inside, ⟨rfl, rfl⟩, rfl⟩
    exact ⟨least, group, at_, inside⟩
  · rintro ⟨least, group, at_, inside⟩
    exact ⟨group, place', ⟨least, at_⟩, row, number, inside, ⟨rfl, rfl⟩, rfl⟩

/-- The rows that are listed from the first group on are those that stand somewhere. -/
theorem mem_groupsFrom_iff_stands {groups : List Group} {position : Position} {row : Row} :
    (position, row) ∈ groupsFrom 0 groups ↔ Stands groups position row := by
  simp [mem_groupsFrom, Stands]

/-- A position leads to the row that stands there. -/
theorem Schema.rowAt?_eq_some_iff {schema : Schema} {position : Position} {row : Row} :
    schema.rowAt? position = some row ↔ Stands schema.groups position row := by
  simp [rowAt?, Stands, Option.bind_eq_some_iff]

/-- A row is listed at a position just if looking the position up finds it. -/
theorem Schema.mem_rows {schema : Schema} {position : Position} {row : Row} :
    (position, row) ∈ schema.rows ↔ schema.rowAt? position = some row := by
  rw [rows_eq, mem_groupsFrom_iff_stands, rowAt?_eq_some_iff]

/-- The rows of a group are listed in display order. -/
theorem ordered_rowsFrom (position : Position) (rows : List Row) :
    (rowsFrom position rows).Pairwise fun first second => first.1.Before second.1 := by
  induction rows generalizing position with
  | nil => exact .nil
  | cons row rest inductionHypothesis =>
    refine .cons ?_ (inductionHypothesis _)
    rintro ⟨later, other⟩ listed
    obtain ⟨same, least, -⟩ := mem_rowsFrom.mp listed
    exact Or.inr ⟨same.symm, least⟩

/-- The rows of all groups are listed in display order. -/
theorem ordered_groupsFrom (place : Nat) (groups : List Group) :
    (groupsFrom place groups).Pairwise fun first second => first.1.Before second.1 := by
  induction groups generalizing place with
  | nil => exact .nil
  | cons group rest inductionHypothesis =>
    refine List.pairwise_append.mpr ⟨ordered_rowsFrom _ _, inductionHypothesis _, ?_⟩
    rintro ⟨earlier, row⟩ here ⟨later, other⟩ below
    have inside : earlier.group = place := (mem_rowsFrom.mp here).1
    have beyond : place + 1 ≤ later.group := (mem_groupsFrom.mp below).1
    have earlierGroup : earlier.group < later.group := by omega
    exact Or.inl earlierGroup

/-- A position does not come before itself. -/
theorem Position.Before.ne {first second : Position} (order : first.Before second) : first ≠ second := by
  rintro rfl
  rcases order with before | ⟨-, before⟩ <;> exact Nat.lt_irrefl _ before

/-- Each row of a schema has a position of its own. -/
theorem Schema.nodup_positions (schema : Schema) : (schema.rows.map Prod.fst).Nodup := by
  rw [rows_eq]
  exact List.pairwise_map.mpr ((ordered_groupsFrom 0 schema.groups).imp Position.Before.ne)

/-- An entry says that a row of the wanted kind stands there and bears the identifier, which is not empty. -/
theorem mem_bearing {persisted : Bool} {entries : List (Position × Row)} {identifier : String}
    {position : Position} :
    (identifier, position) ∈ bearing persisted entries ↔ identifier ≠ "" ∧
      ∃ row, (position, row) ∈ entries ∧ row.identifier = identifier ∧ row.isPersisted = persisted := by
  simp only [bearing, List.mem_filterMap, Prod.exists, Option.ite_none_right_eq_some, Option.some.injEq,
    Prod.mk.injEq]
  constructor
  · rintro ⟨_, row, listed, ⟨nonempty, kind⟩, rfl, rfl⟩
    exact ⟨nonempty, row, listed, rfl, kind⟩
  · rintro ⟨nonempty, row, listed, rfl, kind⟩
    exact ⟨position, row, listed, ⟨nonempty, kind⟩, rfl, rfl⟩

/-- The entries of a list of rows are those of its parts. -/
theorem bearing_append (persisted : Bool) (first second : List (Position × Row)) :
    bearing persisted (first ++ second) = bearing persisted first ++ bearing persisted second :=
  List.filterMap_append

/-! ## Looking identifiers up -/

section Lookup

variable {α : Type} {entries others : List (String × α)} {identifier : String}

/-- Nothing is found just under the identifiers that are not listed. -/
theorem lookup_eq_none_iff_keys : entries.lookup identifier = none ↔ identifier ∉ entries.map Prod.fst := by
  rw [List.lookup_eq_none_iff]
  simp only [bne_iff_ne, ne_eq, List.mem_map, not_exists, not_and]
  exact ⟨fun absent entry listed same => absent entry listed same.symm,
    fun absent entry listed same => absent entry listed same.symm⟩

/-- What is looked up is listed. -/
theorem mem_of_lookup {value : α} (found : entries.lookup identifier = some value) :
    (identifier, value) ∈ entries := by
  obtain ⟨before, after, rfl, -⟩ := List.lookup_eq_some_iff.mp found
  exact List.mem_append_right before List.mem_cons_self

/-- What is listed under an identifier that occurs once is what is looked up. -/
theorem lookup_of_mem (unique : (entries.map Prod.fst).Nodup) {value : α}
    (listed : (identifier, value) ∈ entries) : entries.lookup identifier = some value := by
  cases found : entries.lookup identifier with
  | none => exact absurd (List.mem_map_of_mem listed) (lookup_eq_none_iff_keys.mp found)
  | some other =>
    have same := List.inj_on_of_nodup_map unique (mem_of_lookup found) listed rfl
    rw [(Prod.mk.inj same).2]

/-- The order of entries plays no part when identifiers occur once. -/
theorem lookup_of_perm (unique : (entries.map Prod.fst).Nodup) (reordered : entries.Perm others) :
    entries.lookup identifier = others.lookup identifier := by
  have alsoUnique : (others.map Prod.fst).Nodup := (reordered.map Prod.fst).nodup_iff.mp unique
  cases found : others.lookup identifier with
  | none =>
    rw [lookup_eq_none_iff_keys] at found ⊢
    exact fun listed => found ((reordered.map Prod.fst).subset listed)
  | some value => exact lookup_of_mem unique (reordered.symm.subset (mem_of_lookup found))

end Lookup

end SettingsForm
