import SettingsForm.Proofs.Schema.Acceptance
import SettingsForm.Proofs.Schema.Build

/-!
# Schemas under updates

A host may put other rows into a group or replace all groups, any number of times. Replacing rows indexes
only the new rows again, so the index of a schema depends on its history. What never depends on it is kept
by every update (`Schema.Consistent`): the groups are valid, the index of their keys is that of the groups as
they are now, the index of rows holds exactly those that hold values, and every structural entry of it stands
for a structural row that is there.

From this follows what look-ups may be relied on for (`Schema.Dependable`), and that replacing rows is
refused just when building the changed groups from scratch is.
-/

namespace SettingsForm

namespace Schema

/-- What a host may want done with a schema. -/
inductive Update where
  /-- Put other rows into the group with a key. -/
  | rows (key : String) (rows : List Row)
  /-- Put other groups in place of all groups. -/
  | groups (groups : List Group)

/-- The updated schema, or why the update is refused. -/
def update? (schema : Schema) : Update → Except SchemaError Schema
  | .rows key rows => schema.replaceRows key rows
  | .groups groups => schema.replaceGroups groups

/-- The schema after an update, which keeps it when it is refused. -/
def updated (schema : Schema) (update : Update) : Schema :=
  match schema.update? update with
  | .ok after => after
  | .error _ => schema

/-- The schema after updates, some of which may be refused. -/
def updates (schema : Schema) (updates : List Update) : Schema := updates.foldl updated schema

/-! ## The group whose rows are replaced -/

/-- The rows before, in and after one group. -/
theorem groupsFrom_split (before after : List Group) (group : Group) :
    groupsFrom 0 (before ++ group :: after) = groupsFrom 0 before ++
      (rowsFrom ⟨before.length, 0⟩ group.rows ++ groupsFrom (before.length + 1) after) := by
  rw [groupsFrom_append, groupsFrom, Nat.zero_add]

/-- Forgetting a group forgets exactly its own rows. -/
theorem bearing_without {persisted : Bool} (before after : List Group) (rows : List Row) :
    (bearing persisted (groupsFrom 0 before ++
        (rowsFrom ⟨before.length, 0⟩ rows ++ groupsFrom (before.length + 1) after))).filter
          (fun entry => entry.2.group ≠ before.length) =
      bearing persisted (groupsFrom 0 before) ++
        bearing persisted (groupsFrom (before.length + 1) after) := by
  have earlier : (bearing persisted (groupsFrom 0 before)).filter
      (fun entry => entry.2.group ≠ before.length) = bearing persisted (groupsFrom 0 before) := by
    rw [List.filter_eq_self]
    rintro ⟨identifier, position⟩ listed
    obtain ⟨-, row, member, -⟩ := mem_bearing.mp listed
    obtain ⟨-, group, found, -⟩ := mem_groupsFrom.mp member
    have inside : position.group - 0 < before.length := (List.getElem?_eq_some_iff.mp found).1
    simp only [ne_eq, decide_eq_true_eq]
    omega
  have own : (bearing persisted (rowsFrom ⟨before.length, 0⟩ rows)).filter
      (fun entry => entry.2.group ≠ before.length) = [] := by
    rw [List.filter_eq_nil_iff]
    rintro ⟨identifier, position⟩ listed
    obtain ⟨-, row, member, -⟩ := mem_bearing.mp listed
    simp [(mem_rowsFrom.mp member).1]
  have later : (bearing persisted (groupsFrom (before.length + 1) after)).filter
      (fun entry => entry.2.group ≠ before.length) =
        bearing persisted (groupsFrom (before.length + 1) after) := by
    rw [List.filter_eq_self]
    rintro ⟨identifier, position⟩ listed
    obtain ⟨-, row, member, -⟩ := mem_bearing.mp listed
    have beyond := (mem_groupsFrom.mp member).1
    simp only [ne_eq, decide_eq_true_eq]
    omega
  rw [bearing_append, bearing_append, List.filter_append, List.filter_append, earlier, own, later,
    List.nil_append]

/-- Identifiers are distinct throughout just if those of one group are, those of all other groups are, and
the two do not meet. -/
theorem distinct_split {before own after : List (Position × Row)} :
    ((bearing true (before ++ (own ++ after))).map Prod.fst).Nodup ↔
      ((bearing true own).map Prod.fst).Nodup ∧
        ((bearing true before ++ bearing true after).map Prod.fst).Nodup ∧
        ∀ identifier ∈ (bearing true own).map Prod.fst,
          identifier ∉ (bearing true before ++ bearing true after).map Prod.fst := by
  have moved := List.perm_append_comm_assoc (bearing true before) (bearing true own) (bearing true after)
  have reordered := moved.map Prod.fst
  rw [bearing_append, bearing_append, reordered.nodup_iff, List.map_append, List.nodup_append]
  constructor
  · rintro ⟨own, others, apart⟩
    exact ⟨own, others, fun identifier mine theirs => apart identifier mine identifier theirs rfl⟩
  · rintro ⟨own, others, apart⟩
    refine ⟨own, others, ?_⟩
    rintro identifier mine _ theirs rfl
    exact apart identifier mine theirs

/-- Other rows make a valid form just if they are sound and bear identifiers of their own. -/
theorem valid_replaced_iff {level : Nat} {before after : List Group} {group : Group}
    (valid : Valid level (before ++ group :: after)) (rows : List Row) :
    Valid level (before ++ { group with rows } :: after) ↔
      (∀ entry ∈ rowsFrom ⟨before.length, 0⟩ rows, entry.2.Sound level) ∧
      ((bearing true (rowsFrom ⟨before.length, 0⟩ rows)).map Prod.fst).Nodup ∧
      ∀ identifier ∈ (bearing true (rowsFrom ⟨before.length, 0⟩ rows)).map Prod.fst,
        identifier ∉ (bearing true (groupsFrom 0 before) ++
          bearing true (groupsFrom (before.length + 1) after)).map Prod.fst := by
  have keys : (before ++ { group with rows } :: after).filterMap (·.key) =
      (before ++ group :: after).filterMap (·.key) := by
    simp [List.filterMap_append, List.filterMap_cons]
  have sound := valid.sound
  have distinct := valid.distinct
  rw [groupsFrom_split] at sound distinct
  constructor
  · intro replaced
    have allSound := replaced.sound
    have allDistinct := replaced.distinct
    rw [groupsFrom_split] at allSound allDistinct
    obtain ⟨own, -, apart⟩ := distinct_split.mp allDistinct
    refine ⟨?_, own, apart⟩
    exact fun entry mine => allSound entry (List.mem_append_right _ (List.mem_append_left _ mine))
  · rintro ⟨ownSound, own, apart⟩
    refine ⟨keys ▸ valid.keys, ?_, ?_⟩
    · rw [groupsFrom_split]
      intro entry listed
      rcases List.mem_append.mp listed with earlier | listed
      · exact sound entry (List.mem_append_left _ earlier)
      · rcases List.mem_append.mp listed with mine | later
        · exact ownSound entry mine
        · exact sound entry (List.mem_append_right _ (List.mem_append_right _ later))
    · rw [groupsFrom_split]
      exact distinct_split.mpr ⟨own, (distinct_split.mp distinct).2.1, apart⟩

/-! ## What updates keep -/

/-- What holds of a schema whatever its history. -/
structure Consistent (schema : Schema) : Prop where
  /-- The groups would be accepted as they are now. -/
  valid : Valid schema.level schema.groups
  /-- The keys are indexed as those of the groups, though they were indexed when the groups had other rows. -/
  keys : schema.groupKeys = (keysFrom 0 schema.groups).reverse
  /-- The index holds exactly the rows that hold values. -/
  values : schema.index.values.Perm (bearing true schema.rows)
  /-- A structural entry of the index stands for a structural row. -/
  structural : ∀ entry ∈ schema.index.structural, entry ∈ bearing false schema.rows
  /-- The index holds one structural entry for an identifier. -/
  once : (schema.index.structural.map Prod.fst).Nodup

/-- A schema that is indexed from scratch has the indexes of its groups. -/
theorem consistent_indexed {level : Nat} {groups : List Group} (valid : Valid level groups) :
    (indexed level groups).Consistent where
  valid := valid
  keys := rfl
  values := by
    rw [rows_eq]
    simp [indexed, Index.extended, Index.empty]
  structural := by
    intro entry noted
    rw [rows_eq]
    rcases Index.mem_noted noted with known | listed
    · simp [Index.empty] at known
    · exact listed
  once := Index.nodup_noted _ List.nodup_nil

/-- Whatever is built is indexed from scratch. -/
theorem consistent_of_build {groups : List Group} {level : Nat} {schema : Schema}
    (built : build groups level = .ok schema) : schema.Consistent := by
  obtain ⟨valid, rfl⟩ := build_ok_iff.mp built
  exact consistent_indexed valid

/-- The rows that hold values bear distinct identifiers. -/
theorem Consistent.distinct {schema : Schema} (consistent : schema.Consistent) :
    ((bearing true schema.rows).map Prod.fst).Nodup := by
  rw [rows_eq]
  exact consistent.valid.distinct

/-- A key is found at the place of the group that has it. -/
theorem Consistent.groupIndex?_eq_some_iff {schema : Schema} (consistent : schema.Consistent) {key : String}
    {g : Nat} :
    schema.groupIndex? key = some g ↔ ∃ group, schema.groups[g]? = some group ∧ group.key = some key := by
  have unique : (((keysFrom 0 schema.groups).reverse).map Prod.fst).Nodup := by
    rw [List.map_reverse, List.nodup_reverse, keysFrom_keys]
    exact consistent.valid.keys
  have listed : (key, g) ∈ (keysFrom 0 schema.groups).reverse ↔
      ∃ group, schema.groups[g]? = some group ∧ group.key = some key := by
    simp [mem_keysFrom]
  rw [groupIndex?, consistent.keys, ← listed]
  exact ⟨mem_of_lookup, lookup_of_mem unique⟩

/-- The group with a key stands among the others, and replacing its rows leaves those. -/
theorem Consistent.split {schema : Schema} (consistent : schema.Consistent) {key : String} {g : Nat}
    (place : schema.groupIndex? key = some g) :
    ∃ before group after, schema.groups = before ++ group :: after ∧ before.length = g ∧
      ∀ rows, (schema.groups.modify g fun group => { group with rows }) =
        before ++ { group with rows } :: after := by
  obtain ⟨group, at_, -⟩ := consistent.groupIndex?_eq_some_iff.mp place
  obtain ⟨inside, -⟩ := List.getElem?_eq_some_iff.mp at_
  refine ⟨schema.groups.take g, schema.groups[g], schema.groups.drop (g + 1), ?_, ?_, ?_⟩
  · exact (List.take_append_drop g schema.groups).symm.trans (by rw [List.drop_eq_getElem_cons inside])
  · exact List.length_take_of_le (Nat.le_of_lt inside)
  · intro rows
    exact List.modify_eq_take_cons_drop inside

/-- Without a group's rows, the index holds the rows of the other groups that hold values. -/
theorem Consistent.others {schema : Schema} (consistent : schema.Consistent) {earlier later : List Group}
    {group : Group} (groups : schema.groups = earlier ++ group :: later) :
    (schema.index.withoutGroup earlier.length).values.Perm
      (bearing true (groupsFrom 0 earlier) ++ bearing true (groupsFrom (earlier.length + 1) later)) := by
  have filtered := consistent.values.filter fun entry => entry.2.group ≠ earlier.length
  rwa [rows_eq, groups, groupsFrom_split, bearing_without] at filtered

/-- Rows are replaced just if the changed groups are valid. The rows of the other groups stay indexed as
they were. -/
theorem replaceRows_ok_iff {schema after : Schema} (consistent : schema.Consistent) {key : String} {g : Nat}
    (place : schema.groupIndex? key = some g) {rows : List Row} :
    schema.replaceRows key rows = .ok after ↔
      Valid schema.level (schema.groups.modify g fun group => { group with rows }) ∧
        { schema with
          index := (schema.index.withoutGroup g).extended (rowsFrom ⟨g, 0⟩ rows)
          groups := schema.groups.modify g fun group => { group with rows } } = after := by
  obtain ⟨earlier, group, later, groups, rfl, modified⟩ := consistent.split place
  have valid := consistent.valid
  rw [groups] at valid
  have unknown (identifier : String) :
      (schema.index.withoutGroup earlier.length).values.lookup identifier = none ↔
        identifier ∉ (bearing true (groupsFrom 0 earlier) ++
          bearing true (groupsFrom (earlier.length + 1) later)).map Prod.fst := by
    rw [lookup_eq_none_iff_keys, ((consistent.others groups).map Prod.fst).mem_iff]
  rw [modified, valid_replaced_iff valid, replaceRows, place]
  simp only [Result.bind_eq_ok_iff, Index.indexRows_eq, Index.enterAll_ok_iff, unknown, modified,
    Except.ok.injEq]
  constructor
  · rintro ⟨index, ⟨sound, own, apart, rfl⟩, rfl⟩
    exact ⟨⟨sound, own, apart⟩, rfl⟩
  · rintro ⟨⟨sound, own, apart⟩, rfl⟩
    exact ⟨_, ⟨sound, own, apart, rfl⟩, rfl⟩

/-- Rows that were replaced leave the schema consistent. -/
theorem Consistent.replaceRows {schema after : Schema} (consistent : schema.Consistent) {key : String}
    {rows : List Row} (replaced : schema.replaceRows key rows = .ok after) : after.Consistent := by
  obtain ⟨g, index, place, -, -⟩ := replaceRows_cases replaced
  obtain ⟨valid, rfl⟩ := (replaceRows_ok_iff consistent place).mp replaced
  obtain ⟨earlier, group, later, groups, rfl, modified⟩ := consistent.split place
  refine ⟨valid, ?_, ?_, ?_, ?_⟩
  · change schema.groupKeys = _
    rw [modified, keysFrom_rows, ← groups]
    exact consistent.keys
  · rw [rows_eq, modified, groupsFrom_split, bearing_append, bearing_append]
    exact ((List.reverse_perm _).append (consistent.others groups)).trans (List.perm_append_comm_assoc _ _ _)
  · intro entry noted
    rw [rows_eq, modified, groupsFrom_split, bearing_append, bearing_append]
    rcases Index.mem_noted noted with kept | new
    · -- An entry that is kept belongs to another group, whose rows stay where they are.
      obtain ⟨known, other⟩ := List.mem_filter.mp kept
      have elsewhere : entry ∈ (bearing false schema.rows).filter fun entry =>
          entry.2.group ≠ earlier.length := List.mem_filter.mpr ⟨consistent.structural entry known, other⟩
      rw [rows_eq, groups, groupsFrom_split, bearing_without] at elsewhere
      rcases List.mem_append.mp elsewhere with before | after
      · exact List.mem_append_left _ before
      · exact List.mem_append_right _ (List.mem_append_right _ after)
    · exact List.mem_append_right _ (List.mem_append_left _ new)
  · exact Index.nodup_noted _ (consistent.once.sublist (List.filter_sublist.map Prod.fst))

/-- An update leaves the schema consistent, whether or not it is accepted. -/
theorem Consistent.updated {schema : Schema} (consistent : schema.Consistent) (update : Update) :
    (schema.updated update).Consistent := by
  rw [Schema.updated]
  split
  · rename_i after accepted
    cases update with
    | rows key rows => exact consistent.replaceRows accepted
    | groups groups => exact consistent_of_build accepted
  · exact consistent

/-- Updates leave the schema consistent, by induction on their list. -/
theorem Consistent.updates {schema : Schema} (consistent : schema.Consistent) (list : List Update) :
    (schema.updates list).Consistent := by
  induction list generalizing schema with
  | nil => exact consistent
  | cons update rest inductionHypothesis => exact inductionHypothesis (consistent.updated update)

/-! ## What look-ups may be relied on for -/

/-- What a host may rely on. -/
structure Dependable (schema : Schema) : Prop where
  /-- Rows that hold values have identifiers of their own. -/
  unique : ∀ position row other same, schema.rowAt? position = some row → schema.rowAt? other = some same →
    row.isPersisted = true → same.isPersisted = true → row.identifier ≠ "" →
    row.identifier = same.identifier → position = other
  found : ∀ position row, schema.rowAt? position = some row → row.isPersisted = true → row.identifier ≠ "" →
    schema.positionOf? row.identifier = some position ∧ schema.rowFor? row.identifier = some row
  /-- An identifier that no row bears is not found, and neither is the empty one. -/
  absent : ∀ identifier, (∀ position row, schema.rowAt? position = some row →
      row.identifier ≠ identifier) ∨ identifier = "" →
    schema.positionOf? identifier = none ∧ schema.rowFor? identifier = none
  group : ∀ key g, schema.groupIndex? key = some g ↔
    ∃ group, schema.groups[g]? = some group ∧ group.key = some key
  offered : ∀ position row, schema.rowAt? position = some row → row.rowType.hasChoices = true →
    row.choices ≠ []
  /-- The form that a row carries would be accepted one level deeper. -/
  nested : ∀ position row groups, schema.rowAt? position = some row → row.childGroups? = some groups →
    ∃ form, build groups (schema.level + 1) = .ok form
  /-- Rows are replaced just if the groups with them would be accepted. -/
  replaced : ∀ key rows, (∃ after, schema.replaceRows key rows = .ok after) ↔
    ∃ g, schema.groupIndex? key = some g ∧ ∃ fresh,
      build (schema.groups.modify g fun group => { group with rows }) schema.level = .ok fresh

/-- The index holds an identifier just if a row bears it. -/
theorem Consistent.values_lookup {schema : Schema} (consistent : schema.Consistent) (identifier : String) :
    schema.index.values.lookup identifier = (bearing true schema.rows).lookup identifier :=
  (lookup_of_perm consistent.distinct consistent.values.symm).symm

/-- A row that holds a value is found under its identifier. -/
theorem Consistent.positionOf?_persisted {schema : Schema} (consistent : schema.Consistent)
    {position : Position} {row : Row} (there : schema.rowAt? position = some row)
    (persisted : row.isPersisted = true) (named : row.identifier ≠ "") :
    schema.positionOf? row.identifier = some position := by
  have listed : (row.identifier, position) ∈ bearing true schema.rows :=
    mem_bearing.mpr ⟨named, row, mem_rows.mpr there, rfl, persisted⟩
  rw [positionOf?, Index.find?, consistent.values_lookup, lookup_of_mem consistent.distinct listed,
    Option.some_or]

/-- Whatever is found is a row that bears the identifier. -/
theorem Consistent.positionOf?_sound {schema : Schema} (consistent : schema.Consistent) {identifier : String}
    {position : Position} (found : schema.positionOf? identifier = some position) :
    identifier ≠ "" ∧ ∃ row, schema.rowAt? position = some row ∧ row.identifier = identifier := by
  have listed (persisted : Bool) (member : (identifier, position) ∈ bearing persisted schema.rows) :
      identifier ≠ "" ∧ ∃ row, schema.rowAt? position = some row ∧ row.identifier = identifier := by
    obtain ⟨named, row, there, bears, -⟩ := mem_bearing.mp member
    exact ⟨named, row, mem_rows.mp there, bears⟩
  rcases Option.or_eq_some_iff.mp found with value | ⟨-, structural⟩
  · exact listed true (consistent.values.subset (mem_of_lookup value))
  · exact listed false (consistent.structural _ (mem_of_lookup structural))

/-- Look-ups in a consistent schema may be relied on. -/
theorem Consistent.dependable {schema : Schema} (consistent : schema.Consistent) : schema.Dependable where
  unique := by
    intro position row other same there elsewhere persisted alsoPersisted named equal
    have first := consistent.positionOf?_persisted there persisted named
    have second := consistent.positionOf?_persisted elsewhere alsoPersisted (equal ▸ named)
    rw [equal, second] at first
    exact (Option.some.inj first).symm
  found := by
    intro position row there persisted named
    have place := consistent.positionOf?_persisted there persisted named
    exact ⟨place, by rw [rowFor?, place, Option.bind_some, there]⟩
  absent := by
    intro identifier unborne
    have place : schema.positionOf? identifier = none := by
      rw [Option.eq_none_iff_forall_ne_some]
      intro position found
      obtain ⟨named, row, there, bears⟩ := consistent.positionOf?_sound found
      rcases unborne with unborne | unnamed
      · exact unborne position row there bears
      · exact named unnamed
    exact ⟨place, by rw [rowFor?, place, Option.bind_none]⟩
  group := fun _ _ => consistent.groupIndex?_eq_some_iff
  offered := by
    intro position row there
    rw [← mem_rows, rows_eq] at there
    exact (consistent.valid.sound _ there).offered
  nested := by
    intro position row groups there
    rw [← mem_rows, rows_eq] at there
    exact checkRow_ok_iff.mp (consistent.valid.sound _ there).nested groups
  replaced := by
    intro key rows
    constructor
    · rintro ⟨after, replaced⟩
      obtain ⟨g, index, place, -, -⟩ := replaceRows_cases replaced
      exact ⟨g, place, _, build_of_valid ((replaceRows_ok_iff consistent place).mp replaced).1⟩
    · rintro ⟨g, place, fresh, built⟩
      exact ⟨_, (replaceRows_ok_iff consistent place).mpr ⟨(build_ok_iff.mp built).1, rfl⟩⟩

/-- An update keeps the level. -/
theorem updated_level (schema : Schema) (update : Update) : (schema.updated update).level = schema.level := by
  rw [updated]
  split
  · rename_i after accepted
    cases update with
    | rows key rows =>
      obtain ⟨g, index, -, -, rfl⟩ := replaceRows_cases accepted
      rfl
    | groups groups => exact (build_cases accepted).2.2.1
  · rfl

/-- Updates keep the level. -/
theorem updates_level (schema : Schema) (list : List Update) : (schema.updates list).level = schema.level := by
  induction list generalizing schema with
  | nil => rfl
  | cons update rest inductionHypothesis => exact (inductionHypothesis _).trans (updated_level schema update)

/-- However often rows and groups are replaced, and whichever replacements are refused, the schema stays at
its level and look-ups may be relied on. A refused replacement changes nothing. -/
theorem dependable_updates {groups : List Group} {level : Nat} {built : Schema}
    (accepted : build groups level = .ok built) (list : List Update) :
    (built.updates list).level = level ∧ (built.updates list).Dependable ∧
      ∀ update error, (built.updates list).update? update = .error error →
        (built.updates list).updated update = built.updates list := by
  obtain ⟨valid, rfl⟩ := build_ok_iff.mp accepted
  refine ⟨updates_level _ list, ((consistent_indexed valid).updates list).dependable, ?_⟩
  intro update error refused
  rw [updated, refused]

/-- A group of contact details and one with the action that sends them. -/
def contact : List Group :=
  [⟨"Contact", some "contact", none, none, [.ofPayload "Mail" "mail" (.string "")]⟩,
    ⟨"Sending", some "sending", none, none, [.ofPayload "Send" "send" .action]⟩]

/-- The mail address becomes a telephone number, and a second row for one is refused. -/
theorem dependable_updates_contact :
    build contact 0 = .ok (indexed 0 contact) ∧
      ((indexed 0 contact).updates
        [.rows "contact" [.ofInteger "Telephone" "telephone" 0],
          .rows "sending" [.ofInteger "Telephone" "telephone" 1]]).positionOf? "telephone" = some ⟨0, 0⟩ := by
  have accepted : build contact 0 = .ok (indexed 0 contact) := by rfl
  have dependable := (dependable_updates accepted [.rows "contact" [.ofInteger "Telephone" "telephone" 0],
    .rows "sending" [.ofInteger "Telephone" "telephone" 1]]).2.1
  exact ⟨accepted, (dependable.found ⟨0, 0⟩ (.ofInteger "Telephone" "telephone" 0) (by rfl) (by decide)
    (by decide)).1⟩

end Schema

end SettingsForm
