import SettingsForm.Proofs.Schema.Indexing

/-!
# Which groups are accepted

Groups make up a schema just if their keys are distinct, every row is sound and the rows that hold values
bear distinct identifiers (`Schema.build_ok_iff`). The index then lists the rows in display order, so that a
look-up of an identifier finds the row that holds a value under it, and else the first structural row that
bears it.

A nested form that a row carries is checked by building it one level deeper; the index of that form is
thrown away.
-/

namespace SettingsForm

/-- The keys of groups, the first of which stands at a place, each with the place of its group. -/
def keysFrom (place : Nat) : List Group → List (String × Nat)
  | [] => []
  | group :: rest => (group.key.toList.map fun key => (key, place)) ++ keysFrom (place + 1) rest

/-- The listed keys are those of the groups that have one, in display order. -/
theorem keysFrom_keys (place : Nat) (groups : List Group) :
    (keysFrom place groups).map Prod.fst = groups.filterMap (·.key) := by
  induction groups generalizing place with
  | nil => rfl
  | cons group rest inductionHypothesis =>
    rw [keysFrom, List.map_append, inductionHypothesis]
    cases named : group.key with
    | none => rw [List.filterMap_cons_none named]; rfl
    | some key => rw [List.filterMap_cons_some named]; rfl

/-- A key is listed with the place of a group that has it. -/
theorem mem_keysFrom {place : Nat} {groups : List Group} {key : String} {found : Nat} :
    (key, found) ∈ keysFrom place groups ↔
      place ≤ found ∧ ∃ group, groups[found - place]? = some group ∧ group.key = some key := by
  induction groups generalizing place with
  | nil => simp [keysFrom]
  | cons group rest inductionHypothesis =>
    have own : (key, found) ∈ (group.key.toList.map fun key => (key, place)) ↔
        found = place ∧ group.key = some key := by
      cases group.key <;> simp [eq_comm, and_comm]
    rw [keysFrom, List.mem_append, own, inductionHypothesis]
    rcases Nat.lt_trichotomy found place with before | rfl | after
    · have behind : ¬ place ≤ found := by omega
      have alsoBehind : ¬ place + 1 ≤ found := by omega
      simp [behind, alsoBehind, Nat.ne_of_lt before]
    · have behind : ¬ found + 1 ≤ found := by omega
      simp [behind]
    · have following : found - place = found - (place + 1) + 1 := by omega
      have least : place ≤ found := Nat.le_of_lt after
      simp [following, least, Nat.succ_le_of_lt after, Nat.ne_of_gt after]

/-- The rows of a group play no part in the keys. -/
theorem keysFrom_rows (place : Nat) (before after : List Group) (group : Group) (rows : List Row) :
    keysFrom place (before ++ { group with rows } :: after) = keysFrom place (before ++ group :: after) := by
  induction before generalizing place with
  | nil => rfl
  | cons first rest inductionHypothesis =>
    rw [List.cons_append, List.cons_append, keysFrom, keysFrom, inductionHypothesis]

/-- Group keys are indexed just if they are distinct and none is known before. -/
theorem indexGroupKeys_ok_iff {known after : List (String × Nat)} {place : Nat} {groups : List Group} :
    indexGroupKeys known place groups = .ok after ↔
      (groups.filterMap (·.key)).Nodup ∧ (∀ key ∈ groups.filterMap (·.key), known.lookup key = none) ∧
        (keysFrom place groups).reverse ++ known = after := by
  induction groups generalizing known place with
  | nil => simp [indexGroupKeys, keysFrom]
  | cons group rest inductionHypothesis =>
    rw [indexGroupKeys, keysFrom]
    cases named : group.key with
    | none =>
      simp only [inductionHypothesis]
      rw [List.filterMap_cons_none named]
      rfl
    | some key =>
      rw [List.filterMap_cons_some named, List.nodup_cons, List.forall_mem_cons]
      cases earlier : known.lookup key with
      | some first => simp [earlier]
      | none =>
        have unknown (other : String) : ((key, place) :: known).lookup other = none ↔
            other ≠ key ∧ known.lookup other = none := by
          rw [lookup_eq_none_iff_keys, lookup_eq_none_iff_keys, List.map_cons, List.mem_cons, not_or]
        simp only [earlier, Option.isSome_none, Bool.false_eq_true, if_false, inductionHypothesis, unknown,
          Option.toList_some, List.map_cons, List.map_nil, List.singleton_append, List.reverse_cons,
          List.append_assoc, true_and]
        constructor
        · rintro ⟨distinct, unseen, whole⟩
          exact ⟨⟨fun again => (unseen key again).1 rfl, distinct⟩,
            fun other listed => (unseen other listed).2, whole⟩
        · rintro ⟨⟨once, distinct⟩, unseen, whole⟩
          refine ⟨distinct, fun other later => ⟨?_, unseen other later⟩, whole⟩
          rintro rfl
          exact once later

namespace Schema

/-- What groups must satisfy to make up a schema at a level. -/
structure Valid (level : Nat) (groups : List Group) : Prop where
  /-- A key names one group. -/
  keys : (groups.filterMap (·.key)).Nodup
  sound : ∀ entry ∈ groupsFrom 0 groups, entry.2.Sound level
  distinct : ((bearing true (groupsFrom 0 groups)).map Prod.fst).Nodup

/-- The schema of groups, indexed from scratch. -/
def indexed (level : Nat) (groups : List Group) : Schema :=
  { level, groups
    index := Index.empty.extended (groupsFrom 0 groups)
    groupKeys := (keysFrom 0 groups).reverse }

/-- Building succeeds for valid groups and no others, and indexes them in display order. -/
theorem build_ok_iff {groups : List Group} {level : Nat} {schema : Schema} :
    build groups level = .ok schema ↔ Valid level groups ∧ indexed level groups = schema := by
  have entered (after : Index) : indexGroups level 0 .empty groups = .ok after ↔
      (∀ entry ∈ groupsFrom 0 groups, entry.2.Sound level) ∧
        ((bearing true (groupsFrom 0 groups)).map Prod.fst).Nodup ∧
        Index.empty.extended (groupsFrom 0 groups) = after := by
    rw [Index.indexGroups_eq, Index.enterAll_ok_iff]
    simp [Index.empty]
  have keyed (places : List (String × Nat)) : indexGroupKeys [] 0 groups = .ok places ↔
      (groups.filterMap (·.key)).Nodup ∧ (keysFrom 0 groups).reverse = places := by
    simp [indexGroupKeys_ok_iff]
  simp only [build, Result.bind_eq_ok_iff, keyed, entered, Except.ok.injEq]
  constructor
  · rintro ⟨places, ⟨keys, rfl⟩, index, ⟨sound, distinct, rfl⟩, rfl⟩
    exact ⟨⟨keys, sound, distinct⟩, rfl⟩
  · rintro ⟨valid, rfl⟩
    exact ⟨_, ⟨valid.keys, rfl⟩, _, ⟨valid.sound, valid.distinct, rfl⟩, rfl⟩

/-- Valid groups are accepted and indexed in display order. -/
theorem build_of_valid {groups : List Group} {level : Nat} (valid : Valid level groups) :
    build groups level = .ok (indexed level groups) := build_ok_iff.mpr ⟨valid, rfl⟩

/-- A look-up in a schema indexed from scratch goes through the rows in display order: first through those
that hold values, then through the structural ones. -/
theorem Valid.positionOf? {level : Nat} {groups : List Group} (valid : Valid level groups)
    (identifier : String) :
    (indexed level groups).positionOf? identifier =
      ((bearing true (groupsFrom 0 groups)).lookup identifier).or
        ((bearing false (groupsFrom 0 groups)).lookup identifier) := by
  have inOrder : (bearing true (groupsFrom 0 groups)).lookup identifier =
      (bearing true (groupsFrom 0 groups)).reverse.lookup identifier :=
    lookup_of_perm valid.distinct (List.reverse_perm _).symm
  rw [Schema.positionOf?, indexed, Index.find?, Index.extended, inOrder]
  simp [Index.empty, Index.lookup_noted]

end Schema

/-- The key of a single group is never used twice. -/
theorem indexGroupKeys_single (place : Nat) (group : Group) :
    indexGroupKeys [] place [group] = .ok (keysFrom place [group]).reverse := by
  refine indexGroupKeys_ok_iff.mpr ⟨?_, by simp, List.append_nil _⟩
  cases named : group.key with
  | none => simp [List.filterMap_cons_none named]
  | some key => simp [List.filterMap_cons_some named]

/-- To check a row is to build the form that it carries one level deeper, and to forget what was built. -/
theorem checkRow_eq (level : Nat) (row : Row) :
    checkRow level row = match row.childGroups? with
      | none => .ok ()
      | some groups => (Schema.build groups (level + 1)).map fun _ => () := by
  obtain ⟨name, identifier, payload, editable, keyboard, flags⟩ := row
  cases payload with
  | multiLevel groups =>
    cases groups with
    | none => rfl
    | some groups =>
      simp only [checkRow, checkPayload, Row.childGroups?, Payload.childGroups?, Schema.build]
      cases indexGroupKeys [] 0 groups with
      | error error => rfl
      | ok places => cases indexGroups (level + 1) 0 .empty groups <;> rfl
  | propertyList group =>
    cases group with
    | none => rfl
    | some group =>
      -- The keys of a single group need no comparison, and none is made.
      obtain ⟨title, key, header, footer, rows⟩ := group
      simp only [checkRow, checkPayload, Row.childGroups?, Payload.childGroups?, Option.map_some,
        Schema.build, indexGroupKeys_single, indexGroups]
      cases indexRows (level + 1) ⟨0, 0⟩ .empty rows <;> rfl
  | _ => rfl

/-- A row passes if the form that it carries can be built one level deeper. -/
theorem checkRow_ok_iff {level : Nat} {row : Row} :
    checkRow level row = .ok () ↔
      ∀ groups, row.childGroups? = some groups → ∃ nested, Schema.build groups (level + 1) = .ok nested := by
  rw [checkRow_eq]
  cases row.childGroups? with
  | none => simp
  | some groups => cases built : Schema.build groups (level + 1) <;> simp [Except.map, built]

/-- A row is refused for what is wrong with the form that it carries. -/
theorem checkRow_error {level : Nat} {row : Row} {error : SchemaError}
    (refused : checkRow level row = .error error) :
    ∃ groups, row.childGroups? = some groups ∧ Schema.build groups (level + 1) = .error error := by
  rw [checkRow_eq] at refused
  cases carried : row.childGroups? with
  | none => simp [carried] at refused
  | some groups =>
    rw [carried] at refused
    cases built : Schema.build groups (level + 1) with
    | error fault =>
      simp only [built, Except.map, Except.error.injEq] at refused
      exact ⟨groups, rfl, built.trans (congrArg Except.error refused)⟩
    | ok nested => simp [built, Except.map] at refused

end SettingsForm
