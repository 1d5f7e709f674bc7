import SettingsForm.Proofs.Schema.Updates

/-!
# Schemas with a history

A schema is current for an identifier if it answers as the schema built anew from its groups would. Rows
that hold values are always found where they are, whatever the history. Structural rows may share an
identifier, and then the first one in display order counts. The index remembers only that one, so replacing
the rows of its group loses it without another one being looked for, and a row that comes before it later is
not put in its place.

An update unsettles an identifier in just these two cases (`Schema.unsettles`). Up to the first such update
the schema is current (`Schema.Steady`), and after it it is not, unless a row that holds a value hides the
structural ones.
-/

namespace SettingsForm

/-- The row bears an identifier, as a row that holds a value or as a structural one. -/
def Row.bears (persisted : Bool) (identifier : String) (row : Row) : Bool :=
  identifier ≠ "" && row.identifier = identifier && row.isPersisted = persisted

/-- A structural row of the group bears an identifier. -/
def Group.bears (identifier : String) (group : Group) : Bool := group.rows.any (Row.bears false identifier)

/-- The entry looked up is that of the first row that bears the identifier. -/
theorem lookup_bearing (persisted : Bool) (identifier : String) (entries : List (Position × Row)) :
    (bearing persisted entries).lookup identifier =
      (entries.find? fun entry => entry.2.bears persisted identifier).map Prod.fst := by
  induction entries with
  | nil => rfl
  | cons entry rest inductionHypothesis =>
    obtain ⟨position, row⟩ := entry
    cases borne : row.bears persisted identifier with
    | true =>
      simp only [Row.bears, Bool.and_eq_true, decide_eq_true_eq] at borne
      obtain ⟨⟨named, rfl⟩, kind⟩ := borne
      simp [bearing, Row.bears, named, kind]
    | false =>
      rw [List.find?_cons_of_neg (by simp [borne]), ← inductionHypothesis]
      by_cases listed : row.identifier ≠ "" ∧ row.isPersisted = persisted
      · have other : (identifier == row.identifier) = false := by
          rw [beq_eq_false_iff_ne]
          rintro rfl
          simp [Row.bears, listed] at borne
        simp [bearing, listed, List.lookup_cons, other]
      · simp [bearing, listed]

/-- A structural row of a group is found just if one of the rows bears the identifier. -/
theorem lookup_bearing_rows (position : Position) (identifier : String) (rows : List Row) :
    ((bearing false (rowsFrom position rows)).lookup identifier).isSome =
      rows.any (Row.bears false identifier) := by
  induction rows generalizing position with
  | nil => rfl
  | cons row rest inductionHypothesis =>
    have following := inductionHypothesis ⟨position.group, position.row + 1⟩
    rw [lookup_bearing, Option.isSome_map] at following ⊢
    rw [rowsFrom, List.any_cons, ← following, List.find?_cons]
    cases row.bears false identifier <;> rfl

/-- A structural row of some groups is found just if one of the groups bears the identifier. -/
theorem lookup_bearing_groups (place : Nat) (identifier : String) (groups : List Group) :
    ((bearing false (groupsFrom place groups)).lookup identifier).isSome =
      groups.any (Group.bears identifier) := by
  induction groups generalizing place with
  | nil => rfl
  | cons group rest inductionHypothesis =>
    rw [groupsFrom, bearing_append, List.lookup_append, Option.isSome_or, lookup_bearing_rows,
      inductionHypothesis, List.any_cons, Group.bears]

/-- Forgetting entries forgets what is looked up if its entry is one of them. -/
theorem lookup_filter {entries : List (String × Position)} (unique : (entries.map Prod.fst).Nodup)
    (keep : Position → Bool) (identifier : String) :
    (entries.filter fun entry => keep entry.2).lookup identifier =
      (entries.lookup identifier).filter keep := by
  have stillUnique : ((entries.filter fun entry => keep entry.2).map Prod.fst).Nodup :=
    unique.sublist (List.filter_sublist.map Prod.fst)
  cases kept : (entries.filter fun entry => keep entry.2).lookup identifier with
  | some position =>
    obtain ⟨listed, held⟩ := List.mem_filter.mp (mem_of_lookup kept)
    rw [lookup_of_mem unique listed, Option.filter_some_pos held]
  | none =>
    symm
    rw [Option.filter_eq_none_iff]
    intro position found held
    have listed : (identifier, position) ∈ entries.filter fun entry => keep entry.2 :=
      List.mem_filter.mpr ⟨mem_of_lookup found, held⟩
    rw [lookup_of_mem stillUnique listed] at kept
    cases kept

namespace Schema

/-- The position of the first row that bears an identifier. -/
def first? (schema : Schema) (persisted : Bool) (identifier : String) : Option Position :=
  (schema.rows.find? fun entry => entry.2.bears persisted identifier).map Prod.fst

/-- The schema answers for an identifier as one built anew from its groups. -/
def Current (schema : Schema) (identifier : String) : Prop :=
  ∃ anew, build schema.groups schema.level = .ok anew ∧
    schema.positionOf? identifier = anew.positionOf? identifier ∧
    schema.rowFor? identifier = anew.rowFor? identifier

/-- The update takes the first structural row of an identifier away while a later group has another one, or
puts one before those of later groups. -/
def unsettles (schema : Schema) (identifier : String) : Update → Bool
  | .groups _ => false
  | .rows key rows =>
    match schema.groupIndex? key with
    | none => false
    | some g =>
      (schema.replaceRows key rows).isOk &&
        !(schema.groups.take g).any (Group.bears identifier) &&
        (schema.groups.drop (g + 1)).any (Group.bears identifier) &&
        (schema.groups[g]?.any (Group.bears identifier) != rows.any (Row.bears false identifier))

/-- None of the updates, each made after those before it, unsettles the identifier. -/
def Steady (identifier : String) : Schema → List Update → Prop
  | _, [] => True
  | schema, update :: rest =>
    schema.unsettles identifier update = false ∧ Steady identifier (schema.updated update) rest

/-- The index knows the first of the structural rows that bear the identifier. -/
def Settled (schema : Schema) (identifier : String) : Prop :=
  schema.index.structural.lookup identifier = schema.first? false identifier

variable {schema : Schema} {identifier : String}

/-- The first row that bears an identifier is the one that a look-up in the entries finds. -/
theorem first?_eq_lookup (schema : Schema) (persisted : Bool) (identifier : String) :
    schema.first? persisted identifier =
      (bearing persisted (groupsFrom 0 schema.groups)).lookup identifier := by
  rw [lookup_bearing, ← rows_eq, first?]

/-- In a schema indexed from scratch every identifier is settled. -/
theorem settled_indexed (level : Nat) (groups : List Group) (identifier : String) :
    (indexed level groups).Settled identifier := by
  rw [Settled, first?_eq_lookup]
  simp [indexed, Index.extended, Index.empty, Index.lookup_noted]

/-! ## One update -/

/-- The first row that stands before, in or after a group is still known after the group's rows are
replaced, except when a later one has to take its place or it comes before a later one. -/
theorem first_known_iff {g : Nat} {before own after new : Option Position}
    (elsewhereBefore : ∀ position, before = some position → position.group ≠ g)
    (inside : ∀ position, own = some position → position.group = g)
    (elsewhereAfter : ∀ position, after = some position → position.group ≠ g)
    (newInside : ∀ position, new = some position → position.group = g) :
    ((before.or (own.or after)).filter fun position => position.group ≠ g).or new =
        before.or (new.or after) ↔
      (!before.isSome && after.isSome && (own.isSome != new.isSome)) = false := by
  have gone (position : Position) (here : position.group = g) :
      (some position).filter (fun position => position.group ≠ g) = none :=
    Option.filter_some_neg (by simp [here])
  have kept (position : Position) (elsewhere : position.group ≠ g) :
      (some position).filter (fun position => position.group ≠ g) = some position :=
    Option.filter_some_pos (by simp [elsewhere])
  cases before with
  | some position => rw [Option.some_or, kept position (elsewhereBefore position rfl)]; simp
  | none =>
    cases after with
    | none =>
      cases own with
      | none => simp
      | some position => rw [Option.none_or, Option.some_or, gone position (inside position rfl)]; simp
    | some later =>
      have apart := elsewhereAfter later rfl
      cases own with
      | some position =>
        rw [Option.none_or, Option.some_or, gone position (inside position rfl)]
        cases new <;> simp
      | none =>
        rw [Option.none_or, Option.none_or, kept later apart]
        cases new with
        | none => simp
        | some position =>
          have different : later ≠ position := fun same => apart (same ▸ newInside position rfl)
          simp [different]

/-- A row found among those of a group stands in the group. -/
theorem group_of_lookup_rows {position found : Position} {rows : List Row}
    (known : (bearing false (rowsFrom position rows)).lookup identifier = some found) :
    found.group = position.group := by
  obtain ⟨-, row, listed, -⟩ := mem_bearing.mp (mem_of_lookup known)
  exact (mem_rowsFrom.mp listed).1

/-- A row found among those of some groups stands in one of them. -/
theorem group_of_lookup_groups {place : Nat} {found : Position} {groups : List Group}
    (known : (bearing false (groupsFrom place groups)).lookup identifier = some found) :
    place ≤ found.group ∧ found.group < place + groups.length := by
  obtain ⟨-, row, listed, -⟩ := mem_bearing.mp (mem_of_lookup known)
  obtain ⟨least, group, at_, -⟩ := mem_groupsFrom.mp listed
  have inside : found.group - place < groups.length := (List.getElem?_eq_some_iff.mp at_).1
  exact ⟨least, by omega⟩

/-- Replaced rows leave the index knowing the first row just if they do not unsettle the identifier. -/
theorem Settled.replaceRows_iff {after : Schema} (settled : schema.Settled identifier)
    (consistent : schema.Consistent) {key : String} {rows : List Row}
    (replaced : schema.replaceRows key rows = .ok after) :
    after.Settled identifier ↔ schema.unsettles identifier (.rows key rows) = false := by
  obtain ⟨g, index, place, -, -⟩ := replaceRows_cases replaced
  have accepted : (schema.replaceRows key rows).isOk = true := by rw [replaced]; rfl
  obtain ⟨-, rfl⟩ := (replaceRows_ok_iff consistent place).mp replaced
  obtain ⟨earlier, group, later, groups, rfl, modified⟩ := consistent.split place
  have known : schema.index.structural.lookup identifier = _ := settled
  rw [first?_eq_lookup, groups, groupsFrom_split, bearing_append, bearing_append, List.lookup_append,
    List.lookup_append] at known
  rw [Settled, first?_eq_lookup, Index.extended, Index.lookup_noted, Index.withoutGroup, modified,
    groupsFrom_split, bearing_append, bearing_append, List.lookup_append, List.lookup_append,
    lookup_filter consistent.once (fun position => position.group ≠ earlier.length), known,
    first_known_iff]
  · rw [lookup_bearing_groups, lookup_bearing_groups, lookup_bearing_rows, lookup_bearing_rows]
    simp only [unsettles, place, accepted, groups, Bool.true_and]
    have following : (earlier ++ group :: later).drop (earlier.length + 1) = later := by simp
    have here : (earlier ++ group :: later)[earlier.length]? = some group := by simp
    rw [List.take_left, following, here, Option.any_some, Group.bears]
  · intro position listed
    exact Nat.ne_of_lt (by simpa using (group_of_lookup_groups listed).2)
  · exact fun position listed => group_of_lookup_rows listed
  · intro position listed
    exact Nat.ne_of_gt (group_of_lookup_groups listed).1
  · exact fun position listed => group_of_lookup_rows listed

/-- As long as the index knows the first structural row, an update keeps that up just if it does not
unsettle the identifier. -/
theorem Settled.updated_iff (settled : schema.Settled identifier) (consistent : schema.Consistent)
    (update : Update) :
    (schema.updated update).Settled identifier ↔ schema.unsettles identifier update = false := by
  rw [updated]
  cases accepted : schema.update? update with
  | ok after =>
    cases update with
    | rows key rows => exact settled.replaceRows_iff consistent accepted
    | groups groups =>
      obtain ⟨-, rfl⟩ := build_ok_iff.mp accepted
      exact iff_of_true (settled_indexed _ _ _) rfl
  | error error =>
    refine iff_of_true settled ?_
    cases update with
    | groups groups => rfl
    | rows key rows =>
      have refused : schema.replaceRows key rows = .error error := accepted
      cases place : schema.groupIndex? key <;> simp [unsettles, place, refused, Except.isOk, Except.toBool]

/-! ## Histories -/

/-- An identifier that no update unsettles stays settled. -/
theorem Settled.updates (settled : schema.Settled identifier) (consistent : schema.Consistent)
    {list : List Update} (steady : Steady identifier schema list) :
    (schema.updates list).Settled identifier := by
  induction list generalizing schema with
  | nil => exact settled
  | cons update rest inductionHypothesis =>
    obtain ⟨settles, remaining⟩ := steady
    exact inductionHypothesis ((settled.updated_iff consistent update).mpr settles)
      (consistent.updated update) remaining

/-- What a schema that is indexed from scratch answers. -/
theorem positionOf?_indexed {level : Nat} {groups : List Group} (valid : Valid level groups)
    (identifier : String) :
    (indexed level groups).positionOf? identifier =
      ((indexed level groups).first? true identifier).or ((indexed level groups).first? false identifier) := by
  rw [valid.positionOf?, first?_eq_lookup, first?_eq_lookup, indexed]

/-- An identifier leads to the row that holds a value under it, or else to the structural row that the index
knows. -/
theorem Consistent.positionOf?_eq (consistent : schema.Consistent) (identifier : String) :
    schema.positionOf? identifier =
      (schema.first? true identifier).or (schema.index.structural.lookup identifier) := by
  rw [positionOf?, Index.find?, consistent.values_lookup, first?_eq_lookup, rows_eq]

/-- An identifier resolves to the first row in display order if the index knows the first structural row, or
if a row that holds a value hides it. -/
theorem Consistent.positionOf?_known (consistent : schema.Consistent)
    (known : (schema.first? true identifier).isSome = true ∨ schema.Settled identifier) :
    schema.positionOf? identifier =
      (schema.first? true identifier).or (schema.first? false identifier) := by
  rw [consistent.positionOf?_eq]
  rcases known with value | settled
  · obtain ⟨position, value⟩ := Option.isSome_iff_exists.mp value
    rw [value, Option.some_or, Option.some_or]
  · rw [settled]

/-- A schema is current for just these identifiers. -/
theorem Consistent.current_iff (consistent : schema.Consistent) :
    schema.Current identifier ↔
      (schema.first? true identifier).isSome = true ∨ schema.Settled identifier := by
  have anew := positionOf?_indexed consistent.valid identifier
  have same (persisted : Bool) : (indexed schema.level schema.groups).first? persisted identifier =
      schema.first? persisted identifier := by rw [first?_eq_lookup, first?_eq_lookup, indexed]
  rw [same, same] at anew
  constructor
  · rintro ⟨fresh, built, position, -⟩
    obtain ⟨-, rfl⟩ := build_ok_iff.mp built
    rw [anew, consistent.positionOf?_eq] at position
    cases value : schema.first? true identifier with
    | some position => exact Or.inl rfl
    | none =>
      rw [value, Option.none_or, Option.none_or] at position
      exact Or.inr position
  · intro known
    have position : schema.positionOf? identifier =
        (indexed schema.level schema.groups).positionOf? identifier :=
      (consistent.positionOf?_known known).trans anew.symm
    refine ⟨_, build_of_valid consistent.valid, position, ?_⟩
    rw [rowFor?, rowFor?, position]
    rfl

/-- An identifier that no structural row bears is settled. -/
theorem Consistent.settled_of_none (consistent : schema.Consistent)
    (unborne : schema.first? false identifier = none) : schema.Settled identifier := by
  rw [Settled, unborne, lookup_eq_none_iff_keys]
  intro known
  rw [first?_eq_lookup, lookup_eq_none_iff_keys, ← rows_eq] at unborne
  exact unborne (List.map_subset Prod.fst consistent.structural known)

/-- Whatever the history, the groups make up a schema, and the schema is current for identifiers of rows
that hold values, for those that no structural row bears, and for those that no update unsettled: they
resolve to the first row in display order that bears them, where rows that hold values go first. The first
update that unsettles an identifier ends this, unless a row that holds a value hides the structural ones. -/
theorem current_unless_unsettled {groups : List Group} {level : Nat} {built : Schema}
    (accepted : build groups level = .ok built) (list : List Update) (identifier : String) :
    (∃ anew, build (built.updates list).groups level = .ok anew) ∧
      (Steady identifier built list ∨ ((built.updates list).first? true identifier).isSome = true ∨
          (built.updates list).first? false identifier = none →
        (built.updates list).Current identifier ∧
          (built.updates list).positionOf? identifier =
            ((built.updates list).first? true identifier).or
              ((built.updates list).first? false identifier)) ∧
      (Steady identifier built list → ∀ update,
        ((built.updates list).updated update).Current identifier ↔
          ((built.updates list).unsettles identifier update = false ∨
            (((built.updates list).updated update).first? true identifier).isSome = true)) := by
  obtain ⟨valid, rfl⟩ := build_ok_iff.mp accepted
  have fromStart := consistent_indexed valid
  have consistent := fromStart.updates list
  have kept : ((indexed level groups).updates list).level = level := updates_level _ list
  have settles (steady : Steady identifier (indexed level groups) list) :
      ((indexed level groups).updates list).Settled identifier :=
    (settled_indexed level groups identifier).updates fromStart steady
  refine ⟨⟨_, kept ▸ build_of_valid consistent.valid⟩, ?_, ?_⟩
  · intro known
    have known : (((indexed level groups).updates list).first? true identifier).isSome = true ∨
        ((indexed level groups).updates list).Settled identifier := by
      rcases known with steady | value | unborne
      · exact Or.inr (settles steady)
      · exact Or.inl value
      · exact Or.inr (consistent.settled_of_none unborne)
    exact ⟨consistent.current_iff.mpr known, consistent.positionOf?_known known⟩
  · intro steady update
    rw [(consistent.updated update).current_iff, (settles steady).updated_iff consistent update]
    exact Or.comm

/-- A form that can be saved at the top and at the bottom. -/
def twoButtons : List Group :=
  [⟨"Top", some "top", none, none, [.ofPayload "Save" "save" .action]⟩,
    ⟨"Bottom", some "bottom", none, none, [.ofPayload "Save" "save" .action]⟩]

/-- Taking the lower button away leaves the schema current for the upper one, which is found, but taking the
upper one away would not. -/
theorem current_unless_unsettled_buttons :
    build twoButtons 0 = .ok (indexed 0 twoButtons) ∧
      ((indexed 0 twoButtons).updates [.rows "bottom" []]).Current "save" ∧
      ((indexed 0 twoButtons).updates [.rows "bottom" []]).positionOf? "save" = some ⟨0, 0⟩ ∧
      ¬ ((indexed 0 twoButtons).updated (.rows "top" [])).Current "save" := by
  have accepted : build twoButtons 0 = .ok (indexed 0 twoButtons) := by rfl
  obtain ⟨current, position⟩ := (current_unless_unsettled accepted [.rows "bottom" []] "save").2.1
    (Or.inl ⟨by decide, trivial⟩)
  have ended := (current_unless_unsettled accepted [] "save").2.2 trivial (.rows "top" [])
  refine ⟨accepted, current, ?_, ?_⟩
  · rw [position]
    decide
  · exact fun still => absurd (ended.mp still) (by decide)

/-- Once the upper button is taken away the lower one is not found, though the schema built anew from the
groups finds it. -/
theorem lower_button_lost :
    ∃ built after anew, build twoButtons 0 = .ok built ∧ built.replaceRows "top" [] = .ok after ∧
      build after.groups 0 = .ok anew ∧ after.positionOf? "save" = none ∧
      anew.positionOf? "save" = some ⟨1, 0⟩ := by
  exact ⟨indexed 0 twoButtons, _, _, by rfl, by rfl, by rfl, by rfl, by rfl⟩

end Schema

end SettingsForm
