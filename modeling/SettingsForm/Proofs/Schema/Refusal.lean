import SettingsForm.Proofs.Schema.Updates

/-!
# Why groups are refused

Groups may carry other groups: a form lies inside another if it is that form itself or lies inside one that
a row of it carries (`Inside`). Groups are accepted just if every form inside them is well-formed by itself.
The level has no part in that, as long as the levels of all these forms can be counted (`LevelsFit`).

Building stops at the first thing that it finds wrong, which may be the matter of a form at any depth. The
error tells what is wrong and where, but not in which of the nested forms; `Fault` says what it promises of
that form. A duplicate identifier alone tells how deep the form lies.
-/

namespace SettingsForm

/-- A form lies so many levels inside groups: it is made of these groups, or it lies inside the form that one
of their rows carries. -/
inductive Inside : Nat → List Group → List Group → Prop where
  | itself (groups : List Group) : Inside 0 groups groups
  | carried {depth : Nat} {groups nested inner : List Group} {position : Position} {row : Row}
      (there : Stands groups position row) (carries : row.childGroups? = some nested)
      (deeper : Inside depth nested inner) : Inside (depth + 1) groups inner

/-- The levels of all forms inside groups are 64-bit numbers, when the groups lie at a level. -/
def LevelsFit (level : Nat) (groups : List Group) : Prop :=
  ∀ depth inner, Inside depth groups inner → level + depth < UInt64.size

/-- Levels fit if they do in every form that a row carries. -/
theorem levelsFit_of_carried {level : Nat} {groups : List Group} (own : level < UInt64.size)
    (carried : ∀ entry ∈ groupsFrom 0 groups, ∀ nested, entry.2.childGroups? = some nested →
      LevelsFit (level + 1) nested) : LevelsFit level groups := by
  intro depth inner inside
  cases inside with
  | itself groups => exact own
  | @carried depth _ nested _ position row there carries deeper =>
    have listed : (position, row) ∈ groupsFrom 0 groups := mem_groupsFrom_iff_stands.mpr there
    have below := carried (position, row) listed nested carries depth inner deeper
    omega

/-- Groups that are well-formed by themselves, whatever their rows carry. -/
structure WellFormed (groups : List Group) : Prop where
  /-- A key names one group. -/
  keys : ∀ (place other : Nat) (group same : Group) (key : String), groups[place]? = some group →
    groups[other]? = some same → group.key = some key → same.key = some key → place = other
  /-- An identifier names one of the rows that hold values, in whichever groups they stand. -/
  identifiers : ∀ position other row same, Stands groups position row → Stands groups other same →
    row.isPersisted = true → same.isPersisted = true → row.identifier ≠ "" →
    row.identifier = same.identifier → position = other
  choices : ∀ position row, Stands groups position row → row.rowType.hasChoices = true → row.choices ≠ []

/-- What is wrong with groups by themselves when an error is reported for them at a level. -/
inductive Fault (level : Nat) (groups : List Group) : SchemaError → Prop where
  /-- The group has the key of an earlier one. -/
  | duplicateKey {first second : Nat} {group same : Group} {key : String} (order : first < second)
      (there : groups[first]? = some group) (again : groups[second]? = some same)
      (named : group.key = some key) (alsoNamed : same.key = some key) :
      Fault level groups (.invalidField (.element .groups second) .key (.duplicateKey key))
  /-- Two rows that hold values bear the identifier, one before the other in display order. -/
  | duplicateIdentifier {first second : Position} {row same : Row} {identifier : String}
      (order : first.Before second) (there : Stands groups first row) (again : Stands groups second same)
      (persisted : row.isPersisted = true) (alsoPersisted : same.isPersisted = true)
      (named : identifier ≠ "") (bears : row.identifier = identifier)
      (alsoBears : same.identifier = identifier) :
      Fault level groups (.duplicateIdentifier identifier level first second)
  /-- The row should offer choices and has none. -/
  | emptyChoiceSet {position : Position} {row : Row} (there : Stands groups position row)
      (asked : row.rowType.hasChoices = true) (bare : row.choices = []) :
      Fault level groups (.emptyChoiceSet (.ofPosition position))

/-- Groups with a fault are not well-formed. -/
theorem Fault.not_wellFormed {level : Nat} {groups : List Group} {error : SchemaError}
    (fault : Fault level groups error) : ¬ WellFormed groups := by
  intro wellFormed
  cases fault with
  | @duplicateKey first second group same key order there again named alsoNamed =>
    have one : first = second := wellFormed.keys _ _ group same key there again named alsoNamed
    omega
  | @duplicateIdentifier first second row same identifier order there again persisted alsoPersisted named bears
      alsoBears =>
    subst bears
    have one : first = second :=
      wellFormed.identifiers _ _ row same there again persisted alsoPersisted named alsoBears.symm
    exact order.ne one
  | emptyChoiceSet there asked bare => exact wellFormed.choices _ _ there asked bare

/-! ## What an error reports -/

/-- A group has a key that is known, or that a group before it has, and the error reports that key at the place
of the group. -/
def RepeatsKey (known : List (String × Nat)) (place : Nat) (groups : List Group) (error : SchemaError) : Prop :=
  ∃ second same key, groups[second]? = some same ∧ same.key = some key ∧
    error = .invalidField (.element .groups (place + second)) .key (.duplicateKey key) ∧
    (key ∈ known.map Prod.fst ∨
      ∃ first group, first < second ∧ groups[first]? = some group ∧ group.key = some key)

/-- A key is repeated behind a first group too, whose own key may be the one that was known. -/
theorem RepeatsKey.cons {known seen : List (String × Nat)} {place : Nat} {group : Group} {rest : List Group}
    {error : SchemaError} (repeats : RepeatsKey seen (place + 1) rest error)
    (new : ∀ key ∈ seen.map Prod.fst, key ∈ known.map Prod.fst ∨ group.key = some key) :
    RepeatsKey known place (group :: rest) error := by
  obtain ⟨second, same, key, there, keyed, rfl, earlier⟩ := repeats
  refine ⟨second + 1, same, key, there, keyed, by rw [Nat.add_right_comm, Nat.add_assoc], ?_⟩
  rcases earlier with listed | ⟨first, other, order, at_, also⟩
  · exact (new key listed).imp_right fun own => ⟨0, group, Nat.succ_pos second, rfl, own⟩
  · exact Or.inr ⟨first + 1, other, Nat.succ_lt_succ order, at_, also⟩

/-- Group keys are refused at the first group that has a key again. -/
theorem indexGroupKeys_error {known : List (String × Nat)} {place : Nat} {groups : List Group}
    {error : SchemaError} (refused : indexGroupKeys known place groups = .error error) :
    RepeatsKey known place groups error := by
  induction groups generalizing known place with
  | nil => cases refused
  | cons group rest inductionHypothesis =>
    rw [indexGroupKeys] at refused
    cases named : group.key with
    | none =>
      simp only [named] at refused
      exact (inductionHypothesis refused).cons fun key listed => Or.inl listed
    | some key =>
      simp only [named] at refused
      cases found : known.lookup key with
      | some first =>
        simp only [found, Option.isSome_some, if_true] at refused
        exact ⟨0, group, key, rfl, named, (Except.error.inj refused).symm,
          Or.inl (List.mem_map_of_mem (mem_of_lookup found))⟩
      | none =>
        simp only [found, Option.isSome_none, Bool.false_eq_true, if_false] at refused
        refine (inductionHypothesis refused).cons fun other listed => ?_
        rcases List.mem_cons.mp listed with rfl | before
        · exact Or.inr named
        · exact Or.inl before

namespace Index

/-- A row is not added if the index knows its identifier for a row that holds a value, as it does itself. -/
theorem insert_error {level : Nat} {index : Index} {position : Position} {row : Row} {error : SchemaError}
    (refused : index.insert level position row = .error error) :
    row.identifier ≠ "" ∧ row.isPersisted = true ∧ ∃ first,
      index.values.lookup row.identifier = some first ∧
        error = .duplicateIdentifier row.identifier level first position := by
  rw [Index.insert] at refused
  split at refused
  · cases refused
  · rename_i named
    split at refused
    · rename_i persisted
      split at refused
      · rename_i first known
        exact ⟨named, persisted, first, known, (Except.error.inj refused).symm⟩
      · cases refused
    · split at refused <;> cases refused

/-- A row is not entered for one of three reasons. -/
theorem enter_error {level : Nat} {index : Index} {position : Position} {row : Row} {error : SchemaError}
    (refused : index.enter level (position, row) = .error error) :
    row.rowType.hasChoices = true ∧ row.choices = [] ∧ error = .emptyChoiceSet (.ofPosition position) ∨
      checkRow level row = .error error ∨ index.insert level position row = .error error := by
  rw [enter] at refused
  by_cases bare : row.rowType.hasChoices = true ∧ row.choices.isEmpty = true
  · rw [if_pos bare] at refused
    exact Or.inl ⟨bare.1, List.isEmpty_iff.mp bare.2, (Except.error.inj refused).symm⟩
  · rw [if_neg bare] at refused
    cases checked : checkRow level row with
    | error fault =>
      simp only [checked, bind, Except.bind, Except.error.injEq] at refused
      exact Or.inr (Or.inl (congrArg Except.error refused))
    | ok valid =>
      simp only [checked, bind, Except.bind] at refused
      exact Or.inr (Or.inr refused)

end Index

namespace Schema

/-- Groups are refused for a fault of their own, or for the fault of a form that one of their rows carries. -/
theorem build_refused {groups : List Group} {level : Nat} {error : SchemaError}
    (refused : build groups level = .error error) :
    Fault level groups error ∨ ∃ position row nested, Stands groups position row ∧
      row.childGroups? = some nested ∧ build nested (level + 1) = .error error := by
  cases keys : indexGroupKeys [] 0 groups with
  | error fault =>
    simp only [build, keys, bind, Except.bind, Except.error.injEq] at refused
    subst refused
    obtain ⟨second, same, key, there, named, rfl, known | ⟨first, group, order, at_, also⟩⟩ :=
      indexGroupKeys_error keys
    · cases known
    · rw [Nat.zero_add]
      exact Or.inl (.duplicateKey order at_ there also named)
  | ok places =>
    cases indexed : indexGroups level 0 .empty groups with
    | ok index => simp [build, keys, indexed, bind, Except.bind] at refused
    | error fault =>
      simp only [build, keys, indexed, bind, Except.bind, Except.error.injEq] at refused
      subst refused
      rw [Index.indexGroups_eq] at indexed
      obtain ⟨before, ⟨position, row⟩, after, middle, listed, entered, stopped⟩ := Result.foldlM_error indexed
      have there : Stands groups position row := mem_groupsFrom_iff_stands.mp (by simp [listed])
      rcases Index.enter_error stopped with ⟨asked, bare, rfl⟩ | carried | known
      · exact Or.inl (.emptyChoiceSet there asked bare)
      · obtain ⟨nested, carries, built⟩ := checkRow_error carried
        exact Or.inr ⟨position, row, nested, there, carries, built⟩
      · obtain ⟨named, persisted, first, found, rfl⟩ := Index.insert_error known
        -- The index holds the rows that were entered before, and these come first in display order.
        obtain ⟨-, -, -, rfl⟩ := Index.enterAll_ok_iff.mp entered
        have noted : (row.identifier, first) ∈ bearing true before := by
          simpa [Index.extended, Index.empty] using mem_of_lookup found
        obtain ⟨-, earlier, member, bears, alsoPersisted⟩ := mem_bearing.mp noted
        have ordered := ordered_groupsFrom 0 groups
        rw [listed] at ordered
        have order : first.Before position :=
          (List.pairwise_append.mp ordered).2.2 _ member _ List.mem_cons_self
        have stands : Stands groups first earlier := mem_groupsFrom_iff_stands.mp (by simp [listed, member])
        exact Or.inl (.duplicateIdentifier order stands there alsoPersisted persisted named bears rfl)

/-- A form that a row carries is smaller than the groups in which the row stands. -/
theorem sizeOf_carried {groups nested : List Group} {position : Position} {row : Row}
    (there : Stands groups position row) (carries : row.childGroups? = some nested) :
    sizeOf nested < sizeOf groups := by
  obtain ⟨group, found, at_⟩ := there
  have inGroups := List.sizeOf_lt_of_mem (List.mem_of_getElem? found)
  have inRows := List.sizeOf_lt_of_mem (List.mem_of_getElem? at_)
  have inGroup : sizeOf group.rows < sizeOf group := by
    obtain ⟨title, key, header, footer, rows⟩ := group
    simp only [Group.mk.sizeOf_spec]
    omega
  have inRow : sizeOf nested < sizeOf row := by
    obtain ⟨name, identifier, payload, editable, keyboard, flags⟩ := row
    cases payload with
    | multiLevel groups =>
      obtain rfl : groups = some nested := carries
      simp only [Row.mk.sizeOf_spec, Payload.multiLevel.sizeOf_spec, Option.some.sizeOf_spec]
      omega
    | propertyList single =>
      obtain ⟨only, rfl, rfl⟩ := Option.map_eq_some_iff.mp carries
      simp only [Row.mk.sizeOf_spec, Payload.propertyList.sizeOf_spec, Option.some.sizeOf_spec,
        List.cons.sizeOf_spec, List.nil.sizeOf_spec]
      omega
    | _ => cases carries
  omega

/-- Whatever is reported of groups that are refused is the fault of a form inside them. -/
theorem fault_of_refused {groups : List Group} {level : Nat} {error : SchemaError}
    (refused : build groups level = .error error) :
    ∃ depth inner, Inside depth groups inner ∧ Fault (level + depth) inner error := by
  rcases build_refused refused with own | ⟨position, row, nested, there, carries, deeper⟩
  · exact ⟨0, groups, .itself groups, own⟩
  · have smaller := sizeOf_carried there carries
    obtain ⟨depth, inner, inside, fault⟩ := fault_of_refused deeper
    have below : level + 1 + depth = level + (depth + 1) := by omega
    exact ⟨depth + 1, inner, .carried there carries inside, below ▸ fault⟩
termination_by sizeOf groups

/-- The forms inside accepted groups are well-formed. -/
theorem wellFormed_of_build {groups inner : List Group} {depth : Nat} (inside : Inside depth groups inner)
    {level : Nat} {schema : Schema} (built : build groups level = .ok schema) : WellFormed inner := by
  induction inside generalizing level schema with
  | itself groups =>
    have same : schema.groups = groups := (build_cases built).2.2.2
    have dependable := (consistent_of_build built).dependable
    subst same
    refine ⟨?_, ?_, ?_⟩
    · intro place other group twin key there again named alsoNamed
      have first := (dependable.group key place).mpr ⟨group, there, named⟩
      have second := (dependable.group key other).mpr ⟨twin, again, alsoNamed⟩
      exact Option.some.inj (first.symm.trans second)
    · intro position other row twin there again
      exact dependable.unique position row other twin (rowAt?_eq_some_iff.mpr there)
        (rowAt?_eq_some_iff.mpr again)
    · intro position row there
      exact dependable.offered position row (rowAt?_eq_some_iff.mpr there)
  | carried there carries deeper inductionHypothesis =>
    have same : schema.groups = _ := (build_cases built).2.2.2
    subst same
    obtain ⟨form, nested⟩ := (consistent_of_build built).dependable.nested _ _ _
      (rowAt?_eq_some_iff.mpr there) carries
    exact inductionHypothesis nested

/-- Groups are accepted, at whatever level, just if all forms inside them are well-formed. Whatever is
reported of groups that are refused is true of a form inside them; the level that is reported is a 64-bit
number, and counts from the level at which the groups were to be built. The levels of all forms inside the
groups must be such numbers. -/
theorem build_truthful {groups : List Group} {level : Nat} (fits : LevelsFit level groups) :
    ((∃ schema, build groups level = .ok schema) ↔
        ∀ depth inner, Inside depth groups inner → WellFormed inner) ∧
      ∀ error, build groups level = .error error →
        ∃ depth inner, Inside depth groups inner ∧ level + depth < UInt64.size ∧
          Fault (level + depth) inner error := by
  refine ⟨⟨?_, ?_⟩, ?_⟩
  · rintro ⟨schema, built⟩ depth inner inside
    exact wellFormed_of_build inside built
  · intro wellFormed
    cases built : build groups level with
    | ok schema => exact ⟨schema, rfl⟩
    | error error =>
      obtain ⟨depth, inner, inside, fault⟩ := fault_of_refused built
      exact absurd (wellFormed depth inner inside) fault.not_wellFormed
  · intro error refused
    obtain ⟨depth, inner, inside, fault⟩ := fault_of_refused refused
    exact ⟨depth, inner, inside, fits depth inner inside, fault⟩

/-- An address of which two rows bear one identifier. -/
def addressForm : List Group :=
  [⟨"Address", none, none, none, [.ofPayload "Street" "line" (.string ""), .ofPayload "Town" "line" (.string "")]⟩]

/-- A form with a row that carries the address. -/
def residentForm : List Group :=
  [⟨"Person", none, none, none, [.ofPayload "Home" "home" (.multiLevel (some addressForm))]⟩]

/-- The form is built at the greatest level but one. The level reported is that of the carried form, and it
is the greatest one. -/
theorem build_truthful_resident :
    LevelsFit (UInt64.size - 2) residentForm ∧
      build residentForm (UInt64.size - 2) =
        .error (.duplicateIdentifier "line" (UInt64.size - 1) ⟨0, 0⟩ ⟨0, 1⟩) ∧
      ¬ ∀ depth inner, Inside depth residentForm inner → WellFormed inner := by
  have address : LevelsFit (UInt64.size - 2 + 1) addressForm := by
    refine levelsFit_of_carried (by decide) ?_
    intro entry listed nested carries
    rcases List.mem_cons.mp listed with rfl | listed
    · cases carries
    · obtain rfl := List.mem_singleton.mp listed
      cases carries
  have resident : LevelsFit (UInt64.size - 2) residentForm := by
    refine levelsFit_of_carried (by decide) ?_
    intro entry listed nested carries
    obtain rfl := List.mem_singleton.mp listed
    obtain rfl := Option.some.inj carries
    exact address
  have refused : build residentForm (UInt64.size - 2) =
      .error (.duplicateIdentifier "line" (UInt64.size - 1) ⟨0, 0⟩ ⟨0, 1⟩) := by rfl
  refine ⟨resident, refused, ?_⟩
  intro wellFormed
  obtain ⟨schema, built⟩ := (build_truthful resident).1.mpr wellFormed
  rw [refused] at built
  cases built

end Schema

end SettingsForm
