import Mathlib.Data.Set.Operations
import SettingsForm.Proofs.Wire.Parts

/-!
# Documents that come back

The canonical document of groups comes back as those groups just if the payload of every row, at every depth,
is restorable (`Wire.document_faithful`); two such lists of groups never have the same document. If the
payloads might have been read from a document, the canonical document comes back or is refused
(`Wire.readGroups_document`). For groups that were themselves read from a document only dates can stand in
the way: timestamps outside the years 0 to 9999 are accepted, but turned into a text that is refused
(`Wire.roundTrip_iff`).
-/

namespace SettingsForm

namespace Wire

/-! ## Writing and reading -/

-- The induction is on the form: nested groups are reached through what a row carries.
mutual

/-- A written row comes back unchanged just if everything inside it can be restored. -/
theorem row_returns (path : Path) : ∀ {r : Row}, (∀ inner ∈ r.deep, inner.payload.Declarable) →
    Result.Returns (row path r.toValue) r (∀ inner ∈ r.deep, inner.payload.Restorable)
  | ⟨name, identifier, payload, editable, keyboard, flags⟩, declarable => by
    rw [Row.deep, List.forall_mem_cons] at declarable ⊢
    rw [row_written]
    refine Result.Returns.map ?_ fun payload => Row.mk name identifier payload editable keyboard flags
    match payload with
    | .multiLevel (some groups) =>
      rw [Payload.deep, carried_groups path _ rfl]
      refine Result.Returns.congr ?_ (and_iff_right trivial).symm
      exact (groups_return path.valueOf 0 declarable.2).map fun groups => Payload.multiLevel (some groups)
    | .propertyList (some nested) =>
      rw [Payload.deep, carried_group path _ rfl]
      refine Result.Returns.congr ?_ (and_iff_right trivial).symm
      exact (group_returns path.valueOf declarable.2).map fun nested => Payload.propertyList (some nested)
    | .multiLevel none | .propertyList none | .action =>
      exact (Result.returns_ok _).congr (iff_of_true trivial ⟨trivial, by simp [Payload.deep]⟩)
    | .plain _ | .string _ | .integer _ | .decimal _ | .boolean _ | .date _ | .multilineText _ | .richText _
    | .simpleList _ | .custom _ | .choice _ | .multiValue _ | .pickerList _ | .pickerView _ =>
      exact (carried_flat_returns path _ rfl declarable.1).congr
        (and_iff_left (by simp [Payload.deep])).symm

/-- A written group comes back unchanged just if everything inside it can be restored. -/
theorem group_returns (path : Path) : ∀ {g : Group}, (∀ inner ∈ g.deep, inner.payload.Declarable) →
    Result.Returns (group path g.toValue) g (∀ inner ∈ g.deep, inner.payload.Restorable)
  | ⟨title, key, header, footer, rows⟩, declarable => by
    rw [Group.deep] at declarable ⊢
    rw [group_written]
    exact (rows_return path.rowsOf 0 declarable).map fun rows => Group.mk title key header footer rows

/-- Written rows come back unchanged just if everything inside them can be restored, wherever they stand in
their list. -/
theorem rows_return (path : Path) (index : Nat) : ∀ {rows : List Row},
    (∀ inner ∈ deepRows rows, inner.payload.Declarable) →
      Result.Returns (rowItems path index (rowValues rows)) rows
        (∀ inner ∈ deepRows rows, inner.payload.Restorable)
  | [], _ => (Result.returns_ok []).congr (iff_of_true trivial (by simp [deepRows]))
  | first :: rest, declarable => by
    rw [deepRows, List.forall_mem_append] at declarable ⊢
    exact (row_returns (path.element index) declarable.1).cons (rows_return path (index + 1) declarable.2)

/-- Written groups come back unchanged just if everything inside them can be restored. -/
theorem groups_return (path : Path) (index : Nat) : ∀ {groups : List Group},
    (∀ inner ∈ deepGroups groups, inner.payload.Declarable) →
      Result.Returns (groupItems path index (groupValues groups)) groups
        (∀ inner ∈ deepGroups groups, inner.payload.Restorable)
  | [], _ => (Result.returns_ok []).congr (iff_of_true trivial (by simp [deepGroups]))
  | first :: rest, declarable => by
    rw [deepGroups, List.forall_mem_append] at declarable ⊢
    exact (group_returns (path.element index) declarable.1).cons
      (groups_return path (index + 1) declarable.2)

end

/-- The canonical document of groups is read as those groups if all their rows can be restored, and is
refused otherwise. -/
theorem readGroups_document {groups : List Group}
    (declarable : ∀ inner ∈ deepGroups groups, inner.payload.Declarable) :
    Result.Returns (readGroups (document groups)) groups
      (∀ inner ∈ deepGroups groups, inner.payload.Restorable) :=
  groups_return .groups 0 declarable

/-! ## What is read from documents -/

/-- What is read for a row without a nested form has none. -/
theorem flatPayload_deep {path : Path} {t : RowType} {name identifier : String} {fields : Mapping}
    {payload : Payload} (read : flatPayload path t name identifier fields = .ok payload) :
    payload.deep = [] := by
  rw [flatPayload, Result.bind_eq_ok_iff] at read
  obtain ⟨raw, -, read⟩ := read
  split at read
  case h_4 =>
    obtain ⟨value, rfl⟩ := leafPayload_holding read
    unfold holding
    split <;> rfl
  all_goals
    obtain ⟨list, -, same⟩ := Result.bind_eq_ok_iff.mp read
    cases same
    rfl

/-- What is read from the value, as groups or rows or as a list of these, has no payload at any depth that a
document cannot declare. -/
structure Declares (value : Value) : Prop where
  groups : ∀ {path groups}, groupList path value = .ok groups →
    ∀ inner ∈ deepGroups groups, inner.payload.Declarable
  group : ∀ {path g}, group path value = .ok g → ∀ inner ∈ g.deep, inner.payload.Declarable
  rows : ∀ {path rows}, rowList path value = .ok rows → ∀ inner ∈ deepRows rows, inner.payload.Declarable
  row : ∀ {path r}, row path value = .ok r → ∀ inner ∈ r.deep, inner.payload.Declarable

/-- What the elements of a list declare is what the list declares. -/
theorem declares_list {items : List Value} (elements : ∀ item ∈ items, Declares item) :
    Declares (.list items) where
  groups read inner member := by
    rw [groupList, groupItems_eq] at read
    rw [deepGroups_eq, List.mem_flatMap] at member
    obtain ⟨g, among, deep⟩ := member
    obtain ⟨item, listed, index, alone⟩ := mem_of_each read among
    exact (elements item listed).group alone inner deep
  rows read inner member := by
    rw [rowList, rowItems_eq] at read
    rw [deepRows_eq, List.mem_flatMap] at member
    obtain ⟨r, among, deep⟩ := member
    obtain ⟨item, listed, index, alone⟩ := mem_of_each read among
    exact (elements item listed).row alone inner deep
  group read := by cases read
  row read := by cases read

/-- What a row carries can be declared if what its value declares can. -/
theorem carried_declarable {fields : Mapping} (within : ∀ value, Mapping.get? "value" fields = some value →
    Declares value) {path : Path} {t : RowType} {name identifier : String} {payload : Payload}
    (read : carried path t name identifier fields = .ok payload) :
    payload.Declarable ∧ ∀ inner ∈ payload.deep, inner.payload.Declarable := by
  unfold carried at read
  split at read
  · rw [groupsValue_eq] at read
    obtain ⟨form, optional, same⟩ := Result.bind_eq_ok_iff.mp read
    cases same
    rcases optionally_eq_ok optional with rfl | ⟨value, groups, holds, found, rfl⟩
    · exact ⟨trivial, by simp [Payload.deep]⟩
    · exact ⟨trivial, (within value holds).groups found⟩
  · rw [groupValue_eq] at read
    obtain ⟨form, optional, same⟩ := Result.bind_eq_ok_iff.mp read
    cases same
    rcases optionally_eq_ok optional with rfl | ⟨value, g, holds, found, rfl⟩
    · exact ⟨trivial, by simp [Payload.deep]⟩
    · exact ⟨trivial, (within value holds).group found⟩
  · cases read
    exact ⟨trivial, by simp [Payload.deep]⟩
  · exact ⟨flatPayload_declarable read, by simp [flatPayload_deep read]⟩

/-- What the fields of an object declare is what the object declares. -/
theorem declares_mapping {fields : Mapping}
    (within : ∀ name value, Mapping.get? name fields = some value → Declares value) :
    Declares (.mapping fields) where
  groups read := by cases read
  rows read := by cases read
  group read := by
    simp only [group, rowsField_eq, Result.bind_eq_ok_iff, Except.ok.injEq] at read
    obtain ⟨title, -, rows, ⟨list, holds, found⟩, key, -, header, -, footer, -, rfl⟩ := read
    rw [Group.deep]
    exact (within "rows" list (required_eq_ok_iff.mp holds)).rows found
  row read := by
    simp only [row_eq, Result.bind_eq_ok_iff, Except.ok.injEq] at read
    obtain ⟨name, -, identifier, -, t, -, editable, -, keyboard, -, flags, -, payload, found, rfl⟩ := read
    rw [Row.deep, List.forall_mem_cons]
    exact carried_declarable (within "value") found

/-- Every value declares what a document can declare, from its parts up. -/
theorem declares (value : Value) : Declares value := by
  induction value using Value.induction with
  | list items elements => exact declares_list elements
  | mapping fields within => exact declares_mapping within
  | leaf value noList noObject =>
    cases value with
    | list items => cases noList
    | mapping fields => cases noObject
    | _ => constructor <;> exact fun read => by cases read

/-- Nothing is read from a document that no document can declare. -/
theorem readGroups_declarable {value : Value} {groups : List Group} (read : readGroups value = .ok groups) :
    ∀ inner ∈ deepGroups groups, inner.payload.Declarable := by
  unfold readGroups at read
  split at read
  · obtain ⟨list, -, read⟩ := Result.bind_eq_ok_iff.mp read
    exact (declares list).groups read
  · exact (declares value).groups read

/-! ## Canonical documents -/

/-- The canonical document of groups whose rows can all be restored is read as those groups. -/
theorem readGroups_restored {groups : List Group}
    (restorable : ∀ inner ∈ deepGroups groups, inner.payload.Restorable) :
    readGroups (document groups) = .ok groups := by
  have declarable : ∀ inner ∈ deepGroups groups, inner.payload.Declarable :=
    fun inner member => declarable_of_restorable (restorable inner member)
  exact (readGroups_document declarable groups).mpr ⟨rfl, restorable⟩

/-- Groups come back from their canonical document just if all their rows can be restored: whatever comes
back was read from a document. So groups with the same canonical document are the same if their rows can be
restored. -/
theorem document_faithful :
    (∀ groups, readGroups (document groups) = .ok groups ↔
      ∀ inner ∈ deepGroups groups, inner.payload.Restorable) ∧
      Set.InjOn document {groups | ∀ inner ∈ deepGroups groups, inner.payload.Restorable} := by
  constructor
  · intro groups
    constructor
    · intro read
      exact ((readGroups_document (readGroups_declarable read) groups).mp read).2
    · exact readGroups_restored
  · intro groups restorable others also same
    have first : readGroups (document groups) = .ok groups := readGroups_restored restorable
    have second : readGroups (document others) = .ok others := readGroups_restored also
    rw [same] at first
    exact Except.ok.inj (first.symm.trans second)

/-- Groups of rows of every kind, with values and nested forms that are present, empty and absent. -/
def catalogue : List Group :=
  [⟨"Values", some "", none, some "Footer",
    [.ofPayload "" "" (.plain (.mapping [("k", .list [.null])])), .ofPayload "Text" "text" (.string ""),
      .ofPayload "Count" "count" (.integer (some (-1))), .ofPayload "Unset" "unset" (.integer none),
      .ofPayload "Ratio" "ratio" (.decimal (some (.zero true))), .ofPayload "Free" "free" (.decimal none),
      .ofPayload "On" "on" (.boolean true), .ofPayload "Due" "due" (.date (some "2024-02-29")),
      .ofPayload "Never" "never" (.date none), .ofPayload "Notes" "notes" (.multilineText "a\nb"),
      .ofPayload "Rich" "rich" (.richText ""), .ofPayload "Tags" "tags" (.simpleList [.bool true, .string ""]),
      .ofPayload "Own" "own" (.custom .null), .ofPayload "Pick" "pick" (.choice (.list [.null]))]⟩,
    ⟨"Choices", none, some "", none,
      [.ofPayload "One" "one" (.multiValue [⟨"", .null⟩]),
        .ofPayload "List" "list" (.pickerList [⟨"A", .string ""⟩, ⟨"A", .mapping []⟩]),
        .ofPayload "View" "view" (.pickerView [⟨"B", .list []⟩])]⟩,
    ⟨"Nested", some "nested", none, none,
      [.ofPayload "Later" "later" (.multiLevel none), .ofPayload "Empty" "empty" (.multiLevel (some [])),
        .ofPayload "Levels" "levels" (.multiLevel (some [⟨"Inner", none, none, none,
          [.ofPayload "Due" "due" (.date (some "1999-12-31"))]⟩])),
        .ofPayload "Open" "open" (.propertyList none),
        .ofPayload "Sheet" "sheet" (.propertyList (some ⟨"Sheet", none, none, none, []⟩)),
        (Row.ofPayload "Save" "save" .action).readOnly]⟩]

/-- The groups of every kind come back. -/
theorem document_faithful_catalogue :
    (∀ inner ∈ deepGroups catalogue, inner.payload.Restorable) ∧
      readGroups (document catalogue) = .ok catalogue := by
  have restorable : ∀ inner ∈ deepGroups catalogue, inner.payload.Restorable := by
    have leap : DateText.normalize? "2024-02-29" = some "2024-02-29" := by rfl
    have last : DateText.normalize? "1999-12-31" = some "1999-12-31" := by rfl
    have finite : (Binary64.zero true).isFinite = true := by decide
    simp [catalogue, deepGroups, Group.deep, deepRows, Row.deep, Payload.deep, Row.ofPayload, Row.readOnly,
      Payload.Restorable, leap, last, finite, Value.isScalar]
  exact ⟨restorable, (document_faithful.1 catalogue).mpr restorable⟩

/-- The canonical document of groups that were read is read as those groups and no others. It is refused just
if a date row at some depth holds the text of a timestamp before the year 0 or after the year 9999. -/
theorem roundTrip_iff {value : Value} {groups : List Group} (read : readGroups value = .ok groups)
    (others : List Group) :
    readGroups (document groups) = .ok others ↔ groups = others ∧
      ∀ inner ∈ deepGroups groups, ∀ text, inner.payload = .date (some text) → ¬ DateText.Remote text := by
  have declarable := readGroups_declarable read
  have near := forall₂_congr fun inner member => restorable_iff (declarable inner member)
  exact (readGroups_document declarable).congr near others

/-- A document of one date row that declares a timestamp. -/
def datedDocument (seconds : Number) : Value :=
  .list [.mapping [("rows", .list [.mapping [("edit", .bool true), ("identifier", .string "d"),
    ("name", .string "D"), ("type", .string "date"), ("value", .number seconds)]]), ("title", .string "T")]]

/-- The form of one date row that holds a text. -/
def datedForm (text : String) : List Group :=
  [⟨"T", none, none, none, [.ofPayload "D" "d" (.date (some text))]⟩]

/-- The last second of the year 9999 comes back. -/
theorem roundTrip_last_second :
    readGroups (datedDocument (.integer 253402300799 (by decide))) =
        .ok (datedForm "9999-12-31T23:59:59+00:00") ∧
      ∀ inner ∈ deepGroups (datedForm "9999-12-31T23:59:59+00:00"), ∀ text,
        inner.payload = .date (some text) → ¬ DateText.Remote text := by
  have read : readGroups (datedDocument (.integer 253402300799 (by decide))) =
      .ok (datedForm "9999-12-31T23:59:59+00:00") := by rfl
  exact ⟨read, ((roundTrip_iff read _).mp (by rfl)).2⟩

/-- The second after it is accepted and turned into a text that is refused. -/
theorem next_second_refused :
    readGroups (datedDocument (.integer 253402300800 (by decide))) =
        .ok (datedForm "+10000-01-01T00:00:00+00:00") ∧
      ∃ error, readGroups (document (datedForm "+10000-01-01T00:00:00+00:00")) = .error error :=
  ⟨by rfl, _, by rfl⟩

end Wire

end SettingsForm
