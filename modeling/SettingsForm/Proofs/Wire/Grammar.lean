import SettingsForm.Proofs.Wire.Parts

/-!
# The grammar of documents

The shape of a document is told here without reading it: by what each field of an object may hold, for groups,
rows and choices at every depth. A document is read just if it has that shape (`Wire.readGroups_ok_iff`), and
so is every part of it, wherever it stands.

A field may be missing, null, or filled, and these three are not the same everywhere. A missing text that may
be missing is no different from null, but a missing keyboard gives way to its early name, which a null does
not; and a row that needs a value may well have null.
-/

namespace SettingsForm

namespace Wire

/-! ## Shapes -/

/-- The field is there, and what it holds has the shape. -/
def Present (name : String) (fields : Mapping) (shape : Value → Prop) : Prop :=
  ∃ value, Mapping.get? name fields = some value ∧ shape value

/-- The field is missing or null, or what it holds has the shape. -/
def Optional (name : String) (fields : Mapping) (shape : Value → Prop) : Prop :=
  ∀ value, Mapping.get? name fields = some value → value = .null ∨ shape value

/-- A string. -/
inductive IsText : Value → Prop
  | string (s : String) : IsText (.string s)

/-- A boolean, or the integer zero or one. -/
inductive IsFlag : Value → Prop
  | bool (b : Bool) : IsFlag (.bool b)
  | zero : IsFlag (.number (.ofInt64 0))
  | one : IsFlag (.number (.ofInt64 1))

/-- The name of a type, or the code that it had in early documents. -/
inductive Names (t : RowType) : Value → Prop
  | name : Names t (.string t.name)
  | code {n : Number} {code : Nat} (integer : n.toNat? = some code) (known : RowType.ofCode? code = some t) :
      Names t (.number n)

/-- The name of a keyboard, or its place among the keyboards. -/
inductive IsKeyboard : Value → Prop
  | name (k : Keyboard) : IsKeyboard (.string k.name)
  | code {n : Number} {code : Nat} (integer : n.toNat? = some code) (known : code < Keyboard.all.length) :
      IsKeyboard (.number n)

/-- An object with a name and a value, which may be anything. -/
inductive IsChoice : Value → Prop
  | object {fields : Mapping} (name : Present "name" fields IsText)
      (value : Present "value" fields fun _ => True) : IsChoice (.mapping fields)

/-- A list of choices, at least one. -/
inductive IsChoices : Value → Prop
  | list {items : List Value} (offers : items ≠ []) (each : ∀ item ∈ items, IsChoice item) :
      IsChoices (.list items)

/-- What a row without a nested form may declare: a set of choices, anything, or else null and what the
contract of its type converts, whatever the row and its key. -/
def IsDeclared (t : RowType) (raw : Value) : Prop :=
  match t with
  | .multiValue | .pickerList | .pickerView => IsChoices raw
  | .plain | .custom | .choice => True
  | t => raw = .null ∨ ∀ key row, ∃ value, (Contract.builtin t).coerce key row raw true = .ok value

/-- The texts of a group. -/
structure Titled (fields : Mapping) : Prop where
  title : Present "title" fields IsText
  key : Optional "key" fields IsText
  header : Optional "header" fields IsText
  footer : Optional "footer" fields IsText

/-- What every row has besides its type and its value. -/
structure Labelled (fields : Mapping) : Prop where
  name : Present "name" fields IsText
  identifier : Present "identifier" fields IsText
  edit : Present "edit" fields IsFlag
  keyboard : Optional "keyboardHint" fields IsKeyboard
  earlyKeyboard : Mapping.get? "keyboardHint" fields = none → Optional "kbType" fields IsKeyboard
  flags : Optional "flags" fields IsText

mutual

/-- A list of groups. -/
inductive IsGroups : Value → Prop
  | list {items : List Value} (each : ∀ item ∈ items, IsGroup item) : IsGroups (.list items)

/-- An object with a title and with rows. -/
inductive IsGroup : Value → Prop
  | object {fields : Mapping} {list : Value} (titled : Titled fields)
      (holds : Mapping.get? "rows" fields = some list) (rows : IsRows list) : IsGroup (.mapping fields)

/-- A list of rows. -/
inductive IsRows : Value → Prop
  | list {items : List Value} (each : ∀ item ∈ items, IsRow item) : IsRows (.list items)

/-- An object with what every row has, a type, and the value that a row of this type has to carry. -/
inductive IsRow : Value → Prop
  | object {fields : Mapping} {t : RowType} (labelled : Labelled fields)
      (typed : Present "type" fields (Names t)) (carries : Carries fields t) : IsRow (.mapping fields)

/-- What the value of a row has to be, by the type of the row. Nested forms may be left to the host. -/
inductive Carries : Mapping → RowType → Prop
  | groups {fields : Mapping} (nested : ∀ value, Mapping.get? "value" fields = some value → value ≠ .null →
      IsGroups value) : Carries fields .multiLevel
  | group {fields : Mapping} (nested : ∀ value, Mapping.get? "value" fields = some value → value ≠ .null →
      IsGroup value) : Carries fields .propertyList
  | action {fields : Mapping} : Carries fields .action
  | value {fields : Mapping} {t : RowType} (flat : t.isStructural = false)
      (declared : Present "value" fields (IsDeclared t)) : Carries fields t

end

/-- A list of groups, or an object that holds one. -/
inductive IsDocument : Value → Prop
  | list {document : Value} (groups : IsGroups document) : IsDocument document
  | object {fields : Mapping} {list : Value} (holds : Mapping.get? "groups" fields = some list)
      (groups : IsGroups list) : IsDocument (.mapping fields)

end Wire

/-! ## Names and codes -/

/-- Only integers are read as natural numbers, not the floating-point numbers that equal one. -/
theorem Number.toNat?_eq_some_iff {n : Number} {k : Nat} :
    n.toNat? = some k ↔ ∃ inRange, n = .integer k inRange := by
  cases n with
  | real x finite => simp [Number.toNat?]
  | integer i inRange =>
    simp only [Number.toNat?, Option.ite_none_right_eq_some, Option.some.injEq, Number.integer.injEq,
      exists_prop]
    constructor
    · rintro ⟨least, same⟩
      have equal : i = (k : Int) := by omega
      exact ⟨equal ▸ inRange, equal⟩
    · rintro ⟨-, same⟩
      omega

/-- A type is read from its name and from its early code, and from nothing else. -/
theorem RowType.ofValue?_eq_some_iff {t : RowType} {value : Value} :
    RowType.ofValue? value = some t ↔ Wire.Names t value := by
  constructor
  · intro read
    cases value with
    | string s =>
      obtain rfl : t.name = s := by simpa using List.find?_some read
      exact .name
    | number n =>
      obtain ⟨code, integer, known⟩ := Option.bind_eq_some_iff.mp read
      exact .code integer known
    | _ => cases read
  · intro names
    cases names with
    | name => exact RowType.ofName?_name t
    | code integer known => exact Option.bind_eq_some_iff.mpr ⟨_, integer, known⟩

/-- A keyboard is read from its name, from its place and from null. -/
theorem Keyboard.isSome_ofValue?_iff {value : Value} :
    (Keyboard.ofValue? value).isSome = true ↔ value = .null ∨ Wire.IsKeyboard value := by
  constructor
  · intro read
    obtain ⟨k, read⟩ := Option.isSome_iff_exists.mp read
    cases value with
    | null => exact Or.inl rfl
    | string s =>
      obtain rfl : k.name = s := by simpa using List.find?_some read
      exact Or.inr (.name k)
    | number n =>
      obtain ⟨code, integer, known⟩ := Option.bind_eq_some_iff.mp read
      obtain ⟨inside, -⟩ := List.getElem?_eq_some_iff.mp known
      exact Or.inr (.code integer inside)
    | _ => cases read
  · rintro (rfl | ⟨k⟩ | ⟨integer, known⟩)
    · rfl
    · rw [Keyboard.ofValue?_name, Option.isSome_some]
    · rw [Keyboard.ofValue?, integer, Option.bind_some, List.getElem?_eq_getElem known, Option.isSome_some]

namespace Wire

/-! ## Single fields -/

/-- A flag is read from a boolean and from the integers zero and one. The numbers `0.0` and `1.0` are not
read. -/
theorem isSome_flag?_iff {value : Value} : (flag? value).isSome = true ↔ IsFlag value := by
  constructor
  · intro read
    cases value with
    | bool b => exact .bool b
    | number n =>
      simp only [flag?] at read
      split at read
      · rename_i zero
        obtain ⟨inRange, rfl⟩ := Number.toNat?_eq_some_iff.mp zero
        exact .zero
      · rename_i one
        obtain ⟨inRange, rfl⟩ := Number.toNat?_eq_some_iff.mp one
        exact .one
      · cases read
    | _ => cases read
  · intro flag
    cases flag <;> rfl

section

variable {path : Path} {fields : Mapping}

/-- A text that has to be there is read just if it is there and is a string. -/
theorem requiredString_succeeds_iff {field : Field} :
    Result.Succeeds (requiredString path field fields) ↔ Present field.label fields IsText := by
  rw [requiredString, Result.succeeds_bind_iff]
  refine exists_congr fun value => and_congr required_eq_ok_iff ?_
  cases value with
  | string s => exact iff_of_true (Result.succeeds_ok s) (.string s)
  | _ => exact iff_of_false (Result.not_succeeds_error _) (by rintro ⟨⟩)

/-- A text that may be missing is read unless it is something other than a string or null. -/
theorem optionalString_succeeds_iff {field : Field} :
    Result.Succeeds (optionalString path field fields) ↔ Optional field.label fields IsText := by
  rw [optionalString, Optional]
  cases Mapping.get? field.label fields with
  | none => exact iff_of_true (Result.succeeds_ok none) (by simp)
  | some value =>
    simp only [Option.some.injEq, forall_eq']
    cases value with
    | null => exact iff_of_true (Result.succeeds_ok none) (Or.inl rfl)
    | string s => exact iff_of_true (Result.succeeds_ok (some s)) (Or.inr (.string s))
    | _ => exact iff_of_false (Result.not_succeeds_error _) (by rintro (⟨⟨⟩⟩ | ⟨⟨⟩⟩))

/-- The row has the type that the field names. -/
theorem rowType_eq_ok_iff {t : RowType} :
    rowType path fields = .ok t ↔ Present "type" fields (Names t) := by
  rw [rowType, Result.bind_eq_ok_iff]
  refine exists_congr fun found => and_congr required_eq_ok_iff ?_
  rw [← RowType.ofValue?_eq_some_iff]
  cases RowType.ofValue? found <;> simp

/-- The flag that tells whether a row can be edited has to be there. -/
theorem editable_succeeds_iff : Result.Succeeds (editable path fields) ↔ Present "edit" fields IsFlag := by
  rw [editable, Result.succeeds_bind_iff]
  refine exists_congr fun found => and_congr required_eq_ok_iff ?_
  rw [← isSome_flag?_iff]
  cases flag? found with
  | none => exact iff_of_false (Result.not_succeeds_error _) (by simp)
  | some b => exact iff_of_true (Result.succeeds_ok b) rfl

/-- The early name of the keyboard counts where the current one is missing. -/
theorem keyboard_succeeds_iff : Result.Succeeds (keyboard path fields) ↔
    Optional "keyboardHint" fields IsKeyboard ∧
      (Mapping.get? "keyboardHint" fields = none → Optional "kbType" fields IsKeyboard) := by
  have read {found : Value}
      (chosen : (Mapping.get? "keyboardHint" fields).or (Mapping.get? "kbType" fields) = some found) :
      Result.Succeeds (keyboard path fields) ↔ found = .null ∨ IsKeyboard found := by
    simp only [← Keyboard.isSome_ofValue?_iff, keyboard, chosen]
    cases Keyboard.ofValue? found with
    | none => exact iff_of_false (Result.not_succeeds_error _) (by simp)
    | some k => exact iff_of_true (Result.succeeds_ok k) rfl
  rw [Optional, Optional]
  cases hint : Mapping.get? "keyboardHint" fields with
  | some found => simpa using read (by rw [hint, Option.some_or])
  | none =>
    cases early : Mapping.get? "kbType" fields with
    | some found => simpa using read (by rw [hint, early, Option.none_or])
    | none =>
      simp only [keyboard, hint, early, Option.or_none]
      exact iff_of_true (Result.succeeds_ok Keyboard.general) (by simp)

end

/-! ## Values of rows -/

/-- What is read from a field that has to be there is read if the content of the field has the shape. -/
theorem required_succeeds_iff {α : Type} {path : Path} {field : Field} {fields : Mapping} {next : Value → Reading α}
    {shape : Value → Prop} (content : ∀ value, Mapping.get? field.label fields = some value →
      (Result.Succeeds (next value) ↔ shape value)) :
    Result.Succeeds (required path field fields >>= next) ↔ Present field.label fields shape := by
  rw [Result.succeeds_bind_iff]
  exact exists_congr fun value => (and_congr_left' required_eq_ok_iff).trans (and_congr_right (content value))

/-- What is read from a field that may be missing is read if the content of the field has the shape. -/
theorem optionally_succeeds_iff {α : Type} {name : String} {fields : Mapping} {read : Value → Reading α}
    {shape : Value → Prop} (content : ∀ value, Mapping.get? name fields = some value →
      (Result.Succeeds (read value) ↔ shape value)) :
    Result.Succeeds (optionally read (Mapping.get? name fields)) ↔ Optional name fields shape := by
  rw [Optional]
  cases holds : Mapping.get? name fields with
  | none => exact iff_of_true (Result.succeeds_ok none) (by rintro _ ⟨⟩)
  | some value =>
    simp only [Option.some.injEq, forall_eq']
    by_cases null : value = .null
    · subst null
      exact iff_of_true (Result.succeeds_ok none) (Or.inl rfl)
    · rw [optionally_some null, Result.succeeds_map_iff, content value holds, or_iff_right null]

/-- A choice is read just from an object with a name and a value. -/
theorem choice_succeeds_iff {path : Path} {item : Value} :
    Result.Succeeds (choice path item) ↔ IsChoice item := by
  cases item with
  | mapping fields =>
    have value : ∀ name, Result.Succeeds (required path .value fields >>= fun value =>
        (.ok ⟨name, value⟩ : Reading Choice)) ↔ Present "value" fields fun _ => True := by
      intro name
      rw [Result.succeeds_map_iff]
      simp only [Result.Succeeds, required_eq_ok_iff, Present, and_true]
      rfl
    rw [choice, Result.succeeds_bind_and value, requiredString_succeeds_iff]
    constructor
    · rintro ⟨named, given⟩
      exact .object named given
    · rintro ⟨named, given⟩
      exact ⟨named, given⟩
  | _ => exact iff_of_false (Result.not_succeeds_error _) (by rintro ⟨⟩)

/-- Choices are read just from a list that has some. -/
theorem choices_succeeds_iff {path : Path} {raw : Value} :
    Result.Succeeds (choices path raw) ↔ IsChoices raw := by
  cases raw with
  | list items =>
    cases items with
    | nil =>
      refine iff_of_false (Result.not_succeeds_error _) ?_
      rintro ⟨offers, -⟩
      exact offers rfl
    | cons item rest =>
      have read : Result.Succeeds (choices path (.list (item :: rest))) ↔
          ∀ entry ∈ item :: rest, IsChoice entry := by
        rw [choices, choiceList_eq]
        · refine each_succeeds_iff ?_ 0
          intro entry _ index
          exact choice_succeeds_iff
        · exact List.cons_ne_nil item rest
      rw [read]
      constructor
      · exact .list (List.cons_ne_nil item rest)
      · rintro ⟨-, entries⟩
        exact entries
  | _ => exact iff_of_false (Result.not_succeeds_error _) (by rintro ⟨⟩)

/-- Where the contract converts without regard to the row and its key, the row that is being read takes what any
row takes. -/
theorem leafPayload_converting {path : Path} {t : RowType} {name identifier : String} {raw : Value}
    {converted : Option Value} {expected : Expected} (converts : t ≠ .plain ∧ t ≠ .custom ∧ t ≠ .choice)
    (conversion : ∀ key row, (Contract.builtin t).coerce key row raw true =
      converted.elim (.error (.typeMismatch key expected raw)) .ok) :
    Result.Succeeds (leafPayload path t name identifier raw) ↔
      raw = .null ∨ ∀ key row, ∃ value, (Contract.builtin t).coerce key row raw true = .ok value := by
  by_cases given : raw = .null
  · subst given
    rw [leafPayload_null]
    exact iff_of_true (Result.succeeds_ok _) (Or.inl rfl)
  · rw [leafPayload_converted converts given, Result.succeeds_map_iff, declared_eq (conversion identifier _),
      or_iff_right given]
    cases converted with
    | none =>
      refine iff_of_false (Result.not_succeeds_error _) ?_
      intro accepted
      obtain ⟨value, taken⟩ := accepted identifier (Row.ofPayload name identifier (.plain .null))
      rw [conversion] at taken
      cases taken
    | some value => exact iff_of_true (Result.succeeds_ok value) fun key row => ⟨value, conversion key row⟩

/-- Whatever the row, a declared value is read if it can stand in a document for the type. -/
theorem leafPayload_succeeds_iff {path : Path} {t : RowType} {name identifier : String} {raw : Value}
    (flat : t.isStructural = false) (free : t.hasChoices = false) :
    Result.Succeeds (leafPayload path t name identifier raw) ↔ IsDeclared t raw := by
  cases t with
  | plain | custom | choice => exact iff_of_true (Result.succeeds_ok _) trivial
  | multiLevel | propertyList | action => cases flat
  | multiValue | pickerList | pickerView => cases free
  | _ => exact leafPayload_converting (by decide) fun _ _ => rfl

/-- The value of a row without a nested form has to be there, even where null will do. -/
theorem flatPayload_succeeds_iff {path : Path} {t : RowType} {name identifier : String} {fields : Mapping}
    (flat : t.isStructural = false) :
    Result.Succeeds (flatPayload path t name identifier fields) ↔ Present "value" fields (IsDeclared t) := by
  refine required_succeeds_iff fun raw _ => ?_
  cases t with
  | multiValue | pickerList | pickerView => rw [Result.succeeds_map_iff, choices_succeeds_iff, IsDeclared]
  | _ => exact leafPayload_succeeds_iff flat rfl

/-! ## Rows and groups -/

/-- The shape of a list of groups is that of its elements. -/
theorem isGroups_list_iff {items : List Value} : IsGroups (.list items) ↔ ∀ item ∈ items, IsGroup item := by
  constructor
  · rintro ⟨each⟩
    exact each
  · exact .list

/-- The shape of a list of rows is that of its elements. -/
theorem isRows_list_iff {items : List Value} : IsRows (.list items) ↔ ∀ item ∈ items, IsRow item := by
  constructor
  · rintro ⟨each⟩
    exact each
  · exact .list

/-- A group is read from its texts and its rows. -/
theorem group_of_rows {path : Path} {fields : Mapping}
    (rows : Result.Succeeds (rowsField path fields) ↔ Present "rows" fields IsRows) :
    Result.Succeeds (group path (.mapping fields)) ↔ IsGroup (.mapping fields) := by
  rw [group, Result.succeeds_bind_and fun _ => Result.succeeds_bind_and fun _ => Result.succeeds_bind_and fun _ =>
    Result.succeeds_bind_and fun _ => Result.succeeds_map_iff _, requiredString_succeeds_iff, rows]
  simp only [optionalString_succeeds_iff]
  constructor
  · rintro ⟨title, ⟨list, holds, shaped⟩, key, header, footer⟩
    exact .object ⟨title, key, header, footer⟩ holds shaped
  · rintro ⟨⟨title, key, header, footer⟩, holds, shaped⟩
    exact ⟨title, ⟨_, holds, shaped⟩, key, header, footer⟩

/-- A row carries what its type asks for, if nested forms are read as they are shaped. -/
theorem carried_succeeds_iff {path : Path} {fields : Mapping}
    (groups : Result.Succeeds (groupsValue path fields) ↔ Optional "value" fields IsGroups)
    (single : Result.Succeeds (groupValue path fields) ↔ Optional "value" fields IsGroup) (t : RowType)
    (name identifier : String) :
    Result.Succeeds (carried path t name identifier fields) ↔ Carries fields t := by
  cases t with
  | multiLevel =>
    rw [carried, Result.succeeds_map_iff, groups]
    constructor
    · intro nested
      exact .groups fun value holds given => (nested value holds).resolve_left given
    · intro carries value holds
      cases carries with
      | groups nested => exact or_iff_not_imp_left.mpr (nested value holds)
      | value flat declared => cases flat
  | propertyList =>
    rw [carried, Result.succeeds_map_iff, single]
    constructor
    · intro nested
      exact .group fun value holds given => (nested value holds).resolve_left given
    · intro carries value holds
      cases carries with
      | group nested => exact or_iff_not_imp_left.mpr (nested value holds)
      | value flat declared => cases flat
  | action =>
    rw [carried]
    exact iff_of_true (Result.succeeds_ok _) .action
  | _ =>
    rw [carried_flat rfl, flatPayload_succeeds_iff rfl]
    constructor
    · intro given
      exact .value rfl given
    · intro carries
      cases carries with
      | value flat given => exact given

/-- A row is read from its labels, its type and what it carries. -/
theorem row_of_carried {path : Path} {fields : Mapping}
    (carries : ∀ t name identifier,
      Result.Succeeds (carried path t name identifier fields) ↔ Carries fields t) :
    Result.Succeeds (row path (.mapping fields)) ↔ IsRow (.mapping fields) := by
  have others : ∀ t name identifier, Result.Succeeds (do
      let editable ← editable path fields
      let keyboard ← keyboard path fields
      let flags ← optionalString path .flags fields
      let payload ← carried path t name identifier fields
      .ok (Row.mk name identifier payload editable keyboard (flags.getD "")) : Reading Row) ↔
        Result.Succeeds (editable path fields) ∧ Result.Succeeds (keyboard path fields) ∧
          Result.Succeeds (optionalString path .flags fields) ∧ Carries fields t := by
    intro t name identifier
    exact Result.succeeds_bind_and fun _ => Result.succeeds_bind_and fun _ => Result.succeeds_bind_and fun _ =>
      (Result.succeeds_map_iff _).trans (carries t name identifier)
  rw [row_eq, Result.succeeds_bind_and fun name => Result.succeeds_bind_and fun identifier =>
    Result.succeeds_bind_iff.trans (exists_congr fun t => and_congr rowType_eq_ok_iff (others t name identifier))]
  simp only [requiredString_succeeds_iff, optionalString_succeeds_iff, editable_succeeds_iff,
    keyboard_succeeds_iff]
  constructor
  · rintro ⟨name, identifier, t, typed, edit, ⟨keyboard, early⟩, flags, carries⟩
    exact .object ⟨name, identifier, edit, keyboard, early, flags⟩ typed carries
  · rintro ⟨⟨name, identifier, edit, keyboard, early, flags⟩, typed, carries⟩
    exact ⟨name, identifier, _, typed, edit, ⟨keyboard, early⟩, flags, carries⟩

/-! ## Documents -/

/-- Groups and rows are read just from what has their shape, wherever it stands, and so are lists of these. -/
structure Told (value : Value) : Prop where
  groups : ∀ path, Result.Succeeds (groupList path value) ↔ IsGroups value
  group : ∀ path, Result.Succeeds (group path value) ↔ IsGroup value
  rows : ∀ path, Result.Succeeds (rowList path value) ↔ IsRows value
  row : ∀ path, Result.Succeeds (row path value) ↔ IsRow value

/-- A list is read element by element, so it is told if its elements are. -/
theorem told_list {items : List Value} (elements : ∀ item ∈ items, Told item) : Told (.list items) where
  groups path := by
    rw [groupList, groupItems_eq, isGroups_list_iff]
    exact each_succeeds_iff (fun item member index => (elements item member).group (path.element index)) 0
  rows path := by
    rw [rowList, rowItems_eq, isRows_list_iff]
    exact each_succeeds_iff (fun item member index => (elements item member).row (path.element index)) 0
  group _ := iff_of_false (Result.not_succeeds_error _) (by rintro ⟨⟩)
  row _ := iff_of_false (Result.not_succeeds_error _) (by rintro ⟨⟩)

/-- An object is read by its fields, so it is told if what they hold is. -/
theorem told_mapping {fields : Mapping}
    (within : ∀ name value, Mapping.get? name fields = some value → Told value) : Told (.mapping fields) where
  groups _ := iff_of_false (Result.not_succeeds_error _) (by rintro ⟨⟩)
  rows _ := iff_of_false (Result.not_succeeds_error _) (by rintro ⟨⟩)
  group path := by
    refine group_of_rows ?_
    rw [rowsField_eq]
    exact required_succeeds_iff fun list holds => (within "rows" list holds).rows path.rowsOf
  row path := by
    refine row_of_carried (carried_succeeds_iff ?_ ?_)
    · rw [groupsValue_eq]
      exact optionally_succeeds_iff fun value holds => (within "value" value holds).groups path.valueOf
    · rw [groupValue_eq]
      exact optionally_succeeds_iff fun value holds => (within "value" value holds).group path.valueOf

/-- Every value is told, from its parts up. -/
theorem told (value : Value) : Told value := by
  induction value using Value.induction with
  | list items elements => exact told_list elements
  | mapping fields within => exact told_mapping within
  | leaf value noList noObject =>
    cases value with
    | list items => cases noList
    | mapping fields => cases noObject
    | _ =>
      constructor <;> exact fun _ => iff_of_false (Result.not_succeeds_error _) (by rintro ⟨⟩)

/-- Groups are read just from a list of groups, at whatever place. -/
theorem groupList_succeeds_iff (path : Path) {value : Value} :
    Result.Succeeds (groupList path value) ↔ IsGroups value :=
  (told value).groups path

/-- A document is read just if it has the shape of one. -/
theorem readGroups_ok_iff (document : Value) :
    (∃ groups, readGroups document = .ok groups) ↔ IsDocument document := by
  cases document with
  | mapping fields =>
    have wrapped : Result.Succeeds (readGroups (.mapping fields)) ↔ Present "groups" fields IsGroups := by
      rw [readGroups, Result.succeeds_bind_iff]
      exact exists_congr fun value => and_congr required_eq_ok_iff (groupList_succeeds_iff .groups)
    refine wrapped.trans ?_
    constructor
    · rintro ⟨value, holds, shaped⟩
      exact .object holds shaped
    · intro shaped
      cases shaped with
      | list groups => cases groups
      | object holds groups => exact ⟨_, holds, groups⟩
  | _ =>
    refine Iff.trans (groupList_succeeds_iff .groups) ?_
    constructor
    · exact .list
    · rintro ⟨groups⟩
      exact groups

end Wire

end SettingsForm
