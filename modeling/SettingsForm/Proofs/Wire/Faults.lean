import SettingsForm.Proofs.Wire.Grammar
import SettingsForm.Proofs.Wire.Parts
import SettingsForm.Proofs.Wire.Places

/-!
# Where a document is at fault

A document that is refused is refused for something that can be seen in it. The path of the error leads to a
node that has the reported defect, and the reading went no further than it had to: in every list on the way all
elements before the one that the path goes into can be read (`Wire.Reached`). So the error points at the first
element that is at fault, whatever else may be wrong after it.

What a node must look like depends on the part that it is. A row without a title is not at fault, and the
readers are held to that: an error names a field that the part at its path has to have, or a content that the
field may not have there (`Wire.Faulty`).
-/

namespace SettingsForm

namespace Wire

/-! ## What can be wrong -/

namespace Part

/-- The name of a part in errors, where the part has to be an object. -/
def object? : Part → Option Field
  | group => some .group
  | row => some .row
  | choice => some .choice
  | _ => none

/-- The object of a part has to have the field. Of the rows only those need a value whose type declares one. -/
def Needs (part : Part) (fields : Mapping) (field : Field) : Prop :=
  match part, field with
  | document, .groups | group, .title | group, .rows | choice, .name | choice, .value => True
  | row, .name | row, .identifier | row, .type | row, .edit => True
  | row, .value => ∃ t, typeIn? fields = some t ∧ t.isStructural = false
  | _, _ => False

/-- What the content of a field has to be like. -/
def Admits (part : Part) (fields : Mapping) (field : Field) (content : Value) : Prop :=
  match part, field with
  | group, .title | row, .name | row, .identifier | choice, .name => IsText content
  | group, .key | group, .header | group, .footer | row, .flags => content = .null ∨ IsText content
  | row, .edit => IsFlag content
  | row, .keyboardHint => content = .null ∨ IsKeyboard content
  | row, .value => ∀ t, t.isStructural = false → Present "type" fields (Names t) → IsDeclared t content
  | _, _ => True

/-- The value can be read as the part, wherever it stands. -/
def Reads (part : Part) (value : Value) : Prop := ∀ path, Result.Succeeds (part.read path value)

end Part

/-- The content of a field. That of the keyboard may stand under its early name. -/
def content? (field : Field) (fields : Mapping) : Option Value :=
  (Mapping.get? field.label fields).or
    (if field = .keyboardHint then Mapping.get? "kbType" fields else none)

end Wire

/-- The content that a defect shows. -/
def Defect.shown? : Defect → Option Value
  | notAString found | notABoolean found | unknownKeyboard found => some found
  | unfitValue (.typeMismatch _ _ actual) => some actual
  | _ => none

namespace Wire

/-- A node at a path has the defect that an error reports. -/
inductive Faulty (part : Part) (path : Path) : Value → SchemaError → Prop
  /-- An object lacks a field that it has to have. -/
  | missing {fields : Mapping} {field : Field} (wanted : part.Needs fields field)
      (absent : Mapping.get? field.label fields = none) :
      Faulty part path (.mapping fields) (.missingField path field)
  | notAList {node : Value} (list : part.item?.isSome = true) (other : node.asList? = none) :
      Faulty part path node (.notAList path)
  | noChoices (choices : part = .choices) : Faulty part path (.list []) (.emptyChoiceSet path)
  | unknownType {fields : Mapping} {found : Value} (row : part = .row)
      (given : Mapping.get? "type" fields = some found) (unknown : ∀ t, ¬ Names t found) :
      Faulty part path (.mapping fields) (.unknownRowType path found)
  | notAnObject {node : Value} {field : Field} (object : part.object? = some field)
      (other : node.asMapping? = none) : Faulty part path node (.invalidField path field .notAnObject)
  /-- A field has a content that it may not have, and the error shows it. -/
  | unfit {fields : Mapping} {field : Field} {content : Value} {defect : Defect}
      (given : content? field fields = some content) (unfit : ¬ part.Admits fields field content)
      (shown : defect.shown? = some content) :
      Faulty part path (.mapping fields) (.invalidField path field defect)

/-- A path leads from a document to a node that stands for a part, and in every list on the way the elements
before are read. -/
inductive Reached (document : Value) : Path → Part → Value → Prop
  | whole : Reached document .document .document document
  | bare (list : document.asMapping? = none) : Reached document .groups .groups document
  | wrapped {fields : Mapping} {list : Value} (wrapper : document = .mapping fields)
      (holds : Mapping.get? "groups" fields = some list) : Reached document .groups .groups list
  | item {path : Path} {part inner : Part} {before after : List Value} {item : Value}
      (list : Reached document path part (.list (before ++ item :: after))) (kind : part.item? = some inner)
      (earlier : ∀ element ∈ before, inner.Reads element) :
      Reached document (path.element before.length) inner item
  | rows {path : Path} {fields : Mapping} {list : Value} (group : Reached document path .group (.mapping fields))
      (holds : Mapping.get? "rows" fields = some list) : Reached document path.rowsOf .rows list
  | value {path : Path} {fields : Mapping} {content : Value}
      (row : Reached document path .row (.mapping fields)) (holds : Mapping.get? "value" fields = some content) :
      Reached document path.valueOf (.ofType (typeIn? fields)) content

/-- The path is one of steps that exist. -/
theorem Reached.node? {document node : Value} {path : Path} {part : Part}
    (reached : Reached document path part node) : path.node? document = some node := by
  induction reached with
  | whole => rfl
  | bare list =>
    cases document with
    | mapping fields => cases list
    | _ => rfl
  | wrapped wrapper holds => rw [wrapper, Path.node?, holds]
  | item list kind earlier inductionHypothesis => simp [Path.node?, inductionHypothesis, Value.asList?]
  | rows group holds inductionHypothesis => simp [Path.node?, inductionHypothesis, Value.asMapping?, holds]
  | value row holds inductionHypothesis => simp [Path.node?, inductionHypothesis, Value.asMapping?, holds]

/-- Only the document itself stands for the document. -/
theorem Reached.eq_whole {document node : Value} {path : Path} {part : Part}
    (reached : Reached document path part node) (whole : part = .document) : path = .document ∧ node = document := by
  cases reached with
  | whole => exact ⟨rfl, rfl⟩
  | bare | wrapped | rows => cases whole
  | @item _ outer _ _ _ _ _ kind =>
    subst whole
    cases outer <;> cases kind
  | value =>
    unfold Part.ofType at whole
    split at whole <;> cases whole

/-- An error is true of a document: its path leads to a node that has the defect. -/
def Located (document : Value) (error : SchemaError) : Prop :=
  ∃ path part node, Reached document path part node ∧ Faulty part path node error

/-- Whatever a value stands for, where it is reached, its errors are true of the document. -/
def Truthful (document value : Value) : Prop :=
  ∀ {part : Part} {path : Path} {error : SchemaError}, Reached document path part value →
    part.read path value = .error error → Located document error

/-! ## Single fields -/

section

variable {part : Part} {path : Path} {fields : Mapping} {error : SchemaError}

/-- What a field holds under its own name is its content. -/
theorem content?_of_get? {field : Field} {content : Value}
    (given : Mapping.get? field.label fields = some content) : content? field fields = some content := by
  rw [content?, given, Option.some_or]

/-- If a field that has to be there is not read, it is missing, and the object is at fault. -/
theorem required_fault {field : Field} (failed : required path field fields = .error error)
    (wanted : part.Needs fields field) : Faulty part path (.mapping fields) error := by
  rw [required] at failed
  split at failed
  · cases failed
  · rename_i absent
    cases failed
    exact .missing wanted absent

/-- A text that has to be there is missing or is no string, and either is a fault of the object. -/
theorem requiredString_fault {field : Field} (failed : requiredString path field fields = .error error)
    (wanted : part.Needs fields field) (text : ∀ content, part.Admits fields field content → IsText content) :
    Faulty part path (.mapping fields) error := by
  rw [requiredString, Result.bind_eq_error_iff] at failed
  rcases failed with absent | ⟨found, holds, refused⟩
  · exact required_fault absent wanted
  · have given := content?_of_get? (required_eq_ok_iff.mp holds)
    cases found with
    | string s => cases refused
    | _ =>
      cases refused
      refine .unfit given ?_ rfl
      intro admitted
      cases text _ admitted

/-- A text that may be missing is not read only if it is neither null nor a string. -/
theorem optionalString_fault {field : Field} (failed : optionalString path field fields = .error error)
    (text : ∀ content, part.Admits fields field content → content = .null ∨ IsText content) :
    Faulty part path (.mapping fields) error := by
  rw [optionalString] at failed
  split at failed
  · cases failed
  · cases failed
  · cases failed
  · rename_i found set other holds
    cases failed
    refine .unfit (content?_of_get? holds) ?_ rfl
    intro admitted
    rcases text _ admitted with null | string
    · exact set null
    · cases string with
      | string s => exact other s rfl

/-- The type of a row is missing or unknown. -/
theorem rowType_fault (failed : rowType path fields = .error error) :
    Faulty .row path (.mapping fields) error := by
  rw [rowType, Result.bind_eq_error_iff] at failed
  rcases failed with absent | ⟨found, holds, refused⟩
  · exact required_fault absent trivial
  · split at refused
    · cases refused
    · rename_i unknown
      cases refused
      refine .unknownType rfl (required_eq_ok_iff.mp holds) ?_
      intro t named
      rw [RowType.ofValue?_eq_some_iff.mpr named] at unknown
      cases unknown

/-- The flag that tells whether a row can be edited is missing or is no flag. -/
theorem editable_fault (failed : editable path fields = .error error) :
    Faulty .row path (.mapping fields) error := by
  rw [editable, Result.bind_eq_error_iff] at failed
  rcases failed with absent | ⟨found, holds, refused⟩
  · exact required_fault absent trivial
  · split at refused
    · cases refused
    · rename_i unknown
      cases refused
      refine .unfit (content?_of_get? (required_eq_ok_iff.mp holds)) ?_ rfl
      intro flag
      have read := isSome_flag?_iff.mpr flag
      rw [unknown] at read
      cases read

/-- The keyboard is unknown, and the content that is shown may stand under the early name. -/
theorem keyboard_fault (failed : keyboard path fields = .error error) :
    Faulty .row path (.mapping fields) error := by
  rw [keyboard] at failed
  split at failed
  · cases failed
  · rename_i found given
    split at failed
    · cases failed
    · rename_i unknown
      cases failed
      refine .unfit given ?_ rfl
      intro known
      have read := Keyboard.isSome_ofValue?_iff.mpr known
      rw [unknown] at read
      cases read

end

/-! ## Values of rows -/

/-- A conversion that refuses a declared value shows it. -/
theorem leafPayload_shows {path : Path} {t : RowType} {name identifier : String} {raw : Value}
    {converted : Option Value} {expected : Expected} {error : SchemaError}
    (converts : t ≠ .plain ∧ t ≠ .custom ∧ t ≠ .choice)
    (conversion : (Contract.builtin t).coerce identifier (Row.ofPayload name identifier (.plain .null)) raw true =
      converted.elim (.error (.typeMismatch identifier expected raw)) .ok)
    (failed : leafPayload path t name identifier raw = .error error) :
    ∃ defect, error = .invalidField path .value defect ∧ defect.shown? = some raw := by
  by_cases given : raw = .null
  · subst given
    rw [leafPayload_null] at failed
    cases failed
  · rw [leafPayload_converted converts given, Result.map_eq_error_iff, declared_eq conversion] at failed
    cases converted with
    | none =>
      cases failed
      exact ⟨_, rfl, rfl⟩
    | some value => cases failed

/-- A declared value that is not read is not fit for the type, and the error shows it. -/
theorem leafPayload_fault {path : Path} {fields : Mapping} {t : RowType} {name identifier : String} {raw : Value}
    {error : SchemaError} (flat : t.isStructural = false) (free : t.hasChoices = false)
    (typed : rowType path fields = .ok t) (holds : Mapping.get? "value" fields = some raw)
    (failed : leafPayload path t name identifier raw = .error error) :
    Faulty .row path (.mapping fields) error := by
  have shows : ∃ defect, error = .invalidField path .value defect ∧ defect.shown? = some raw := by
    cases t with
    | plain | custom | choice => cases failed
    | multiLevel | propertyList | action => cases flat
    | multiValue | pickerList | pickerView => cases free
    | _ => exact leafPayload_shows (by decide) rfl failed
  obtain ⟨defect, rfl, shown⟩ := shows
  refine .unfit (content?_of_get? holds) ?_ shown
  intro admitted
  have declared := admitted t flat (rowType_eq_ok_iff.mp typed)
  have read : Result.Succeeds (leafPayload path t name identifier raw) :=
    (leafPayload_succeeds_iff flat free).mpr declared
  rw [failed] at read
  exact Result.not_succeeds_error _ read

/-! ## Lists -/

/-- It does not depend on the place whether a value can be read. -/
theorem Part.reads_of_succeeds {part : Part} {path : Path} {value : Value}
    (read : Result.Succeeds (part.read path value)) : part.Reads value := by
  intro place
  cases part with
  | document | plain => exact read
  | groups => exact ((told value).groups place).mpr (((told value).groups path).mp read)
  | group => exact ((told value).group place).mpr (((told value).group path).mp read)
  | rows => exact ((told value).rows place).mpr (((told value).rows path).mp read)
  | row => exact ((told value).row place).mpr (((told value).row path).mp read)
  | choices => exact choices_succeeds_iff.mpr (choices_succeeds_iff.mp read)
  | choice => exact choice_succeeds_iff.mpr (choice_succeeds_iff.mp read)

section

variable {document : Value} {path : Path} {error : SchemaError}

/-- The errors of a list are true if those of its elements are. -/
theorem items_located {part inner : Part} {items : List Value} (reached : Reached document path part (.list items))
    (kind : part.item? = some inner) (elements : ∀ item ∈ items, Truthful document item)
    (failed : each (fun index => inner.read (path.element index)) 0 items = .error error) :
    Located document error := by
  obtain ⟨before, item, after, rfl, earlier, refused⟩ := each_eq_error failed
  rw [Nat.zero_add] at refused
  refine elements item (by simp) (reached.item kind ?_) refused
  intro element member
  obtain ⟨place, read⟩ := earlier element member
  exact Part.reads_of_succeeds read

/-- Where a list is expected, anything else is the fault that is reported. -/
theorem notAList_located {part : Part} {value : Value} (reached : Reached document path part value)
    (list : part.item?.isSome = true) (other : value.asList? = none)
    (failed : part.read path value = .error error) : Located document error := by
  have reported : error = .notAList path := by
    cases part <;> cases list <;> cases value <;> cases other <;> exact (Except.error.inj failed).symm
  exact ⟨path, part, value, reached, reported ▸ .notAList list other⟩

/-- Where an object is expected, anything else is the fault that is reported. -/
theorem notAnObject_located {part : Part} {field : Field} {value : Value}
    (reached : Reached document path part value) (object : part.object? = some field)
    (other : value.asMapping? = none) (failed : part.read path value = .error error) :
    Located document error := by
  have reported : error = .invalidField path field .notAnObject := by
    cases part <;> cases object <;> cases value <;> cases other <;> exact (Except.error.inj failed).symm
  exact ⟨path, part, value, reached, reported ▸ .notAnObject object other⟩

/-! ## Objects -/

section

variable {fields : Mapping} (within : ∀ name value, Mapping.get? name fields = some value → Truthful document value)

/-- What is wrong with a choice is its name or a missing value. -/
theorem choice_located (reached : Reached document path .choice (.mapping fields))
    (failed : choice path (.mapping fields) = .error error) : Located document error := by
  rw [choice, Result.bind_eq_error_iff] at failed
  rcases failed with name | ⟨name, -, value⟩
  · exact ⟨path, _, _, reached, requiredString_fault name trivial fun _ text => text⟩
  · rw [Result.map_eq_error_iff] at value
    exact ⟨path, _, _, reached, required_fault value trivial⟩

include within

/-- The errors of a group are true if those of its rows are. -/
theorem group_located (reached : Reached document path .group (.mapping fields))
    (failed : group path (.mapping fields) = .error error) : Located document error := by
  simp only [group, rowsField_eq, Result.bind_eq_error_iff] at failed
  rcases failed with title | ⟨title, -, (absent | ⟨list, holds, refused⟩) | ⟨_, -, key | ⟨key, -, header |
    ⟨header, -, footer | ⟨_, -, ⟨⟩⟩⟩⟩⟩⟩
  · exact ⟨path, _, _, reached, requiredString_fault title trivial fun _ text => text⟩
  · exact ⟨path, _, _, reached, required_fault absent trivial⟩
  · have held := required_eq_ok_iff.mp holds
    exact within "rows" list held (reached.rows held) refused
  · exact ⟨path, _, _, reached, optionalString_fault key fun _ text => text⟩
  · exact ⟨path, _, _, reached, optionalString_fault header fun _ text => text⟩
  · exact ⟨path, _, _, reached, optionalString_fault footer fun _ text => text⟩

/-- The errors of a nested form are true of the row that it belongs to. -/
theorem nested_located {part : Part} {t : RowType} (reached : Reached document path .row (.mapping fields))
    (typed : typeIn? fields = some t) (stands : Part.ofType (some t) = part)
    (failed : optionally (part.read path.valueOf) (Mapping.get? "value" fields) = .error error) :
    Located document error := by
  cases holds : Mapping.get? "value" fields with
  | none =>
    rw [holds] at failed
    cases failed
  | some value =>
    have inner := reached.value holds
    rw [typed, stands] at inner
    by_cases null : value = .null
    · rw [holds, null] at failed
      cases failed
    · rw [holds, optionally_some null, Result.map_eq_error_iff] at failed
      exact within "value" value holds inner failed

/-- What is wrong with the value of a row without a nested form lies in the row itself or in one of its
choices. -/
theorem flatPayload_located {t : RowType} {name identifier : String}
    (reached : Reached document path .row (.mapping fields)) (typed : rowType path fields = .ok t)
    (flat : t.isStructural = false) (failed : flatPayload path t name identifier fields = .error error) :
    Located document error := by
  rw [flatPayload, Result.bind_eq_error_iff] at failed
  have named := typeIn?_of_rowType typed
  rcases failed with absent | ⟨raw, given, refused⟩
  · exact ⟨path, _, _, reached, required_fault absent ⟨t, named, flat⟩⟩
  · have holds := required_eq_ok_iff.mp given
    have inner := reached.value holds
    rw [named] at inner
    cases t with
    | multiValue | pickerList | pickerView =>
      exact within "value" raw holds inner ((Result.map_eq_error_iff _).mp refused)
    | _ => exact ⟨path, _, _, reached, leafPayload_fault flat rfl typed holds refused⟩

/-- What is wrong with what a row carries lies in the row or in the nested form. -/
theorem carried_located {t : RowType} {name identifier : String}
    (reached : Reached document path .row (.mapping fields)) (typed : rowType path fields = .ok t)
    (failed : carried path t name identifier fields = .error error) : Located document error := by
  have named := typeIn?_of_rowType typed
  cases t with
  | multiLevel =>
    rw [carried, Result.map_eq_error_iff, groupsValue_eq] at failed
    exact nested_located within reached named rfl failed
  | propertyList =>
    rw [carried, Result.map_eq_error_iff, groupValue_eq] at failed
    exact nested_located within reached named rfl failed
  | action => cases failed
  | _ =>
    rw [carried_flat rfl] at failed
    exact flatPayload_located within reached typed rfl failed

/-- The errors of a row are true if those of its nested form or of its choices are. -/
theorem row_located (reached : Reached document path .row (.mapping fields))
    (failed : row path (.mapping fields) = .error error) : Located document error := by
  simp only [row_eq, Result.bind_eq_error_iff] at failed
  rcases failed with name | ⟨name, -, identifier | ⟨identifier, -, untyped | ⟨t, typed, edit | ⟨_, -,
    keyboard | ⟨_, -, flags | ⟨_, -, failed | ⟨_, -, ⟨⟩⟩⟩⟩⟩⟩⟩⟩
  · exact ⟨path, _, _, reached, requiredString_fault name trivial fun _ text => text⟩
  · exact ⟨path, _, _, reached, requiredString_fault identifier trivial fun _ text => text⟩
  · exact ⟨path, _, _, reached, rowType_fault untyped⟩
  · exact ⟨path, _, _, reached, editable_fault edit⟩
  · exact ⟨path, _, _, reached, keyboard_fault keyboard⟩
  · exact ⟨path, _, _, reached, optionalString_fault flags fun _ text => text⟩
  · exact carried_located within reached typed failed

/-- What is wrong with a document that is an object lies in its groups, or they are missing. -/
theorem wrapper_located (wrapper : document = .mapping fields) (failed : readGroups document = .error error) :
    Located document error := by
  rw [wrapper, readGroups, Result.bind_eq_error_iff] at failed
  rcases failed with absent | ⟨list, given, refused⟩
  · exact ⟨.document, .document, _, wrapper ▸ .whole, required_fault absent trivial⟩
  · have holds := required_eq_ok_iff.mp given
    exact within "groups" list holds (.wrapped wrapper holds) refused

end

end

/-! ## Documents -/

/-- The errors of every value are true where it is reached. -/
theorem truthful (document value : Value) : Truthful document value := by
  induction value using Value.induction with
  | list items elements =>
    intro part path error reached failed
    cases part with
    | groups => exact items_located reached rfl elements ((groupItems_eq path 0 items).symm.trans failed)
    | rows => exact items_located reached rfl elements ((rowItems_eq path 0 items).symm.trans failed)
    | choices =>
      cases items with
      | nil =>
        cases failed
        exact ⟨path, _, _, reached, .noChoices rfl⟩
      | cons item rest =>
        exact items_located reached rfl elements ((choiceList_eq path 0 (item :: rest)).symm.trans failed)
    | group | row | choice => exact notAnObject_located reached rfl rfl failed
    | plain => cases failed
    | document =>
      obtain ⟨-, rfl⟩ := reached.eq_whole rfl
      exact items_located (.bare rfl) rfl elements ((groupItems_eq .groups 0 items).symm.trans failed)
  | mapping fields within =>
    intro part path error reached failed
    cases part with
    | groups | rows | choices => exact notAList_located reached rfl rfl failed
    | group => exact group_located within reached failed
    | row => exact row_located within reached failed
    | choice => exact choice_located reached failed
    | plain => cases failed
    | document =>
      obtain ⟨-, rfl⟩ := reached.eq_whole rfl
      exact wrapper_located within rfl failed
  | leaf value noList noObject =>
    intro part path error reached failed
    cases part with
    | groups | rows | choices => exact notAList_located reached rfl noList failed
    | group | row | choice => exact notAnObject_located reached rfl noObject failed
    | plain => cases failed
    | document =>
      obtain ⟨-, rfl⟩ := reached.eq_whole rfl
      rw [Part.read, readGroups_of_bare noObject] at failed
      exact notAList_located (.bare noObject) rfl noList failed

/-- A refused document is at fault where its error says. The path of the error leads to a node of the document that
has the reported defect, and no other path is written like it; in every list on the way, all elements before are
read. A type that is not known is printed as it was found. -/
theorem located_of_refused {document : Value} {error : SchemaError} (refused : readGroups document = .error error) :
    ∃ path part node, path.node? document = some node ∧ Reached document path part node ∧
      Faulty part path node error ∧ (∀ other : Path, other.render = path.render → other = path) ∧
      ∀ found, error = .unknownRowType path found →
        error.message = s!"{path.render}: unknown row type {found.compact}" := by
  obtain ⟨path, part, node, reached, fault⟩ := truthful document document .whole refused
  refine ⟨path, part, node, reached.node?, reached, fault, fun other same => Path.render_injective same, ?_⟩
  rintro found rfl
  rfl

/-- A form whose second group nests a group with a row of a type that is not known. What follows is no group. -/
def misprinted : Value :=
  .list [.mapping [("rows", .list []), ("title", .string "First")],
    .mapping [("rows", .list [
      .mapping [("edit", .bool true), ("identifier", .string "save"), ("name", .string "Save"),
        ("type", .string "action")],
      .mapping [("edit", .bool true), ("identifier", .string "more"), ("name", .string "More"),
        ("type", .string "multiLevel"), ("value", .list [
          .mapping [("rows", .list [
            .mapping [("edit", .bool true), ("identifier", .string "note"), ("name", .string "Note"),
              ("type", .string "text"), ("value", .string "")]]), ("title", .string "Inner")]])]]),
      ("title", .string "Second")],
    .bool false]

/-- The row of that type is found, and not the value that is no group. -/
theorem located_of_refused_misprinted :
    ∃ error, readGroups misprinted = .error error ∧
      error.message = "groups[1].rows[1].value[0].rows[0]: unknown row type \"text\"" ∧
      ∃ path part node, path.node? misprinted = some node ∧ Reached misprinted path part node ∧
        Faulty part path node error ∧ (∀ other : Path, other.render = path.render → other = path) ∧
        ∀ found, error = .unknownRowType path found →
          error.message = s!"{path.render}: unknown row type {found.compact}" :=
  ⟨_, by rfl, by rfl, located_of_refused (by rfl)⟩

end Wire

end SettingsForm
