import SettingsForm.Proofs.Wire.Parts

/-!
# Fields that do not matter

A document may hold more than its format knows. Stripping erases the unknown fields of every object that stands
for a part, and leaves all values alone that are taken as they are (`Wire.strip`). A stripped document is read
just as the document itself, with the same result or the same error (`Wire.readGroups_strip`).

The readers look up the fields of an object and nothing else, so it is enough that stripping leaves what they look
up to be read alike. What the value of a row stands for is told by its type, and the type stays.
-/

namespace SettingsForm

namespace Wire

/-! ## Stripping -/

mutual

/-- A value that stands for a part, without unknown fields at any depth. -/
def strip (part : Part) : Value → Value
  | .list items =>
    match part.item? with
    | some inner => .list (stripItems inner items)
    | none => .list items
  | .mapping fields =>
    match part.fields (typeIn? fields) with
    | [] => .mapping fields
    | known => .mapping (stripFields known fields)
  | value => value

/-- The elements of a list, each stripped as the part that it stands for. -/
def stripItems (part : Part) : List Value → List Value
  | [] => []
  | item :: rest => strip part item :: stripItems part rest

/-- The known fields of an object, each with what it holds stripped as the part that it stands for. -/
def stripFields (known : List (String × Part)) : List (String × Value) → List (String × Value)
  | [] => []
  | (name, value) :: rest =>
    match known.lookup name with
    | some part => (name, strip part value) :: stripFields known rest
    | none => stripFields known rest

end

/-- A document without unknown fields. -/
def stripDocument (document : Value) : Value :=
  match document with
  | .mapping fields => strip .document (.mapping fields)
  | list => strip .groups list

/-- A value that is taken as it is stays as it is. -/
theorem strip_plain (value : Value) : strip .plain value = value := by
  cases value <;> rfl

/-- A known field holds what it held, stripped; an unknown one is gone. -/
theorem get?_stripFields (known : List (String × Part)) (name : String) (fields : Mapping) :
    Mapping.get? name (stripFields known fields) =
      (known.lookup name).bind fun part => (Mapping.get? name fields).map (strip part) := by
  induction fields with
  | nil => cases known.lookup name <;> rfl
  | cons entry rest inductionHypothesis =>
    obtain ⟨present, value⟩ := entry
    rw [stripFields, Mapping.get?]
    cases found : known.lookup present with
    | none =>
      simp only [inductionHypothesis]
      by_cases same : present = name
      · subst same
        rw [found, Option.bind_none, Option.bind_none]
      · rw [if_neg same]
    | some part =>
      simp only [Mapping.get?]
      by_cases same : present = name
      · subst same
        rw [if_pos rfl, if_pos rfl, found, Option.bind_some, Option.map_some]
      · rw [if_neg same, if_neg same, inductionHypothesis]

/-- A known field that is taken as it is holds what it held. -/
theorem get?_kept {known : List (String × Part)} {name : String} (kept : known.lookup name = some .plain)
    (fields : Mapping) : Mapping.get? name (stripFields known fields) = Mapping.get? name fields := by
  rw [get?_stripFields, kept, Option.bind_some, funext strip_plain, Option.map_id']

/-! ## What the readers look up -/

section

variable {path : Path} {fields others : Mapping}

/-- A required field is read alike from objects that hold the same under it. -/
theorem required_congr {field : Field} (same : Mapping.get? field.label others = Mapping.get? field.label fields) :
    required path field others = required path field fields := by
  rw [required, required, same]

/-- A text that has to be there is read alike from objects that hold the same under it. -/
theorem requiredString_congr {field : Field}
    (same : Mapping.get? field.label others = Mapping.get? field.label fields) :
    requiredString path field others = requiredString path field fields := by
  rw [requiredString, requiredString, required_congr same]

/-- A text that may be missing is read alike from objects that hold the same under it. -/
theorem optionalString_congr {field : Field}
    (same : Mapping.get? field.label others = Mapping.get? field.label fields) :
    optionalString path field others = optionalString path field fields := by
  rw [optionalString, optionalString, same]

/-- Groups with the same texts whose rows are read alike are read alike. -/
theorem group_congr
    (texts : ∀ field ∈ [Field.title, .key, .header, .footer],
      Mapping.get? field.label others = Mapping.get? field.label fields)
    (rows : rowsField path others = rowsField path fields) :
    group path (.mapping others) = group path (.mapping fields) := by
  simp only [List.forall_mem_cons] at texts
  obtain ⟨title, key, header, footer, -⟩ := texts
  rw [group, group, requiredString_congr title, rows, optionalString_congr key, optionalString_congr header,
    optionalString_congr footer]

/-- Rows with the same labels and the same type that carry what is read alike are read alike. -/
theorem row_congr
    (labels : ∀ field ∈ [Field.name, .identifier, .type, .edit, .keyboardHint, .flags],
      Mapping.get? field.label others = Mapping.get? field.label fields)
    (early : Mapping.get? "kbType" others = Mapping.get? "kbType" fields)
    (carries : ∀ t name identifier, rowType path fields = .ok t →
      carried path t name identifier others = carried path t name identifier fields) :
    row path (.mapping others) = row path (.mapping fields) := by
  simp only [List.forall_mem_cons] at labels
  obtain ⟨name, identifier, type, edit, hint, flags, -⟩ := labels
  have typed : rowType path others = rowType path fields := by
    rw [rowType, rowType, required_congr type]
  have edited : editable path others = editable path fields := by
    rw [editable, editable, required_congr edit]
  have keyed : keyboard path others = keyboard path fields := by
    rw [Field.label] at hint
    rw [keyboard, keyboard, hint, early]
  rw [row_eq, row_eq, requiredString_congr name, requiredString_congr identifier, typed, edited, keyed,
    optionalString_congr flags]
  refine bind_congr fun name => bind_congr fun identifier => Result.bind_congr_ok fun t found => ?_
  rw [carries t name identifier found]

/-- Choices with the same name and value are read alike. -/
theorem choice_congr
    (same : ∀ field ∈ [Field.name, .value], Mapping.get? field.label others = Mapping.get? field.label fields) :
    choice path (.mapping others) = choice path (.mapping fields) := by
  simp only [List.forall_mem_cons] at same
  obtain ⟨name, value, -⟩ := same
  rw [choice, choice, requiredString_congr name, required_congr value]

/-- Lists whose elements are read alike at every place are read alike. -/
theorem each_strip (part : Part) (path : Path) {items : List Value} (elements : ∀ item ∈ items, ∀ part path,
    Part.read part path (strip part item) = part.read path item) (index : Nat) :
    each (fun index => part.read (path.element index)) index (stripItems part items) =
      each (fun index => part.read (path.element index)) index items := by
  induction items generalizing index with
  | nil => rw [stripItems]
  | cons item rest inductionHypothesis =>
    obtain ⟨first, later⟩ := List.forall_mem_cons.mp elements
    rw [stripItems, each, each, first, inductionHypothesis later]

/-- What is read from a field that has to be there is read alike if its content is. -/
theorem required_strip {α : Type} {field : Field} {known : List (String × Part)} {part : Part}
    {next : Value → Reading α} (stands : known.lookup field.label = some part)
    (alike : ∀ value, Mapping.get? field.label fields = some value → next (strip part value) = next value) :
    required path field (stripFields known fields) >>= next = required path field fields >>= next := by
  rw [required, required, get?_stripFields, stands, Option.bind_some]
  cases found : Mapping.get? field.label fields with
  | none => rfl
  | some value => exact alike value found

/-- Stripping makes nothing null. -/
theorem strip_ne_null {part : Part} {value : Value} (given : value ≠ .null) : strip part value ≠ .null := by
  cases value with
  | null => exact absurd rfl given
  | list items =>
    rw [strip]
    split <;> simp
  | mapping fields =>
    rw [strip]
    split <;> simp
  | _ => simp [strip]

/-- What is read from a field that may be missing is read alike if its content is. -/
theorem optionally_strip {α : Type} {name : String} {known : List (String × Part)} {part : Part}
    {read : Value → Reading α} (stands : known.lookup name = some part)
    (alike : ∀ value, Mapping.get? name fields = some value → read (strip part value) = read value) :
    optionally read (Mapping.get? name (stripFields known fields)) = optionally read (Mapping.get? name fields) := by
  rw [get?_stripFields, stands, Option.bind_some]
  cases found : Mapping.get? name fields with
  | none => rfl
  | some value =>
    rw [Option.map_some]
    by_cases null : value = .null
    · subst null
      rfl
    · rw [optionally_some null, optionally_some (strip_ne_null null), alike value found]

end

/-! ## Documents -/

/-- A choice without its unknown fields is read alike. -/
theorem choice_strip (path : Path) (fields : Mapping) :
    choice path (.mapping (stripFields (Part.choice.fields none) fields)) = choice path (.mapping fields) := by
  refine choice_congr fun field known => ?_
  simp only [List.mem_cons, List.not_mem_nil, or_false] at known
  rcases known with rfl | rfl <;> exact get?_kept rfl fields

section

variable {fields : Mapping} (within : ∀ name value, Mapping.get? name fields = some value → ∀ part path,
  Part.read part path (strip part value) = part.read path value)

include within

/-- The object around a list of groups has no other field that counts. -/
theorem readGroups_wrapper :
    readGroups (.mapping (stripFields (Part.document.fields none) fields)) = readGroups (.mapping fields) :=
  required_strip rfl fun value holds => within "groups" value holds .groups .groups

/-- A group without its unknown fields is read alike, its rows being left as they are. -/
theorem group_strip (path : Path) :
    group path (.mapping (stripFields (Part.group.fields none) fields)) = group path (.mapping fields) := by
  refine group_congr (fun field text => ?_) ?_
  · simp only [List.mem_cons, List.not_mem_nil, or_false] at text
    rcases text with rfl | rfl | rfl | rfl <;> exact get?_kept rfl fields
  · rw [rowsField_eq, rowsField_eq]
    exact required_strip rfl fun value holds => within "rows" value holds .rows path.rowsOf

/-- What a row of a type carries is read alike. -/
theorem carried_strip (t : RowType) (path : Path) (name identifier : String) :
    carried path t name identifier (stripFields (Part.row.fields (some t)) fields) =
      carried path t name identifier fields := by
  cases t with
  | multiLevel =>
    rw [carried, carried, groupsValue_eq, groupsValue_eq, optionally_strip rfl]
    exact fun value holds => within "value" value holds .groups path.valueOf
  | propertyList =>
    rw [carried, carried, groupValue_eq, groupValue_eq, optionally_strip rfl]
    exact fun value holds => within "value" value holds .group path.valueOf
  | action => rfl
  | multiValue | pickerList | pickerView =>
    refine required_strip rfl fun value holds => ?_
    exact congrArg (· >>= _) (within "value" value holds .choices path.valueOf)
  | _ =>
    refine required_strip rfl fun value _ => ?_
    exact congrArg (leafPayload path _ name identifier) (strip_plain value)

/-- A row without the fields that are unknown for its type is read alike. -/
theorem row_strip (path : Path) :
    row path (.mapping (stripFields (Part.row.fields (typeIn? fields)) fields)) = row path (.mapping fields) := by
  refine row_congr (fun field label => ?_) (get?_kept rfl fields) ?_
  · simp only [List.mem_cons, List.not_mem_nil, or_false] at label
    rcases label with rfl | rfl | rfl | rfl | rfl | rfl <;> exact get?_kept rfl fields
  · intro t name identifier typed
    rw [typeIn?_of_rowType typed]
    exact carried_strip within t path name identifier

end

/-- Whatever a value stands for, it is read as without unknown fields. -/
theorem read_strip (value : Value) (part : Part) (path : Path) :
    part.read path (strip part value) = part.read path value := by
  induction value using Value.induction generalizing part path with
  | list items elements =>
    cases part with
    | groups =>
      change groupItems path 0 (stripItems .group items) = groupItems path 0 items
      rw [groupItems_eq, groupItems_eq]
      exact each_strip .group path elements 0
    | rows =>
      change rowItems path 0 (stripItems .row items) = rowItems path 0 items
      rw [rowItems_eq, rowItems_eq]
      exact each_strip .row path elements 0
    | choices =>
      cases items with
      | nil => rfl
      | cons item rest =>
        change choiceList path 0 (stripItems .choice (item :: rest)) = choiceList path 0 (item :: rest)
        rw [choiceList_eq, choiceList_eq]
        exact each_strip .choice path elements 0
    | _ => rfl
  | mapping fields within =>
    cases part with
    | document => exact readGroups_wrapper within
    | group => exact group_strip within path
    | row => exact row_strip within path
    | choice => exact choice_strip path fields
    | _ => rfl
  | leaf value noList noObject =>
    cases value with
    | list items => cases noList
    | mapping fields => cases noObject
    | _ => rfl

/-- Unknown fields never matter: a document is read as without them, with the same result or the same error. -/
theorem readGroups_strip (document : Value) : readGroups (stripDocument document) = readGroups document := by
  cases document with
  | mapping fields => exact read_strip (.mapping fields) .document .document
  | list items => exact read_strip (.list items) .groups .groups
  | _ => rfl

/-- The entries of a choice are stripped, but not what it stands for. A row without a known type is left with all
that it holds under `value`. -/
example :
    strip .row (.mapping [("type", .string "pickerView"), ("hint", .null), ("value", .list [.mapping [
      ("name", .string "On"), ("icon", .null), ("value", .mapping [("icon", .null)])]])]) =
      .mapping [("type", .string "pickerView"), ("value", .list [.mapping [
        ("name", .string "On"), ("value", .mapping [("icon", .null)])]])] ∧
    strip .row (.mapping [("hint", .null), ("value", .mapping [("icon", .null)])]) =
      .mapping [("value", .mapping [("icon", .null)])] := ⟨by rfl, by rfl⟩

end Wire

end SettingsForm
