import SettingsForm.Proofs.Wire.Rows

/-!
# Parts of a document

What the nodes of a document stand for: groups, rows and choices, lists of these, and values that are taken as
they are. The format is a table of the fields that the object of a part may have and of what each of them stands
for in turn (`Wire.Part.fields`). Only what the value of a row stands for depends on another field, the type.

A document is read part by part (`Wire.Part.read`). A list is read element by element with the place of each,
whatever its elements stand for, and an object is read by looking up its fields; so what is proved about reading
goes by induction on values, from the elements of a list to the list and from the contents of fields to the
object (`Value.induction`).
-/

namespace SettingsForm

/-! ## Values -/

/-- What a field holds is smaller than the object. -/
theorem Mapping.sizeOf_lt_of_get? {name : String} {value : Value} {fields : Mapping}
    (found : get? name fields = some value) : sizeOf value < sizeOf fields := by
  induction fields with
  | nil => cases found
  | cons entry rest inductionHypothesis =>
    obtain ⟨present, stored⟩ := entry
    rw [get?] at found
    split at found
    · rw [Option.some.inj found]
      simp only [List.cons.sizeOf_spec, Prod.mk.sizeOf_spec]
      omega
    · have below := inductionHypothesis found
      simp only [List.cons.sizeOf_spec]
      omega

/-- What holds of a list if it does of its elements, of an object if it does of what its fields hold, and of all
other values, holds of every value. -/
@[elab_as_elim]
theorem Value.induction {motive : Value → Prop}
    (list : ∀ items, (∀ item ∈ items, motive item) → motive (.list items))
    (mapping : ∀ fields, (∀ name value, Mapping.get? name fields = some value → motive value) →
      motive (.mapping fields))
    (leaf : ∀ value : Value, value.asList? = none → value.asMapping? = none → motive value) (value : Value) :
    motive value :=
  match value with
  | .list items => list items fun item _ => Value.induction list mapping leaf item
  | .mapping fields => mapping fields fun _ inner _ => Value.induction list mapping leaf inner
  | .null | .bool _ | .number _ | .string _ => leaf _ rfl rfl
termination_by sizeOf value
decreasing_by
  · have below := List.sizeOf_lt_of_mem ‹item ∈ items›
    simp only [Value.list.sizeOf_spec]
    omega
  · have below := Mapping.sizeOf_lt_of_get? ‹Mapping.get? _ fields = some inner›
    simp only [Value.mapping.sizeOf_spec]
    omega

namespace Wire

/-! ## The format -/

/-- What a node of a document stands for. -/
inductive Part where
  /-- The document as a whole, where it is an object that holds the list of groups. -/
  | document
  | groups
  | group
  | rows
  | row
  | choices
  | choice
  /-- A value that is taken as it is. -/
  | plain
  deriving DecidableEq, Repr

/-- The row type that an object names, if it names one. -/
def typeIn? (fields : Mapping) : Option RowType := (Mapping.get? "type" fields).bind RowType.ofValue?

namespace Part

/-- What the elements of a list stand for, where a part is a list. -/
def item? : Part → Option Part
  | groups => some group
  | rows => some row
  | choices => some choice
  | _ => none

/-- What the value of a row of a type stands for. -/
def ofType : Option RowType → Part
  | some .multiLevel => groups
  | some .propertyList => group
  | some .multiValue | some .pickerList | some .pickerView => choices
  | _ => plain

/-- The fields that an object may have, where a part is an object, with what they stand for. The value of a row
goes by its type. -/
def fields (t : Option RowType) : Part → List (String × Part)
  | document => [("groups", groups)]
  | group => [("title", plain), ("key", plain), ("header", plain), ("footer", plain), ("rows", rows)]
  | row => [("name", plain), ("identifier", plain), ("type", plain), ("edit", plain), ("keyboardHint", plain),
      ("kbType", plain), ("flags", plain), ("value", ofType t)]
  | choice => [("name", plain), ("value", plain)]
  | _ => []

/-- What is read from a part. -/
abbrev Content : Part → Type
  | document | groups => List Group
  | group => Group
  | rows => List Row
  | row => Row
  | choices => List Choice
  | choice => Choice
  | plain => Value

/-- Reads a value as a part that stands at a place. -/
def read : (part : Part) → Path → Value → Reading part.Content
  | document, _, value => readGroups value
  | groups, path, value => groupList path value
  | group, path, value => Wire.group path value
  | rows, path, value => rowList path value
  | row, path, value => Wire.row path value
  | choices, path, value => Wire.choices path value
  | choice, path, value => Wire.choice path value
  | plain, _, value => .ok value

end Part

/-- A document that is no object is a list of groups. -/
theorem readGroups_of_bare {document : Value} (bare : document.asMapping? = none) :
    readGroups document = groupList .groups document := by
  cases document with
  | mapping fields => cases bare
  | _ => rfl

/-! ## Lists -/

/-- Reads the elements of a list in order, each with its place. -/
def each {α : Type} (read : Nat → Value → Reading α) (index : Nat) : List Value → Reading (List α)
  | [] => .ok []
  | item :: rest => do
    let first ← read index item
    let others ← each read (index + 1) rest
    .ok (first :: others)

/-- Groups are read as elements of a list. -/
theorem groupItems_eq (path : Path) (index : Nat) (items : List Value) :
    groupItems path index items = each (fun index => group (path.element index)) index items := by
  induction items generalizing index with
  | nil => rw [groupItems, each]
  | cons item rest inductionHypothesis => rw [groupItems, each, inductionHypothesis]

/-- Rows are read as elements of a list. -/
theorem rowItems_eq (path : Path) (index : Nat) (items : List Value) :
    rowItems path index items = each (fun index => row (path.element index)) index items := by
  induction items generalizing index with
  | nil => rw [rowItems, each]
  | cons item rest inductionHypothesis => rw [rowItems, each, inductionHypothesis]

/-- Choices are read as elements of a list. -/
theorem choiceList_eq (path : Path) (index : Nat) (items : List Value) :
    choiceList path index items = each (fun index => choice (path.element index)) index items := by
  induction items generalizing index with
  | nil => rw [choiceList, each]
  | cons item rest inductionHypothesis => rw [choiceList, each, inductionHypothesis]

/-- What is read from a list is read from its elements, each at some place. -/
theorem mem_of_each {α : Type} {read : Nat → Value → Reading α} {index : Nat} {items : List Value} {found : List α}
    (reading : each read index items = .ok found) {element : α} (among : element ∈ found) :
    ∃ item ∈ items, ∃ place, read place item = .ok element := by
  induction items generalizing index found with
  | nil =>
    cases reading
    cases among
  | cons item rest inductionHypothesis =>
    simp only [each, Result.bind_eq_ok_iff, Except.ok.injEq] at reading
    obtain ⟨first, alone, others, remaining, rfl⟩ := reading
    rcases List.mem_cons.mp among with rfl | later
    · exact ⟨item, List.mem_cons_self, index, alone⟩
    · obtain ⟨other, listed, place, single⟩ := inductionHypothesis remaining later
      exact ⟨other, List.mem_cons_of_mem item listed, place, single⟩

/-- A list is read just if its elements are. -/
theorem each_succeeds_iff {α : Type} {read : Nat → Value → Reading α} {shape : Value → Prop} {items : List Value}
    (elements : ∀ item ∈ items, ∀ place, Result.Succeeds (read place item) ↔ shape item) (index : Nat) :
    Result.Succeeds (each read index items) ↔ ∀ item ∈ items, shape item := by
  induction items generalizing index with
  | nil => exact iff_of_true (Result.succeeds_ok []) (by simp)
  | cons item rest inductionHypothesis =>
    obtain ⟨first, later⟩ := List.forall_mem_cons.mp elements
    rw [each, Result.succeeds_cons_iff, first, inductionHypothesis later, List.forall_mem_cons]

/-- A list is refused for its first element that is, and the elements before that one are read. -/
theorem each_eq_error {α : Type} {read : Nat → Value → Reading α} {index : Nat} {items : List Value}
    {error : SchemaError} (failed : each read index items = .error error) :
    ∃ before item after, items = before ++ item :: after ∧
      (∀ element ∈ before, ∃ place, Result.Succeeds (read place element)) ∧
      read (index + before.length) item = .error error := by
  induction items generalizing index with
  | nil => cases failed
  | cons item rest inductionHypothesis =>
    rw [each, Result.cons_eq_error_iff] at failed
    rcases failed with refused | ⟨first, remaining⟩
    · exact ⟨[], item, rest, rfl, by simp, refused⟩
    · obtain ⟨before, found, after, rfl, earlier, refused⟩ := inductionHypothesis remaining
      refine ⟨item :: before, found, after, rfl, List.forall_mem_cons.mpr ⟨⟨index, first⟩, earlier⟩, ?_⟩
      rw [List.length_cons, ← refused]
      congr 1
      omega

/-! ## Fields -/

/-- The type that is read is the one that the row names. -/
theorem typeIn?_of_rowType {path : Path} {fields : Mapping} {t : RowType} (typed : rowType path fields = .ok t) :
    typeIn? fields = some t := by
  rw [rowType, Result.bind_eq_ok_iff] at typed
  obtain ⟨found, holds, named⟩ := typed
  have given : Mapping.get? "type" fields = some found := required_eq_ok_iff.mp holds
  rw [typeIn?, given, Option.bind_some]
  cases known : RowType.ofValue? found with
  | none =>
    rw [known] at named
    cases named
  | some other =>
    rw [known] at named
    rw [Except.ok.inj named]

/-- Reads the content of a field that may be missing or null. -/
def optionally {α : Type} (read : Value → Reading α) : Option Value → Reading (Option α)
  | none | some .null => .ok none
  | some value => do .ok (some (← read value))

/-- What may be null is read in earnest if it is not. -/
theorem optionally_some {α : Type} {read : Value → Reading α} {value : Value} (given : value ≠ .null) :
    optionally read (some value) = read value >>= fun found => .ok (some found) := by
  cases value with
  | null => exact absurd rfl given
  | _ => rfl

/-- What is read from a field that may be missing is read from what the field holds, if anything is. -/
theorem optionally_eq_ok {α : Type} {read : Value → Reading α} {content : Option Value} {form : Option α}
    (reading : optionally read content = .ok form) :
    form = none ∨ ∃ value found, content = some value ∧ read value = .ok found ∧ form = some found := by
  cases content with
  | none => exact Or.inl (Except.ok.inj reading).symm
  | some value =>
    by_cases null : value = .null
    · subst null
      exact Or.inl (Except.ok.inj reading).symm
    · rw [optionally_some null, Result.bind_eq_ok_iff] at reading
      obtain ⟨found, holds, same⟩ := reading
      exact Or.inr ⟨value, found, rfl, holds, (Except.ok.inj same).symm⟩

/-- The rows of a group are a field that has to be there. -/
theorem rowsField_eq (path : Path) (fields : Mapping) :
    rowsField path fields = required path .rows fields >>= rowList path.rowsOf := by
  induction fields with
  | nil => rw [rowsField]; rfl
  | cons entry rest inductionHypothesis =>
    obtain ⟨name, value⟩ := entry
    rw [rowsField, inductionHypothesis, required, required, Field.label, Mapping.get?]
    split <;> rfl

/-- The groups of a nested form may be missing or null. -/
theorem groupsValue_eq (path : Path) (fields : Mapping) :
    groupsValue path fields = optionally (groupList path.valueOf) (Mapping.get? "value" fields) := by
  induction fields with
  | nil => rw [groupsValue]; rfl
  | cons entry rest inductionHypothesis =>
    obtain ⟨name, value⟩ := entry
    unfold groupsValue
    rw [inductionHypothesis, Mapping.get?]
    split
    · cases value <;> rfl
    · rfl

/-- The single group of a nested form may be missing or null. -/
theorem groupValue_eq (path : Path) (fields : Mapping) :
    groupValue path fields = optionally (group path.valueOf) (Mapping.get? "value" fields) := by
  induction fields with
  | nil => rw [groupValue]; rfl
  | cons entry rest inductionHypothesis =>
    obtain ⟨name, value⟩ := entry
    unfold groupValue
    rw [inductionHypothesis, Mapping.get?]
    split
    · cases value <;> rfl
    · rfl

end Wire

end SettingsForm
