import SettingsForm.Proofs.Wire.Payloads

/-!
# Rows in documents

A row is read from its fields one after the other, and what it carries last (`Wire.row_eq`). All fields of a
written row but its value come back as they are, so a row comes back just if what it carries does, and a
group just if its rows do.
-/

namespace SettingsForm

/-! ## Rows at every depth -/

mutual

/-- The row and the rows of its nested form, at every depth. -/
def Row.deep : Row → List Row
  | ⟨name, identifier, payload, editable, keyboard, flags⟩ =>
    ⟨name, identifier, payload, editable, keyboard, flags⟩ :: payload.deep

/-- The rows of the form that a payload carries, at every depth. -/
def Payload.deep : Payload → List Row
  | .multiLevel (some groups) => deepGroups groups
  | .propertyList (some group) => group.deep
  | _ => []

/-- The rows of a group, at every depth. -/
def Group.deep : Group → List Row
  | ⟨_, _, _, _, rows⟩ => deepRows rows

/-- Rows with the rows inside them. -/
def deepRows : List Row → List Row
  | [] => []
  | row :: rest => row.deep ++ deepRows rest

/-- The rows of groups, at every depth. -/
def deepGroups : List Group → List Row
  | [] => []
  | group :: rest => group.deep ++ deepGroups rest

end

/-- What lies inside rows lies inside one of them. -/
theorem deepRows_eq (rows : List Row) : deepRows rows = rows.flatMap Row.deep := by
  induction rows with
  | nil => rw [deepRows, List.flatMap_nil]
  | cons row rest inductionHypothesis => rw [deepRows, inductionHypothesis, List.flatMap_cons]

/-- What lies inside groups lies inside one of them. -/
theorem deepGroups_eq (groups : List Group) : deepGroups groups = groups.flatMap Group.deep := by
  induction groups with
  | nil => rw [deepGroups, List.flatMap_nil]
  | cons group rest inductionHypothesis => rw [deepGroups, inductionHypothesis, List.flatMap_cons]

namespace Wire

/-! ## Fields of a row -/

/-- A field that has to be there is read as what it holds. -/
theorem required_eq_ok_iff {path : Path} {field : Field} {fields : Mapping} {value : Value} :
    required path field fields = .ok value ↔ Mapping.get? field.label fields = some value := by
  rw [required]
  cases Mapping.get? field.label fields <;> simp

/-- What a row of a type carries, found among its fields. -/
def carried (path : Path) (t : RowType) (name identifier : String) (fields : Mapping) : Reading Payload :=
  match t with
  | .multiLevel => do .ok (.multiLevel (← groupsValue path fields))
  | .propertyList => do .ok (.propertyList (← groupValue path fields))
  | .action => .ok .action
  | t => flatPayload path t name identifier fields

/-- A row whose type is neither nesting nor an action carries a declared value. -/
theorem carried_flat {t : RowType} (flat : t.isStructural = false) (path : Path) (name identifier : String)
    (fields : Mapping) : carried path t name identifier fields = flatPayload path t name identifier fields := by
  cases t with
  | multiLevel | propertyList | action => cases flat
  | _ => rfl

/-- A row is read from its fields one after the other, and what it carries last. -/
theorem row_eq (path : Path) (fields : Mapping) : row path (.mapping fields) = (do
    let name ← requiredString path .name fields
    let identifier ← requiredString path .identifier fields
    let t ← rowType path fields
    let editable ← editable path fields
    let keyboard ← keyboard path fields
    let flags ← optionalString path .flags fields
    let payload ← carried path t name identifier fields
    .ok { name, identifier, payload, editable, keyboard, flags := flags.getD "" }) := by
  rw [row]
  refine bind_congr fun name => bind_congr fun identifier => bind_congr fun t => bind_congr fun editable =>
    bind_congr fun keyboard => bind_congr fun flags => ?_
  cases t <;> simp only [carried, bind_assoc]

/-! ## Written rows and groups -/

/-- The fields of a written row. -/
def writtenFields (r : Row) : Mapping :=
  [("edit", .bool r.editable), ("flags", .string r.flags), ("identifier", .string r.identifier),
    ("keyboardHint", .string r.keyboard.name), ("name", .string r.name),
    ("type", .string r.payload.rowType.name), ("value", r.payload.toValue)]

section

variable (path : Path) (r : Row)

/-- The name of a written row is read back. -/
theorem requiredString_name : requiredString path .name (writtenFields r) = .ok r.name := rfl

/-- The identifier of a written row is read back. -/
theorem requiredString_identifier :
    requiredString path .identifier (writtenFields r) = .ok r.identifier := rfl

/-- The type of a written row is read back, as it is written by name. -/
theorem rowType_written : rowType path (writtenFields r) = .ok r.rowType := by
  have found : required path .type (writtenFields r) = .ok (.string r.rowType.name) := rfl
  rw [rowType, found]
  simp [RowType.ofValue?, RowType.ofName?_name, bind, Except.bind]

/-- Whether a written row can be edited is read back. -/
theorem editable_written : editable path (writtenFields r) = .ok r.editable := rfl

/-- The keyboard of a written row is read back. It is always written, so the early name is never asked for. -/
theorem keyboard_written : keyboard path (writtenFields r) = .ok r.keyboard := by
  have found : Mapping.get? "keyboardHint" (writtenFields r) = some (.string r.keyboard.name) := rfl
  rw [keyboard, found]
  simp [Keyboard.ofValue?_name]

/-- The flags of a written row are read back. They are written even if there are none. -/
theorem flags_written : optionalString path .flags (writtenFields r) = .ok (some r.flags) := rfl

/-- The value of a written row is what its payload is written as. -/
theorem required_value : required path .value (writtenFields r) = .ok r.payload.toValue := rfl

/-- A written row comes back with what it carries. -/
theorem row_written (path : Path) (r : Row) : row path r.toValue =
    carried path r.rowType r.name r.identifier (writtenFields r) >>= fun payload => .ok { r with payload } := by
  have fields : r.toValue = .mapping (writtenFields r) := by
    cases r
    rfl
  rw [fields, row_eq, requiredString_name, requiredString_identifier, rowType_written, editable_written,
    keyboard_written, flags_written]
  rfl

/-- A row that is neither nesting nor an action comes back if its payload is restorable. -/
theorem carried_flat_returns (flat : r.rowType.isStructural = false) (declarable : r.payload.Declarable) :
    Result.Returns (carried path r.rowType r.name r.identifier (writtenFields r)) r.payload
      r.payload.Restorable := by
  rw [carried_flat flat, flatPayload, required_value]
  obtain ⟨name, identifier, payload, editable, keyboard, flags⟩ := r
  have chosen (wrap : List Choice → Payload) {list : List Choice} (offered : list ≠ []) :
      Result.Returns (choices path.valueOf (.list (list.map Choice.toValue)) >>= fun read => .ok (wrap read))
        (wrap list) (list ≠ []) := by
    rw [choices_written _ offered]
    exact ((Result.returns_ok list).map wrap).congr (iff_of_true trivial offered)
  cases payload with
  | multiValue list => exact chosen .multiValue declarable
  | pickerList list => exact chosen .pickerList declarable
  | pickerView list => exact chosen .pickerView declarable
  | multiLevel _ | propertyList _ | action => cases flat
  | _ => exact leafPayload_returns path name identifier rfl rfl declarable

end

/-- A written group comes back with its rows. -/
theorem group_written (path : Path) (g : Group) : group path g.toValue =
    rowItems path.rowsOf 0 (rowValues g.rows) >>= fun rows => .ok { g with rows } := by
  obtain ⟨title, key, header, footer, rows⟩ := g
  cases key <;> cases header <;> cases footer <;> rfl

/-- The groups of a nested form are read back as groups, one by one. -/
theorem carried_groups (path : Path) (r : Row) {groups : List Group}
    (payload : r.payload = .multiLevel (some groups)) :
    carried path r.rowType r.name r.identifier (writtenFields r) =
      groupItems path.valueOf 0 (groupValues groups) >>= fun groups => .ok (.multiLevel (some groups)) := by
  obtain ⟨name, identifier, _, editable, keyboard, flags⟩ := r
  cases payload
  change ((groupItems path.valueOf 0 (groupValues groups) >>= fun groups => .ok (some groups)) >>=
    fun form => .ok (.multiLevel form) : Reading Payload) = _
  rw [bind_assoc]
  rfl

/-- The single group of a nested form is read back as a group. -/
theorem carried_group (path : Path) (r : Row) {nested : Group}
    (payload : r.payload = .propertyList (some nested)) :
    carried path r.rowType r.name r.identifier (writtenFields r) =
      group path.valueOf nested.toValue >>= fun nested => .ok (.propertyList (some nested)) := by
  obtain ⟨name, identifier, _, editable, keyboard, flags⟩ := r
  obtain ⟨title, key, header, footer, rows⟩ := nested
  cases payload
  change ((group path.valueOf (Group.toValue ⟨title, key, header, footer, rows⟩) >>= fun nested =>
    .ok (some nested)) >>= fun form => .ok (.propertyList form) : Reading Payload) = _
  rw [bind_assoc]
  rfl

end Wire

end SettingsForm
