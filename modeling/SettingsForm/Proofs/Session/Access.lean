import SettingsForm.Proofs.Session.Steady

/-!
# Access by position and by identifier

The innermost session can be read by position, through its sections, by identifier, and by the key under which
its store keeps a value. For a row that holds a value and has an identifier these ways lead to the same row and
the same value (`Controller.access_reachable`), however often the host has refreshed the schema: in every
reachable controller the index of the schema is consistent with its groups, so an identifier resolves to the
row that bears it, and such a row keeps its value under its identifier.
-/

namespace SettingsForm

namespace Controller

variable {σ : Type}

/-- A form has the rows of its innermost session. -/
theorem rowAt?_eq_some_iff {c : Controller σ} {position : Position} {row : Row} :
    c.rowAt? position = some row ↔
      ∃ top, c.top? = some top ∧ top.schema.rowAt? position = some row :=
  Option.bind_eq_some_iff

/-- A row that holds a value keeps it under its identifier. -/
theorem storageKey_persisted {row : Row} (persisted : row.isPersisted = true) :
    storageKey row = row.identifier := by
  simp only [Row.isPersisted, RowType.isStructural, Bool.not_or, Bool.and_eq_true] at persisted
  rw [storageKey, if_neg (by simpa using persisted.1)]

/-- A form has the edits of its innermost session. -/
theorem edits_of_top {c : Controller σ} {top : Session} (first : c.top? = some top) :
    c.edits = .ok top.edits := by
  simp [edits, current_of_top first, bind, Except.bind]

/-- The choices of the row that a key resolves to are listed in order and marked by the value in effect. -/
theorem choices?_of_resolve {c : Controller σ} {top : Session} (first : c.top? = some top) {key : String}
    {row : Row} (resolved : top.schema.resolve? key = some row) {listed : List ChoiceDescriptor}
    (offered : c.choices? key = some listed) :
    listed.map (fun entry => Choice.mk entry.name entry.value) = row.choices ∧
      ∀ entry ∈ listed,
        entry.selected = true ↔ (entry.value == top.store.effective key row.declaredValue) = true := by
  simp only [choices?, first, resolved, Option.bind_eq_bind, Option.bind_some,
    Option.ite_none_left_eq_some, Option.some.injEq] at offered
  obtain ⟨-, rfl⟩ := offered
  constructor
  · rw [List.map_map]
    exact List.zipIdx_map_fst 0 row.choices
  · intro entry member
    obtain ⟨⟨choice, index⟩, -, rfl⟩ := List.mem_map.mp member
    rfl

variable [Host σ]

/-- The descriptor at a position of the innermost session describes the row that stands there. -/
theorem descriptor_of_top {c : Controller σ} {top : Session} (first : c.top? = some top) {position : Position}
    {row : Row} (there : top.schema.rowAt? position = some row) :
    c.descriptor position = .ok (c.describe top position row) := by
  simp [descriptor, rowAt, current_of_top first, bind, Except.bind, there]

/-- Among the sections the row at a position is described in the same way. -/
theorem sections_of_top {c : Controller σ} {top : Session} (first : c.top? = some top) {position : Position}
    {row : Row} (there : top.schema.rowAt? position = some row) :
    ∃ sections, c.sections = .ok sections ∧
      (sections[position.group]?.bind (·.rows[position.row]?)) = some (c.describe top position row) := by
  obtain ⟨group, placed, held⟩ := Schema.rowAt?_eq_some_iff.mp there
  refine ⟨_, by rw [sections, current_of_top first]; rfl, ?_⟩
  simp [placed, held]

/-- What is read of a row by its position and what is read of it by its identifier. -/
structure Accessed (c : Controller σ) (position : Position) (row : Row) (shown : RowDescriptor) : Prop where
  place : c.positionOf? row.identifier = some position
  resolved : c.rowFor? row.identifier = some row
  described : c.descriptor position = .ok shown
  within : ∃ sections, c.sections = .ok sections ∧
    (sections[position.group]?.bind (·.rows[position.row]?)) = some shown
  value : c.effective? row.identifier = some shown.value
  /-- The row is shown as dirty just if it is among the edits. -/
  dirty : ∃ edits, c.edits = .ok edits ∧ (shown.dirty = true ↔ Mapping.contains row.identifier edits = true)
  /-- If choices are offered, they are those of the row, and the ones equal to the shown value are marked. -/
  choices : ∀ listed, c.choices? row.identifier = some listed →
    listed.map (fun entry => Choice.mk entry.name entry.value) = row.choices ∧
      ∀ entry ∈ listed, entry.selected = true ↔ (entry.value == shown.value) = true

/-- In a reachable controller, a row that holds a value and has an identifier is read alike in all ways. -/
theorem access_reachable {c : Controller σ} (reachable : Reachable c) {position : Position} {row : Row}
    (there : c.rowAt? position = some row) (persisted : row.isPersisted = true) (named : row.identifier ≠ "") :
    ∃ shown, Accessed c position row shown := by
  obtain ⟨top, first, held⟩ := rowAt?_eq_some_iff.mp there
  have consistent := reachable.formed top (mem_of_top? first)
  have found := consistent.dependable.found position row held persisted named
  have resolved := consistent.resolve?_persisted held persisted named
  have stored := storageKey_persisted persisted
  exact ⟨c.describe top position row, {
    place := by
      rw [positionOf?, first]
      exact found.1
    resolved := by
      rw [rowFor?, first]
      exact resolved
    described := descriptor_of_top first held
    within := sections_of_top first held
    value := by
      rw [effective?_declared first resolved]
      simp only [describe, stored]
    dirty := by
      refine ⟨top.edits, edits_of_top first, ?_⟩
      simp [describe, stored, named, Store.isDirty, Session.edits]
    choices := by
      intro listed offered
      have marked := choices?_of_resolve first resolved offered
      simpa only [describe, stored] using marked }⟩

/-- A host that puts a row in front of the others as soon as something changes. -/
structure WideningHost where

/-- A colour to be picked. -/
def colourRow : Row :=
  .ofPayload "Colour" "colour" (.pickerList [⟨"Red", .string "r"⟩, ⟨"Blue", .string "b"⟩])

/-- It puts the width in front of the colour after each change. -/
instance : Host WideningHost where
  initialValues host := ([], host)
  refreshSchema _ _ host := (.rows "pen" [.ofInteger "Width" "width" 1, colourRow], host)

/-- A form in which a colour is picked. -/
def penForm : List Group := [⟨"Pen", some "pen", none, none, [colourRow]⟩]

/-- Once the colour is picked, it is the second row, and is still read alike in all ways. -/
theorem access_reachable_pen :
    ∃ started, start penForm WideningHost.mk .standard = .ok started ∧
      Reachable (runs [.commit "colour" (.string "Blue")] started) ∧
      (runs [.commit "colour" (.string "Blue")] started).rowAt? ⟨0, 1⟩ = some colourRow ∧
      colourRow.isPersisted = true ∧ colourRow.identifier ≠ "" ∧
      ∃ shown, Accessed (runs [.commit "colour" (.string "Blue")] started) ⟨0, 1⟩ colourRow shown ∧
        shown.value = .string "b" := by
  refine ⟨_, rfl, ?_⟩
  generalize picked : (runs [.commit "colour" (.string "Blue")] _ : Controller WideningHost) = c
  have reachable : Reachable c := ⟨penForm, WideningHost.mk, .standard, _, _, rfl, picked.symm⟩
  have there : c.rowAt? ⟨0, 1⟩ = some colourRow := by
    subst picked
    rfl
  have persisted : colourRow.isPersisted = true := by rfl
  have named : colourRow.identifier ≠ "" := by decide
  obtain ⟨shown, accessed⟩ := access_reachable reachable there persisted named
  have inEffect : c.effective? colourRow.identifier = some (.string "b") := by
    subst picked
    rfl
  exact ⟨reachable, there, persisted, named, shown, accessed,
    Option.some.inj (accessed.value.symm.trans inEffect)⟩

end Controller

end SettingsForm
