import SettingsForm.Proofs.Session.Editing

/-!
# Which rows are shown as active

The innermost session has at most one active row, but an edit is remembered by its key, and a row is shown as
active if its identifier is that key (`Display.edited`). Rows that hold values have identifiers of their own,
and the row of an edit is always named, so no two of them are shown as active. An action row or a nesting
row may bear the identifier of another row, however, and it is then shown as active together with that row.
This is the only way in which several rows are (`Display.single`).
-/

namespace SettingsForm

/-- Another row bears the identifier of a structural row. -/
def Schema.Shares (schema : Schema) (identifier : String) : Prop :=
  ∃ position other row structural, schema.rowAt? position = some row ∧
    schema.rowAt? other = some structural ∧ position ≠ other ∧ row.identifier = identifier ∧
    structural.identifier = identifier ∧ structural.isPersisted = false

namespace Controller

open Operation

variable {σ : Type} [Host σ]

/-- The descriptors of all rows, over all sections. -/
def shown (c : Controller σ) : List RowDescriptor :=
  match c.sections with
  | .ok sections => sections.flatMap (·.rows)
  | .error _ => []

/-- The descriptors of the rows that are shown as active. -/
def highlighted (c : Controller σ) : List RowDescriptor := c.shown.filter (·.active)

/-- Every row of the innermost session is described, in display order. -/
theorem shown_eq {c : Controller σ} {top : Session} (first : c.top? = some top) :
    c.shown = top.schema.rows.map fun (position, row) => c.describe top position row := by
  simp [shown, sections, current_of_top first, bind, Except.bind, Schema.rows, List.flatMap_map,
    List.map_flatMap, Function.comp_def]

/-- The descriptors that are shown are those of the rows that stand in the innermost session. -/
theorem mem_shown {c : Controller σ} {top : Session} (first : c.top? = some top)
    {descriptor : RowDescriptor} :
    descriptor ∈ c.shown ↔ ∃ position row, top.schema.rowAt? position = some row ∧
      c.describe top position row = descriptor := by
  simp [shown_eq first, Schema.mem_rows]

/-- At most one row is shown as active just if all that are have the same position. -/
theorem highlighted_length_le_one {c : Controller σ} {top : Session} (first : c.top? = some top) :
    c.highlighted.length ≤ 1 ↔
      ∀ one ∈ c.highlighted, ∀ other ∈ c.highlighted, one.position = other.position := by
  have positions : c.shown.map (·.position) = top.schema.rows.map Prod.fst := by
    rw [shown_eq first, List.map_map]
    rfl
  have distinct : (c.highlighted.map (·.position)).Nodup :=
    (positions ▸ top.schema.nodup_positions).sublist (List.filter_sublist.map _)
  generalize c.highlighted = rows at distinct ⊢
  rcases rows with - | ⟨one, - | ⟨other, rest⟩⟩
  · simp
  · simp
  · have apart : one.position ≠ other.position := fun same =>
      (List.nodup_cons.mp distinct).1 (List.mem_cons.mpr (Or.inl same))
    refine iff_of_false (by simp) fun same => apart ?_
    exact same one List.mem_cons_self other (List.mem_cons_of_mem one List.mem_cons_self)

/-- A session without one opened from it shows a row as active if it has an edit open on the identifier. -/
theorem isActive_of_free {session : Session} (free : session.Free) (position : Position) (row : Row) :
    isActive session position row = true ↔ session.editing? = some row.identifier := by
  unfold isActive Session.editing?
  cases busy : session.active with
  | none => simp
  | some active =>
    cases active with
    | editing key => simp
    | navigating place child => exact absurd busy (free.notNavigating place child)

/-- A row is shown as active just if an edit is open on its identifier. -/
theorem active_describe {c : Controller σ} (reachable : Reachable c) {top : Session}
    (first : c.top? = some top) (position : Position) (row : Row) :
    (c.describe top position row).active = true ↔ c.editing? = some row.identifier := by
  rw [editing?, first, Option.bind_some]
  exact isActive_of_free (reachable.nested.free top first) position row

/-- The descriptors shown as active are those of the rows that bear the edited identifier. -/
theorem mem_highlighted {c : Controller σ} (reachable : Reachable c) {top : Session}
    (first : c.top? = some top) {descriptor : RowDescriptor} :
    descriptor ∈ c.highlighted ↔ ∃ position row, top.schema.rowAt? position = some row ∧
      c.editing? = some row.identifier ∧ c.describe top position row = descriptor := by
  rw [highlighted, List.mem_filter, mem_shown first]
  constructor
  · rintro ⟨⟨position, row, there, rfl⟩, active⟩
    exact ⟨position, row, there, (active_describe reachable first position row).mp active, rfl⟩
  · rintro ⟨position, row, there, edited, rfl⟩
    exact ⟨⟨position, row, there, rfl⟩, (active_describe reachable first position row).mpr edited⟩

/-- Besides an edited row that holds a value, only structural rows bear its identifier: the row of an edit is
named, and no two rows that hold values have the same name. -/
theorem structural_of_edited {c : Controller σ} (reachable : Reachable c) {top : Session}
    (first : c.top? = some top) {position other : Position} {row twin : Row}
    (there : top.schema.rowAt? position = some row) (elsewhere : top.schema.rowAt? other = some twin)
    (edited : c.editing? = some row.identifier) (persisted : row.isPersisted = true)
    (equal : row.identifier = twin.identifier) (apart : position ≠ other) : twin.isPersisted = false := by
  have member := mem_of_top? first
  have formed := reachable.formed top member
  have named : row.identifier ≠ "" := by
    rw [editing?, first, Option.bind_some] at edited
    exact formed.resolve?_ne_empty (reachable.anchored top member row.identifier edited)
  rw [← Bool.not_eq_true]
  exact fun alsoPersisted =>
    apart (formed.dependable.unique position row other twin there elsewhere persisted alsoPersisted named equal)

/-- Which rows of the innermost session are shown as active. -/
structure Display (c : Controller σ) (top : Session) : Prop where
  /-- A row is, just if an edit is open on its identifier. -/
  edited : ∀ descriptor ∈ c.shown, descriptor.active = true ↔ c.editing? = some descriptor.identifier
  /-- At most one row is, unless the edit is open on an identifier that a structural row shares. -/
  single : c.highlighted.length ≤ 1 ↔ ∀ key, c.editing? = some key → ¬ top.schema.Shares key
  /-- The row that holds a value is, if an edit is open on its identifier. Any other is a structural row. -/
  value : ∀ position row, top.schema.rowAt? position = some row → row.isPersisted = true →
    c.editing? = some row.identifier → c.describe top position row ∈ c.highlighted ∧
      ∀ other ∈ c.highlighted, other.position = position ∨
        other.rowType.isStructural = true ∧ other.identifier = row.identifier

/-- In a reachable controller rows are shown as active as the open edit says. -/
theorem display_reachable {c : Controller σ} (reachable : Reachable c) {top : Session}
    (first : c.top? = some top) : Display c top := by
  refine ⟨?_, (highlighted_length_le_one first).trans ⟨?_, ?_⟩, ?_⟩
  · intro descriptor listed
    obtain ⟨position, row, -, rfl⟩ := (mem_shown first).mp listed
    exact active_describe reachable first position row
  · rintro one key edited ⟨position, other, row, twin, there, elsewhere, apart, rfl, equal, -⟩
    have also : c.editing? = some twin.identifier := by rw [equal, edited]
    exact apart (one _ ((mem_highlighted reachable first).mpr ⟨position, row, there, edited, rfl⟩)
      _ ((mem_highlighted reachable first).mpr ⟨other, twin, elsewhere, also, rfl⟩))
  · intro unshared one listed other alsoListed
    obtain ⟨position, row, there, edited, rfl⟩ := (mem_highlighted reachable first).mp listed
    obtain ⟨place, twin, elsewhere, also, rfl⟩ := (mem_highlighted reachable first).mp alsoListed
    have equal : row.identifier = twin.identifier := Option.some.inj (edited.symm.trans also)
    by_contra apart
    -- One of the two rows is structural, whichever it is.
    cases persisted : row.isPersisted with
    | true =>
      have kind := structural_of_edited reachable first there elsewhere edited persisted equal apart
      exact unshared _ edited ⟨position, place, row, twin, there, elsewhere, apart, rfl, equal.symm, kind⟩
    | false =>
      exact unshared _ edited
        ⟨place, position, twin, row, elsewhere, there, Ne.symm apart, equal.symm, rfl, persisted⟩
  · intro position row there persisted edited
    refine ⟨(mem_highlighted reachable first).mpr ⟨position, row, there, edited, rfl⟩, ?_⟩
    intro other listed
    obtain ⟨place, twin, elsewhere, also, rfl⟩ := (mem_highlighted reachable first).mp listed
    have equal : row.identifier = twin.identifier := Option.some.inj (edited.symm.trans also)
    by_cases apart : position = place
    · exact Or.inl apart.symm
    · have kind : twin.rowType.isStructural = true := by
        simpa [Row.isPersisted] using
          structural_of_edited reachable first there elsewhere edited persisted equal apart
      exact Or.inr ⟨kind, equal.symm⟩

/-- While the name of a person is edited, no other row is shown as active: no structural row shares its
identifier. -/
theorem display_reachable_person :
    Reachable (runs [.beginEdit "name"] personStarted) ∧
      (runs [.beginEdit "name"] personStarted).editing? = some "name" ∧
      (runs [.beginEdit "name"] personStarted).highlighted.length ≤ 1 := by
  have reachable : Reachable (runs [.beginEdit "name"] personStarted) :=
    ⟨_, _, _, _, _, start_person, rfl⟩
  refine ⟨reachable, rfl, (display_reachable reachable rfl).single.mpr ?_⟩
  rintro key edited ⟨-, place, -, structural, -, there, -, -, bears, kind⟩
  obtain rfl := Option.some.inj edited
  have listed := Schema.mem_rows.mpr there
  rcases List.mem_pair.mp listed with held | held
  · obtain ⟨-, rfl⟩ := Prod.mk.inj held
    cases kind
  · obtain ⟨-, rfl⟩ := Prod.mk.inj held
    exact absurd bears (by decide)

/-- An age and the action that clears it, under one identifier. -/
def clearableForm : List Group :=
  [⟨"Person", none, none, none, [.ofInteger "Age" "age" 1, .ofPayload "Clear" "age" .action]⟩]

/-- While the age is edited, the action is shown as active as well. -/
theorem clear_shown_active :
    ∃ started, start clearableForm (StaticHost.ofValues [] []) .standard = .ok started ∧
      (runs [.beginEdit "age"] started).editing? = some "age" ∧
      (runs [.beginEdit "age"] started).highlighted.map (fun row => (row.position, row.rowType)) =
        [(⟨0, 0⟩, .integer), (⟨0, 1⟩, .action)] :=
  ⟨_, by rfl, by rfl, by rfl⟩

end Controller

end SettingsForm
