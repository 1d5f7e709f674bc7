import SettingsForm.Proofs.Result
import SettingsForm.Proofs.Schema.Entries

/-!
# What indexing does

Indexing goes through the listed rows once and enters them one by one. It succeeds just if every row is
sound by itself and the rows that hold values bear distinct identifiers, which the index does not hold yet
(`enterAll_ok_iff`). The index then holds the new entries beside the old ones: looking an identifier up
asks the old entries first and then the rows in display order.

Nested forms are validated by the same functions; here they are part of what makes a row sound.
-/

namespace SettingsForm

/-- A row is sound if it has choices when its type asks for them and its nested form is valid. -/
structure Row.Sound (level : Nat) (row : Row) : Prop where
  offered : row.rowType.hasChoices = true → row.choices ≠ []
  nested : checkRow level row = .ok ()

namespace Index

/-- Adds an entry unless its identifier is known. -/
def note (known : List (String × Position)) (entry : String × Position) : List (String × Position) :=
  if (known.lookup entry.1).isSome then known else entry :: known

/-- The index with the entries of further rows. -/
def extended (index : Index) (entries : List (Position × Row)) : Index where
  values := (bearing true entries).reverse ++ index.values
  structural := (bearing false entries).foldl note index.structural

/-- Validates a row and adds it to an index. -/
def enter (level : Nat) (index : Index) (entry : Position × Row) : Except SchemaError Index :=
  if entry.2.rowType.hasChoices ∧ entry.2.choices.isEmpty then .error (.emptyChoiceSet (.ofPosition entry.1))
  else do
    checkRow level entry.2
    index.insert level entry.1 entry.2

/-- Indexing the rows of a group enters them one by one. -/
theorem indexRows_eq (level : Nat) (position : Position) (index : Index) (rows : List Row) :
    indexRows level position index rows = (rowsFrom position rows).foldlM (enter level) index := by
  induction rows generalizing position index with
  | nil => rfl
  | cons row rest inductionHypothesis =>
    rw [indexRows, rowsFrom, List.foldlM_cons, enter]
    by_cases bare : row.rowType.hasChoices ∧ row.choices.isEmpty
    · rw [if_pos bare, if_pos bare]
      rfl
    · rw [if_neg bare, if_neg bare, bind_assoc]
      simp only [inductionHypothesis]

/-- Indexing groups enters their rows in display order. -/
theorem indexGroups_eq (level place : Nat) (index : Index) (groups : List Group) :
    indexGroups level place index groups = (groupsFrom place groups).foldlM (enter level) index := by
  induction groups generalizing place index with
  | nil => rfl
  | cons group rest inductionHypothesis =>
    obtain ⟨title, key, header, footer, rows⟩ := group
    rw [indexGroups, groupsFrom, List.foldlM_append, indexRows_eq]
    simp only [inductionHypothesis]

/-- A row of the wanted kind with an identifier makes one entry. -/
theorem bearing_single {persisted : Bool} (position : Position) {row : Row}
    (named : row.identifier ≠ "") (kind : row.isPersisted = persisted) :
    bearing persisted [(position, row)] = [(row.identifier, position)] := by
  simp [bearing, named, kind]

/-- A row without an identifier, or of the other kind, makes no entry. -/
theorem bearing_skipped {persisted : Bool} {position : Position} {row : Row}
    (other : row.identifier = "" ∨ row.isPersisted ≠ persisted) :
    bearing persisted [(position, row)] = [] := by
  rcases other with unnamed | kind
  · simp [bearing, unnamed]
  · simp [bearing, kind]

/-- A row is added unless it holds a value under an identifier that is known for such a row. -/
theorem insert_ok_iff {level : Nat} {index after : Index} {position : Position} {row : Row} :
    index.insert level position row = .ok after ↔
      (∀ identifier ∈ (bearing true [(position, row)]).map Prod.fst,
          index.values.lookup identifier = none) ∧
        index.extended [(position, row)] = after := by
  by_cases unnamed : row.identifier = ""
  · have value : bearing true [(position, row)] = [] := bearing_skipped (Or.inl unnamed)
    have structural : bearing false [(position, row)] = [] := bearing_skipped (Or.inl unnamed)
    simp [Index.insert, extended, value, structural, unnamed]
  · cases kind : row.isPersisted with
    | true =>
      have value := bearing_single position unnamed kind
      have structural : bearing false [(position, row)] = [] := bearing_skipped (Or.inr (by simp [kind]))
      cases known : index.values.lookup row.identifier with
      | none =>
        simp only [Index.insert, extended, value, structural, unnamed, kind, known, if_true, if_false,
          Except.ok.injEq, List.map_cons, List.map_nil, List.mem_singleton, forall_eq, true_and,
          List.reverse_singleton, List.singleton_append, List.foldl_nil]
      | some first =>
        simp only [Index.insert, value, unnamed, kind, known, if_true, if_false, List.map_cons,
          List.map_nil, List.mem_singleton, forall_eq, reduceCtorEq, false_and]
    | false =>
      have value : bearing true [(position, row)] = [] := bearing_skipped (Or.inr (by simp [kind]))
      have structural := bearing_single position unnamed kind
      by_cases known : (index.structural.lookup row.identifier).isSome = true
      · simp [Index.insert, extended, note, value, structural, unnamed, kind, known]
      · simp [Index.insert, extended, note, value, structural, unnamed, kind, known]

/-- One row is entered if it is sound and can be added. -/
theorem enter_ok_iff {level : Nat} {index after : Index} {entry : Position × Row} :
    index.enter level entry = .ok after ↔ entry.2.Sound level ∧
      (∀ identifier ∈ (bearing true [entry]).map Prod.fst, index.values.lookup identifier = none) ∧
        index.extended [entry] = after := by
  obtain ⟨position, row⟩ := entry
  by_cases bare : row.rowType.hasChoices = true ∧ row.choices.isEmpty = true
  · have unsound : ¬ row.Sound level := fun sound =>
      sound.offered bare.1 (List.isEmpty_iff.mp bare.2)
    simp [enter, bare, unsound]
  · have offered : row.rowType.hasChoices = true → row.choices ≠ [] := fun asked none =>
      bare ⟨asked, List.isEmpty_iff.mpr none⟩
    rw [enter, if_neg bare]
    cases nested : checkRow level row with
    | error error =>
      have unsound : ¬ row.Sound level := by
        intro sound
        have valid := sound.nested
        rw [nested] at valid
        cases valid
      simp [bind, Except.bind, unsound]
    | ok valid =>
      have sound : row.Sound level := ⟨offered, nested⟩
      simp only [bind, Except.bind, insert_ok_iff, sound, true_and]

/-- Noting an entry adds it to what is looked up, unless its identifier is known. -/
theorem lookup_note (known : List (String × Position)) (entry : String × Position) (identifier : String) :
    (note known entry).lookup identifier = (known.lookup identifier).or ([entry].lookup identifier) := by
  obtain ⟨name, position⟩ := entry
  cases earlier : known.lookup name with
  | some first =>
    rw [note, if_pos (by rw [earlier]; rfl)]
    cases found : known.lookup identifier with
    | some place => rfl
    | none =>
      have different : (identifier == name) = false := by
        rw [beq_eq_false_iff_ne]
        rintro rfl
        rw [found] at earlier
        cases earlier
      simp [List.lookup_cons, different]
  | none =>
    rw [note, if_neg (by rw [earlier]; decide)]
    cases same : identifier == name with
    | true =>
      obtain rfl := eq_of_beq same
      simp [earlier]
    | false => simp [List.lookup_cons, same]

/-- What was known stays known; of further entries the first one counts. -/
theorem lookup_noted (entries known : List (String × Position)) (identifier : String) :
    (entries.foldl note known).lookup identifier =
      (known.lookup identifier).or (entries.lookup identifier) := by
  induction entries generalizing known with
  | nil => simp
  | cons entry rest inductionHypothesis =>
    have split : (entry :: rest).lookup identifier =
        ([entry].lookup identifier).or (rest.lookup identifier) := by
      rw [← List.lookup_append, List.singleton_append]
    rw [List.foldl_cons, inductionHypothesis, lookup_note, split, Option.or_assoc]

/-- What is noted was known or is one of the entries. -/
theorem mem_noted {entries known : List (String × Position)} {entry : String × Position}
    (member : entry ∈ entries.foldl note known) : entry ∈ known ∨ entry ∈ entries := by
  induction entries generalizing known with
  | nil => exact Or.inl member
  | cons first rest inductionHypothesis =>
    rcases inductionHypothesis member with noted | later
    · rw [note] at noted
      split at noted
      · exact Or.inl noted
      · rcases List.mem_cons.mp noted with rfl | earlier
        · exact Or.inr List.mem_cons_self
        · exact Or.inl earlier
    · exact Or.inr (List.mem_cons_of_mem first later)

/-- Every identifier is noted once. -/
theorem nodup_noted (entries : List (String × Position)) {known : List (String × Position)}
    (unique : (known.map Prod.fst).Nodup) : ((entries.foldl note known).map Prod.fst).Nodup := by
  induction entries generalizing known with
  | nil => exact unique
  | cons entry rest inductionHypothesis =>
    refine inductionHypothesis ?_
    rw [note]
    split
    · exact unique
    · rename_i unknown
      have absent : known.lookup entry.1 = none := Option.not_isSome_iff_eq_none.mp unknown
      exact List.nodup_cons.mpr ⟨lookup_eq_none_iff_keys.mp absent, unique⟩

/-- Two lists of rows extend an index one after the other. -/
theorem extended_append (index : Index) (first second : List (Position × Row)) :
    index.extended (first ++ second) = (index.extended first).extended second := by
  simp [extended, bearing_append]

/-- Rows are entered one after the other just if each is sound and those that hold values bear distinct
identifiers that are not known yet. -/
theorem enterAll_ok_iff {level : Nat} {entries : List (Position × Row)} {index after : Index} :
    entries.foldlM (enter level) index = .ok after ↔ (∀ entry ∈ entries, entry.2.Sound level) ∧
      ((bearing true entries).map Prod.fst).Nodup ∧
      (∀ identifier ∈ (bearing true entries).map Prod.fst, index.values.lookup identifier = none) ∧
      index.extended entries = after := by
  induction entries generalizing index with
  | nil => simp [bearing, extended, pure, Except.pure]
  | cons entry rest inductionHypothesis =>
    have split : bearing true (entry :: rest) = bearing true [entry] ++ bearing true rest :=
      bearing_append true [entry] rest
    have single : ((bearing true [entry]).map Prod.fst).Nodup := by
      simp only [bearing, List.filterMap_cons, List.filterMap_nil]
      split <;> simp
    have lookup (identifier : String) : (index.extended [entry]).values.lookup identifier = none ↔
        identifier ∉ (bearing true [entry]).map Prod.fst ∧ index.values.lookup identifier = none := by
      rw [lookup_eq_none_iff_keys, lookup_eq_none_iff_keys]
      simp [extended]
    rw [List.foldlM_cons, Result.bind_eq_ok_iff, split, List.map_append, List.nodup_append]
    simp only [enter_ok_iff, inductionHypothesis]
    constructor
    · rintro ⟨middle, ⟨sound, unknown, rfl⟩, others, distinct, further, rfl⟩
      refine ⟨List.forall_mem_cons.mpr ⟨sound, others⟩, ⟨single, distinct, ?_⟩, ?_, ?_⟩
      · rintro identifier present _ later rfl
        exact ((lookup identifier).mp (further identifier later)).1 present
      · intro identifier named
        rcases List.mem_append.mp named with present | later
        · exact unknown identifier present
        · exact ((lookup identifier).mp (further identifier later)).2
      · exact extended_append index [entry] rest
    · rintro ⟨sound, ⟨-, distinct, apart⟩, unknown, rfl⟩
      obtain ⟨first, others⟩ := List.forall_mem_cons.mp sound
      refine ⟨_, ⟨first, ?_, rfl⟩, others, distinct, ?_, ?_⟩
      · exact fun identifier present => unknown identifier (List.mem_append_left _ present)
      · intro identifier later
        refine (lookup identifier).mpr ⟨fun present => apart identifier present identifier later rfl, ?_⟩
        exact unknown identifier (List.mem_append_right _ later)
      · exact (extended_append index [entry] rest).symm

end Index

end SettingsForm
