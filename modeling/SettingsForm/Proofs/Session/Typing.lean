import SettingsForm.Proofs.Contract.Conversion
import SettingsForm.Proofs.Schema.Updates
import SettingsForm.Proofs.Session.Lineage

/-!
# Stored values are well typed

With the contracts of the types in force and a host that leaves the schema alone, a value is stored for a
row in one of two ways: the contract of the row's type returned it, or it is the mapping of a dismissed
session whose nesting row writes to the same key. The first kind is accepted again by the same contract,
unless it is the text of a remote date; the second kind ignores the type.

Two rows with one key are possible because only rows that hold values are kept apart by their identifiers;
the merge key of a nesting row may be the identifier of another row.
-/

namespace SettingsForm

/-- Where a value that is stored under a row's identifier can come from. -/
inductive Provenance (lenient : Bool) (schema : Schema) (row : Row) : Value → Prop where
  /-- The contract of the row's type returned it. -/
  | converted {raw value : Value}
      (accepted : (Contract.builtin row.rowType).coerce row.identifier row raw lenient = .ok value) :
      Provenance lenient schema row value
  /-- A session handed its edits over that was opened from a nesting row with this key. -/
  | handedOver {position : Position} {nesting : Row} {edits : Mapping}
      (there : schema.rowAt? position = some nesting) (nests : nesting.rowType.isNesting = true)
      (keyed : nesting.mergeKey = row.identifier) (edited : edits ≠ []) :
      Provenance lenient schema row (.mapping edits)

namespace Session

/-- What is stored for a row that holds a value has one of these origins. -/
structure Traced (lenient : Bool) (session : Session) : Prop where
  consistent : session.schema.Consistent
  provenance : ∀ position row value, session.schema.rowAt? position = some row → row.isPersisted = true →
    row.identifier ≠ "" → Mapping.get? row.identifier session.edits = some value →
    Provenance lenient session.schema row value

/-- The row from which a session was opened is a nesting row of its parent. -/
def NestsIn (parent child : Session) : Prop :=
  ∀ origin, child.origin = some origin → ∃ row, parent.schema.rowAt? origin.position = some row ∧
    row.rowType.isNesting = true ∧ row.mergeKey = origin.mergeKey

/-- A session that just opened holds nothing that had to come from somewhere. -/
theorem traced_of_built {session : Session} {groups : List Group} {level : Nat} {lenient : Bool}
    (built : Schema.build groups level = .ok session.schema) (blank : session.edits = []) :
    session.Traced lenient where
  consistent := by
    obtain ⟨valid, same⟩ := Schema.build_ok_iff.mp built
    rw [← same]
    exact Schema.consistent_indexed valid
  provenance := by
    intro position row value there persisted named stored
    rw [blank] at stored
    cases stored

/-- One more value is stored, and it has an origin for each row with its key. -/
theorem Traced.insert {lenient : Bool} {session : Session} (traced : session.Traced lenient) {key : String}
    {value : Value} (origin : ∀ position row, session.schema.rowAt? position = some row →
      row.isPersisted = true → row.identifier ≠ "" → row.identifier = key →
      Provenance lenient session.schema row value) :
    Traced lenient
      { session with store := { session.store with edits := Mapping.insert key value session.edits } } where
  consistent := traced.consistent
  provenance := by
    intro position row found there persisted named stored
    by_cases same : row.identifier = key
    · obtain rfl : value = found := by
        simpa [Session.edits, Mapping.get?_insert, same] using stored
      exact origin position row there persisted named same
    · refine traced.provenance position row found there persisted named ?_
      simpa [Session.edits, Mapping.get?_insert, same] using stored

end Session

namespace Controller

variable {σ : Type} [Host σ]

/-- Values of known origin are handed down as the sessions are. -/
theorem handed_traced (passive : Host.Passive σ) (config : Config) :
    Handed σ Registry.Plain config (Session.Traced config.lenientStrings) Session.NestsIn where
  steady := passive.schemas
  busy := fun _ _ traced => ⟨traced.consistent, traced.provenance⟩
  related := fun _ _ _ nests => nests
  stored := by
    rintro c session key row contract raw committed store plain rfl top found stored traced
    obtain ⟨present, declared, first, resolved, -, rfl, -, rfl⟩ := writableRow_cases found
    obtain rfl := Option.some.inj (top.symm.trans first)
    rw [contractFor_plain passive plain] at stored
    obtain ⟨converted, ⟨-, -, rfl⟩ | ⟨-, -, rfl⟩⟩ := Store.commit_cases stored
    · exact traced
    · refine traced.insert ?_
      rintro position row there persisted named rfl
      -- The row that holds values under this key is the one that the commit looked up.
      have looked := (traced.consistent.dependable.found position row there persisted named).2
      rw [Schema.resolve?, looked, Option.some_or] at resolved
      obtain rfl := Option.some.inj resolved
      exact .converted converted
  opened := by
    intro c asked top position row groups schema id plain _ found supplied built _
    obtain ⟨-, -, there, recurses⟩ := nestingRow_cases found
    rw [contractFor_plain passive plain, Contract.recurses_builtin] at recurses
    refine ⟨Session.traced_of_built built rfl, ?_⟩
    rintro origin named
    obtain rfl := Option.some.inj named
    exact ⟨row, there, recurses, rfl⟩
  merged := by
    intro parent child origin named traced _ nests
    obtain ⟨row, there, nesting, keyed⟩ := nests origin named
    cases edits : child.edits with
    | nil => exact ⟨traced.consistent, traced.provenance⟩
    | cons entry rest =>
      have handedOver : ∀ position other, parent.schema.rowAt? position = some other →
          other.isPersisted = true → other.identifier ≠ "" → other.identifier = origin.mergeKey →
          Provenance config.lenientStrings parent.schema other (.mapping (entry :: rest)) := by
        intro position other _ _ _ same
        exact .handedOver there nesting (keyed.trans same.symm) (List.cons_ne_nil entry rest)
      have resumed := traced.insert handedOver
      exact ⟨resumed.consistent, resumed.provenance⟩

/-- A value that is stored for a row is accepted by the strict contract of the row's type, and comes back
equal, in every run. There are two exceptions: a mapping handed over by a session whose nesting row has the
identifier of that row as its merge key, and the text of a date before the year 0 or after the year 9999
that was committed leniently. -/
theorem typed_runs (passive : Host.Passive σ) {groups : List Group} {host : σ} {config : Config}
    {started : Controller σ} (start : start groups host config = .ok started)
    (requests : List (Request σ))
    (plain : ∀ registry, .replaceRegistry registry ∈ requests → registry.Plain) {session : Session}
    (live : session ∈ (runs requests started).stack.sessions) {position : Position} {row : Row}
    (there : session.schema.rowAt? position = some row) (persisted : row.isPersisted = true)
    (named : row.identifier ≠ "") {value : Value}
    (stored : Mapping.get? row.identifier session.edits = some value) :
    (∃ same, (Contract.builtin row.rowType).coerce row.identifier row value false = .ok same ∧
        (same == value) = true) ∨
      (∃ place nesting edits, session.schema.rowAt? place = some nesting ∧
        nesting.rowType.isNesting = true ∧ nesting.mergeKey = row.identifier ∧ edits ≠ [] ∧
        value = .mapping edits) ∨
      row.rowType = .date ∧ config.lenientStrings = true ∧
        ∃ text, value = .string text ∧ DateText.Remote text := by
  have lineage := (handed_traced passive config).runs start (fun _ => rfl)
    (fun built => Session.traced_of_built built rfl) requests plain
  cases (lineage.chain.all session live).provenance position row value there persisted named stored with
  | handedOver place nests keyed edited => exact Or.inr (Or.inl ⟨_, _, _, place, nests, keyed, edited, rfl⟩)
  | converted accepted =>
    cases lenient : config.lenientStrings with
    | false =>
      rw [lenient] at accepted
      exact Or.inl (Contract.settles_of_strict accepted false)
    | true =>
      rcases Contract.settles_of_coerce accepted with settles | ⟨date, far⟩
      · exact Or.inl (settles false)
      · exact Or.inr (Or.inr ⟨date, rfl, far⟩)

/-- The session of a person whose name and street were entered. -/
def personEntered : Session :=
  .ofRoot "Person" (.indexed 0 personForm)
    { input := [], fallback := []
      edits := [("home", .mapping [("street", .string "Elm")]), ("name", .string "Ann")] }

/-- A name is entered before an address is, and stays a text. -/
theorem typed_runs_person :
    (runs [.commit "name" (.string "Ann"), .push 0 ⟨0, 1⟩, .commit "street" (.string "Elm"), .dismiss]
        personStarted).stack.sessions = [personEntered] ∧
      ∃ same, (Contract.builtin .string).coerce "name" (.ofPayload "Name" "name" (.string ""))
        (.string "Ann") false = .ok same ∧ (same == .string "Ann") = true := by
  have sessions : (runs [.commit "name" (.string "Ann"), .push 0 ⟨0, 1⟩, .commit "street" (.string "Elm"),
      .dismiss] personStarted).stack.sessions = [personEntered] := by rfl
  have live : personEntered ∈ (runs [.commit "name" (.string "Ann"), .push 0 ⟨0, 1⟩,
      .commit "street" (.string "Elm"), .dismiss] personStarted).stack.sessions := by simp [sessions]
  have there : personEntered.schema.rowAt? ⟨0, 0⟩ = some (.ofPayload "Name" "name" (.string "")) := by rfl
  have typed := typed_runs StaticHost.passive start_person _ (by simp) live there (by rfl) (by decide)
    (by rfl)
  refine ⟨sessions, ?_⟩
  rcases typed with same | ⟨place, nesting, edits, -, -, -, -, other⟩ | ⟨date, -⟩
  · exact same
  · cases other
  · cases date

/-- A form with an age, a nested form under the same key, and a date. -/
def shadowedForm : List Group :=
  [⟨"T", none, none, none, [.ofInteger "Age" "age" 1,
    .ofPayload "More" "age" (.multiLevel (some [⟨"In", none, none, none, [.ofPayload "X" "x" (.string "")]⟩])),
    .ofPayload "D" "d" (.date none)]⟩]

/-- The age becomes a mapping once the nested form is dismissed, and the date becomes a text that is no
date. -/
theorem typed_runs_shadowed :
    ∃ started session, start shadowedForm (StaticHost.ofValues [] []) .standard = .ok started ∧
      (runs [.push 0 ⟨0, 1⟩, .commit "x" (.string "y"), .dismiss,
        .commit "d" (.number (.integer 253402300800 (by decide)))] started).stack.sessions = [session] ∧
      session.edits = [("age", .mapping [("x", .string "y")]),
        ("d", .string "+10000-01-01T00:00:00+00:00")] ∧
      (∃ error, (Contract.builtin .integer).coerce "age" (.ofInteger "Age" "age" 1)
        (.mapping [("x", .string "y")]) false = .error error) ∧
      ∃ error, (Contract.builtin .date).coerce "d" (.ofPayload "D" "d" (.date none))
        (.string "+10000-01-01T00:00:00+00:00") false = .error error :=
  ⟨_, _, by rfl, by rfl, by rfl, ⟨_, by rfl⟩, _, by rfl⟩

end Controller

end SettingsForm
