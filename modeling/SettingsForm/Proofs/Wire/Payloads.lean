import SettingsForm.Proofs.Contract.Conversion
import SettingsForm.Proofs.Result
import SettingsForm.Wire.Printer
import SettingsForm.Wire.Reader

/-!
# What rows carry in documents

A declared value is written as it is and converted again when it is read. It comes back unchanged just if
its row's conversion leaves it alone (`Payload.Restorable`): a decimal must be finite, a date normalized, a
list made of scalars and a set of choices not empty. What is read from any document satisfies this, except
that a timestamp may have been turned into a text that is no date (`Payload.Declarable`).
-/

namespace SettingsForm

/-- The name of a type is read as the type. -/
theorem RowType.ofName?_name (t : RowType) : ofName? t.name = some t := by cases t <;> rfl

/-- The name of a keyboard is read as the keyboard. -/
theorem Keyboard.ofValue?_name (k : Keyboard) : ofValue? (.string k.name) = some k := by cases k <;> rfl

namespace Payload

/-- Writing and reading gives the payload back; of a nested form this says nothing. -/
def Restorable : Payload → Prop
  | .decimal value => ∀ x, value = some x → x.isFinite = true
  | .date value => ∀ text, value = some text → DateText.normalize? text = some text
  | .simpleList items => items.all Value.isScalar = true
  | .multiValue choices | .pickerList choices | .pickerView choices => choices ≠ []
  | _ => True

/-- The payload may be the result of reading a document. -/
def Declarable : Payload → Prop
  | .date value => ∀ text, value = some text → DateText.Written text
  | payload => payload.Restorable

end Payload

namespace Wire

/-! ## Choices -/

/-- Written choices are read back, whatever their places. -/
theorem choiceList_written (path : Path) (index : Nat) (choices : List Choice) :
    choiceList path index (choices.map Choice.toValue) = .ok choices := by
  induction choices generalizing index with
  | nil => rfl
  | cons first rest inductionHypothesis =>
    rw [List.map_cons, choiceList, inductionHypothesis]
    simp [choice, Choice.toValue, requiredString, required, Mapping.get?, Field.label, bind, Except.bind]

/-- A written set of choices is read back if it has any. -/
theorem choices_written {list : List Choice} (path : Path) (offered : list ≠ []) :
    choices path (.list (list.map Choice.toValue)) = .ok list := by
  cases list with
  | nil => exact absurd rfl offered
  | cons first rest => exact choiceList_written path 0 (first :: rest)

/-- A set of choices that is read has some. -/
theorem choices_ne_nil {path : Path} {raw : Value} {list : List Choice}
    (read : choices path raw = .ok list) : list ≠ [] := by
  cases raw with
  | list items =>
    cases items with
    | nil => simp [choices] at read
    | cons item rest =>
      simp only [choices, choiceList, Result.bind_eq_ok_iff, Except.ok.injEq] at read
      obtain ⟨first, -, others, -, rfl⟩ := read
      exact List.cons_ne_nil first others
  | _ => simp [choices] at read

/-! ## Declared values -/

/-- A declared value is what the conversion of its type makes of it, or is refused. -/
theorem declared_eq {path : Path} {t : RowType} {name identifier : String} {raw : Value}
    {converted : Option Value} {expected : Expected}
    (conversion : (Contract.builtin t).coerce identifier (Row.ofPayload name identifier (.plain .null))
      raw true = converted.elim (.error (.typeMismatch identifier expected raw)) .ok) :
    declared path t name identifier raw = converted.elim
      (.error (.invalidField path .value (.unfitValue (.typeMismatch identifier expected raw)))) .ok := by
  rw [declared, conversion]
  cases converted <;> rfl

/-- A value that is given to a row of a converting type is converted. -/
theorem leafPayload_converted {path : Path} {t : RowType} {name identifier : String} {raw : Value}
    (converts : t ≠ .plain ∧ t ≠ .custom ∧ t ≠ .choice) (given : raw ≠ .null) :
    leafPayload path t name identifier raw =
      declared path t name identifier raw >>= fun value => .ok (holding t value) := by
  unfold leafPayload
  split
  · exact absurd rfl converts.1
  · exact absurd rfl converts.2.1
  · exact absurd rfl converts.2.2
  · exact absurd rfl given
  · rfl

/-- Null is not converted, whatever the type. -/
theorem leafPayload_null (path : Path) (t : RowType) (name identifier : String) :
    leafPayload path t name identifier .null = .ok (holding t .null) := by
  cases t <;> rfl

/-- A 64-bit integer is read as itself. -/
theorem leafPayload_integer (path : Path) (name identifier : String) (i : Int64) :
    leafPayload path .integer name identifier (.number (.ofInt64 i)) = .ok (.integer (some i)) := by
  have read : leafPayload path .integer name identifier (.number (.ofInt64 i)) =
      .ok (.integer (Number.ofInt64 i).toInt64?) := by
    rw [leafPayload_converted (by decide) (by simp), declared_eq rfl, Coercion.integer?_ofInt64]
    rfl
  rwa [Number.toInt64?_ofInt64] at read

/-- A finite decimal is read as itself. -/
theorem leafPayload_decimal (path : Path) (name identifier : String) (x : Binary64)
    (finite : x.isFinite = true) :
    leafPayload path .decimal name identifier (.number (.real x finite)) = .ok (.decimal (some x)) := by
  have same : Coercion.decimal? true (.number (.real x finite)) = some (.real x finite) := dif_pos finite
  rw [leafPayload_converted (by decide) (by simp), declared_eq rfl, same]
  rfl

/-- A date is read as its normalized text, if it has one. -/
theorem leafPayload_date (path : Path) (name identifier text : String) :
    leafPayload path .date name identifier (.string text) = (DateText.normalize? text).elim
      (.error (.invalidField path .value (.unfitValue (.typeMismatch identifier .date (.string text)))))
      fun normalized => .ok (.date (some normalized)) := by
  rw [leafPayload_converted (by decide) (by simp), declared_eq rfl, Coercion.date?]
  cases DateText.normalize? text <;> rfl

/-- A list of scalars is read as itself. -/
theorem leafPayload_list (path : Path) (name identifier : String) {items : List Value}
    (scalars : items.all Value.isScalar = true) :
    leafPayload path .simpleList name identifier (.list items) = .ok (.simpleList items) := by
  rw [leafPayload_converted (by decide) (by simp), declared_eq rfl, Coercion.list?, if_pos scalars]
  rfl

/-- Reading the declared value of a row gives a restorable payload back. -/
theorem leafPayload_written (path : Path) (name identifier : String) {payload : Payload}
    (flat : payload.rowType.isStructural = false) (free : payload.rowType.hasChoices = false)
    (restorable : payload.Restorable) :
    leafPayload path payload.rowType name identifier payload.toValue = .ok payload := by
  cases payload with
  | plain _ | custom _ | choice _ | string _ | multilineText _ | richText _ | boolean _ => rfl
  | integer value =>
    cases value with
    | none => rfl
    | some i => exact leafPayload_integer path name identifier i
  | decimal value =>
    cases value with
    | none => rfl
    | some x =>
      have finite : x.isFinite = true := restorable x rfl
      have written : Payload.toValue (.decimal (some x)) = .number (.real x finite) := by
        simp [Payload.toValue, Payload.declaredValue, Number.ofBinary64?, finite]
      rw [written]
      exact leafPayload_decimal path name identifier x finite
  | date value =>
    cases value with
    | none => rfl
    | some text =>
      refine (leafPayload_date path name identifier text).trans ?_
      rw [restorable text rfl, Option.elim_some]
  | simpleList items => exact leafPayload_list path name identifier restorable
  | multiLevel _ | propertyList _ | action => cases flat
  | multiValue _ | pickerList _ | pickerView _ => cases free

/-! ## What comes back -/

/-- What can be restored may have been read from a document. -/
theorem declarable_of_restorable {payload : Payload} (restorable : payload.Restorable) :
    payload.Declarable := by
  cases payload with
  | date value =>
    intro text given
    exact Or.inl ⟨text, restorable text given⟩
  | _ => exact restorable

/-- What can be read from a document can be restored unless it is a date far away. -/
theorem restorable_iff {payload : Payload} (declarable : payload.Declarable) :
    payload.Restorable ↔ ∀ text, payload = .date (some text) → ¬ DateText.Remote text := by
  cases payload with
  | date value =>
    constructor
    · rintro kept text ⟨⟩
      exact (declarable text rfl).normalize?_iff.mp (kept text rfl)
    · rintro near text rfl
      exact (declarable text rfl).normalize?_iff.mpr (near text rfl)
  | _ => exact iff_of_true declarable (by simp)

/-- A payload that can be read from a document comes back if it is restorable, and is refused otherwise. -/
theorem leafPayload_returns (path : Path) (name identifier : String) {payload : Payload}
    (flat : payload.rowType.isStructural = false) (free : payload.rowType.hasChoices = false)
    (declarable : payload.Declarable) :
    Result.Returns (leafPayload path payload.rowType name identifier payload.toValue) payload
      payload.Restorable := by
  by_cases restorable : payload.Restorable
  · rw [leafPayload_written path name identifier flat free restorable]
    exact (Result.returns_ok payload).congr (iff_of_true trivial restorable)
  · refine fun other => iff_of_false ?_ fun both => restorable both.2
    rw [restorable_iff declarable] at restorable
    simp only [Classical.not_forall, Classical.not_not] at restorable
    obtain ⟨text, rfl, remote⟩ := restorable
    have refused := leafPayload_date path name identifier text
    rw [DateText.normalize?_remote remote] at refused
    intro read
    exact absurd (refused.symm.trans read) (by simp)

/-! ## What reading gives -/

/-- A value that is given to a row of a converting type is held converted. -/
theorem leafPayload_held {path : Path} {t : RowType} {name identifier : String} {raw : Value}
    {payload : Payload} {converted : Option Value} {expected : Expected}
    (converts : t ≠ .plain ∧ t ≠ .custom ∧ t ≠ .choice) (given : raw ≠ .null)
    (conversion : (Contract.builtin t).coerce identifier (Row.ofPayload name identifier (.plain .null))
      raw true = converted.elim (.error (.typeMismatch identifier expected raw)) .ok)
    (read : leafPayload path t name identifier raw = .ok payload) :
    ∃ value, converted = some value ∧ holding t value = payload := by
  rw [leafPayload_converted converts given, declared_eq conversion] at read
  cases converted with
  | none => cases read
  | some value => exact ⟨value, rfl, Except.ok.inj read⟩

/-- What is read as a declared value is what the type holds of some value. -/
theorem leafPayload_holding {path : Path} {t : RowType} {name identifier : String} {raw : Value}
    {payload : Payload} (read : leafPayload path t name identifier raw = .ok payload) :
    ∃ value, holding t value = payload := by
  unfold leafPayload at read
  split at read
  case h_5 =>
    obtain ⟨value, -, held⟩ := Result.bind_eq_ok_iff.mp read
    exact ⟨value, Except.ok.inj held⟩
  all_goals exact ⟨_, Except.ok.inj read⟩

/-- What is declared for a row that is neither nesting nor a set of choices can be written and read again,
unless it is a date. -/
theorem leafPayload_declarable {path : Path} {t : RowType} {name identifier : String} {raw : Value}
    {payload : Payload} (read : leafPayload path t name identifier raw = .ok payload) :
    payload.Declarable := by
  by_cases given : raw = .null
  · subst given
    rw [leafPayload_null] at read
    cases read
    cases t <;> simp [holding, Payload.Declarable, Payload.Restorable, Value.asString?, Value.asList?]
  · have held := leafPayload_holding read
    cases t with
    | decimal =>
      obtain ⟨value, converted, rfl⟩ := leafPayload_held (by decide) given rfl read
      obtain ⟨n, found, rfl⟩ := Option.map_eq_some_iff.mp converted
      rintro x ⟨⟩
      exact Coercion.decimal?_finite found
    | date =>
      obtain ⟨value, converted, rfl⟩ := leafPayload_held (by decide) given rfl read
      obtain ⟨text, found, rfl⟩ := Option.map_eq_some_iff.mp converted
      rintro other ⟨⟩
      exact Coercion.date?_written found
    | simpleList =>
      obtain ⟨value, converted, rfl⟩ := leafPayload_held (by decide) given rfl read
      obtain ⟨items, found, rfl⟩ := Option.map_eq_some_iff.mp converted
      exact Coercion.list?_scalars found
    | _ =>
      obtain ⟨value, rfl⟩ := held
      trivial

/-- What is read for a row without a nested form can be written and read again, unless it is a date. -/
theorem flatPayload_declarable {path : Path} {t : RowType} {name identifier : String} {fields : Mapping}
    {payload : Payload} (read : flatPayload path t name identifier fields = .ok payload) :
    payload.Declarable := by
  rw [flatPayload, Result.bind_eq_ok_iff] at read
  obtain ⟨raw, -, read⟩ := read
  split at read
  case h_4 => exact leafPayload_declarable read
  all_goals
    obtain ⟨list, chosen, same⟩ := Result.bind_eq_ok_iff.mp read
    cases same
    exact choices_ne_nil chosen

end Wire

end SettingsForm
