import SettingsForm.Contract.Basic
import SettingsForm.Proofs.Calendar.Timestamp
import SettingsForm.Proofs.Value.Equality

/-!
# Converting a converted value

What a conversion returns has the native form of its type (`Coercion.Native`). Strict and lenient conversion
both accept native values and return equal ones (`Coercion.Native.again`), with one exception: the text that a
timestamp outside the years 0 to 9999 is turned into is no date, and is refused in either mode.

Equal values need not be the same. A choice is looked up by its value first, so the value of a choice is never
taken for the spelling or the name of another one, but the choice found may be another one of equal value.

The conversion of a host is not one of these; a host may return anything.
-/

namespace SettingsForm

/-- An integer word counts as a number of which the integer can be read again. -/
theorem Number.toInt64?_ofInt64 (i : Int64) : (ofInt64 i).toInt64? = some i := by
  have most := i.toInt_lt
  simp [toInt64?, ofInt64, Int64.ofInt_toInt]
  omega

/-- A floating-point word counts as a number just if it is finite. -/
theorem Number.ofBinary64?_eq_some_iff {x : Binary64} {n : Number} :
    ofBinary64? x = some n ↔ ∃ finite, n = .real x finite := by
  rw [ofBinary64?]
  split
  · rename_i finite
    simp [finite, eq_comm]
  · rename_i infinite
    simp [infinite]

namespace Coercion

/-! ## What a conversion returns -/

/-- The conversion to a decimal returns a finite floating-point word. -/
theorem decimal?_real {lenient : Bool} {raw : Value} {n : Number}
    (converted : decimal? lenient raw = some n) : ∃ x finite, n = .real x finite := by
  cases raw with
  | number m => exact ⟨_, Number.ofBinary64?_eq_some_iff.mp converted⟩
  | string text =>
    cases lenient with
    | false => cases converted
    | true =>
      obtain ⟨x, -, found⟩ := Option.bind_eq_some_iff.mp converted
      exact ⟨x, Number.ofBinary64?_eq_some_iff.mp found⟩
  | _ => cases converted

/-- A decimal that was converted is finite. -/
theorem decimal?_finite {lenient : Bool} {raw : Value} {n : Number}
    (converted : decimal? lenient raw = some n) : n.toBinary64.isFinite = true := by
  obtain ⟨x, finite, rfl⟩ := decimal?_real converted
  exact finite

/-- A date that was converted is one that is written by a reading of the text or of the timestamp. -/
theorem date?_written {lenient : Bool} {raw : Value} {text : String}
    (converted : date? lenient raw = some text) : DateText.Written text := by
  cases raw with
  | string given => exact Or.inl ⟨given, converted⟩
  | number n =>
    cases lenient with
    | false => cases converted
    | true =>
      obtain ⟨i, -, found⟩ := Option.bind_eq_some_iff.mp converted
      exact Or.inr ⟨i.toInt, found⟩
  | _ => cases converted

/-- A list that was converted holds scalars only. -/
theorem list?_scalars {lenient : Bool} {raw : Value} {items : List Value}
    (converted : list? lenient raw = some items) : items.all Value.isScalar = true := by
  cases raw with
  | list given =>
    obtain ⟨scalars, same⟩ := Option.ite_none_right_eq_some.mp converted
    cases same
    exact scalars
  | string text =>
    cases lenient with
    | false => cases converted
    | true =>
      cases converted
      simp [listItems, Value.isScalar]
  | _ => cases converted

/-- What is chosen is the value of one of the choices. -/
theorem choice?_offered {choices : List Choice} {lenient : Bool} {raw value : Value}
    (chosen : choice? choices lenient raw = some value) : ∃ choice ∈ choices, choice.value = value := by
  unfold choice? at chosen
  split at chosen
  · rename_i choice found
    exact ⟨choice, List.mem_of_find?_eq_some found, Option.some.inj chosen⟩
  · split at chosen
    · obtain ⟨choice, found, same⟩ := Option.map_eq_some_iff.mp chosen
      refine ⟨choice, ?_, same⟩
      rcases Option.or_eq_some_iff.mp found with spelled | ⟨-, called⟩
      · exact List.mem_of_find?_eq_some spelled
      · exact List.mem_of_find?_eq_some called
    · cases chosen

/-- The values that a conversion returns for a row. A conversion that refuses everything has none, and a host's
may return anything. -/
inductive Native (row : Row) : Coercion → Value → Prop
  | any (value : Value) : Native row .any value
  | text (s : String) : Native row .text (.string s)
  | integer (i : Int64) : Native row .integer (.number (.ofInt64 i))
  | decimal (x : Binary64) (finite : x.isFinite = true) : Native row .decimal (.number (.real x finite))
  | boolean (b : Bool) : Native row .boolean (.bool b)
  | date {text : String} (written : DateText.Written text) : Native row .date (.string text)
  | list {items : List Value} (scalars : items.all Value.isScalar = true) : Native row .list (.list items)
  | selection {choice : Choice} (offered : choice ∈ row.choices) : Native row .selection choice.value
  | declared : Native row .declared row.declaredValue

/-- A conversion of a type refuses a value as a mismatch, or returns what it makes of it. -/
theorem elim_eq_ok {error : CoercionError} {converted : Option Value} {value : Value} :
    converted.elim (.error error) Except.ok = .ok value ↔ converted = some value := by
  cases converted <;> simp

/-- What a conversion other than a host's returns is native to it. -/
theorem native_of_apply {coercion : Coercion} (own : ∀ convert, coercion ≠ .custom convert) {key : String}
    {row : Row} {raw value : Value} {lenient : Bool}
    (converted : coercion.apply key row raw lenient = .ok value) : Native row coercion value := by
  cases coercion with
  | any => exact .any value
  | text =>
    obtain ⟨s, -, rfl⟩ := Option.map_eq_some_iff.mp (elim_eq_ok.mp converted)
    exact .text s
  | integer =>
    obtain ⟨i, -, rfl⟩ := Option.map_eq_some_iff.mp (elim_eq_ok.mp converted)
    exact .integer i
  | decimal =>
    obtain ⟨n, found, rfl⟩ := Option.map_eq_some_iff.mp (elim_eq_ok.mp converted)
    obtain ⟨x, finite, rfl⟩ := decimal?_real found
    exact .decimal x finite
  | boolean =>
    obtain ⟨b, -, rfl⟩ := Option.map_eq_some_iff.mp (elim_eq_ok.mp converted)
    exact .boolean b
  | date =>
    obtain ⟨text, found, rfl⟩ := Option.map_eq_some_iff.mp (elim_eq_ok.mp converted)
    exact .date (date?_written found)
  | list =>
    obtain ⟨items, found, rfl⟩ := Option.map_eq_some_iff.mp (elim_eq_ok.mp converted)
    exact .list (list?_scalars found)
  | selection =>
    cases chosen : choice? row.choices lenient raw with
    | none => simp [apply, chosen] at converted
    | some taken =>
      simp only [apply, chosen, Except.ok.injEq] at converted
      obtain ⟨choice, offered, rfl⟩ := choice?_offered chosen
      exact converted ▸ .selection offered
  | declared =>
    simp only [apply] at converted
    split at converted
    · obtain rfl := Except.ok.inj converted
      exact .declared
    · cases converted
  | refuse => cases converted
  | custom convert => exact absurd rfl (own convert)

/-! ## Converting it again -/

/-- An integer is converted to itself. -/
theorem integer?_ofInt64 (lenient : Bool) (i : Int64) : integer? lenient (.number (.ofInt64 i)) = some i := by
  rw [integer?, Number.exactInt64?, Number.toInt64?_ofInt64]

/-- A finite decimal is converted to itself. -/
theorem decimal?_of_finite (lenient : Bool) {x : Binary64} (finite : x.isFinite = true) :
    decimal? lenient (.number (.real x finite)) = some (.real x finite) :=
  Number.ofBinary64?_eq_some_iff.mpr ⟨finite, rfl⟩

/-- What the text of a date is turned into is a date in either mode and stays as it is, and it is read in the
same form as that text was. -/
theorem dates_stable {raw text : String} {lenient : Bool} (converted : date? lenient (.string raw) = some text) :
    DateText.ReadAlike raw text ∧ ∀ mode, date? mode (.string text) = some text := by
  have normalized : DateText.normalize? raw = some text := converted
  constructor
  · exact DateText.readAlike_normalized normalized
  · intro mode
    exact DateText.normalize?_normalized normalized

/-- A leap second with more digits than are kept, between blanks, and with the offset of an unknown place. -/
theorem dates_stable_leap_second :
    date? false (.string " 2016-12-31t23:59:60.1234567899-00:00 ") =
        some "2016-12-31T23:59:60.123456789+00:00" ∧
      DateText.ReadAlike " 2016-12-31t23:59:60.1234567899-00:00 " "2016-12-31T23:59:60.123456789+00:00" ∧
      ∀ mode, date? mode (.string "2016-12-31T23:59:60.123456789+00:00") =
        some "2016-12-31T23:59:60.123456789+00:00" := by
  have converted : date? false (.string " 2016-12-31t23:59:60.1234567899-00:00 ") =
      some "2016-12-31T23:59:60.123456789+00:00" := by rfl
  exact ⟨converted, dates_stable converted⟩

/-- A value among the choices is chosen again. The choice met first may be another one of equal value. -/
theorem choice?_again {choices : List Choice} {choice : Choice} (offered : choice ∈ choices) (mode : Bool) :
    ∃ same, choice? choices mode choice.value = some same ∧ (same == choice.value) = true := by
  cases found : choices.find? (·.value == choice.value) with
  | none =>
    have differs := List.find?_eq_none.mp found choice offered
    exact absurd BEq.rfl differs
  | some first =>
    have equal := List.find?_some found
    exact ⟨first.value, by simp only [choice?, found], equal⟩

/-- A native value is accepted in either mode, and converted to an equal one, unless it is a remote date. -/
theorem Native.again {coercion : Coercion} {row : Row} {value : Value} (native : Native row coercion value)
    (near : coercion = .date → ∀ text, value = .string text → ¬ DateText.Remote text) (key : String)
    (mode : Bool) : ∃ same, coercion.apply key row value mode = .ok same ∧ (same == value) = true := by
  cases native with
  | any value => exact ⟨value, rfl, BEq.rfl⟩
  | text s => exact ⟨.string s, rfl, BEq.rfl⟩
  | integer i =>
    refine ⟨.number (.ofInt64 i), ?_, BEq.rfl⟩
    simp only [apply, integer?_ofInt64, Option.map_some, Option.elim_some]
  | decimal x finite =>
    refine ⟨.number (.real x finite), ?_, BEq.rfl⟩
    simp only [apply, decimal?_of_finite, Option.map_some, Option.elim_some]
  | boolean b => exact ⟨.bool b, rfl, BEq.rfl⟩
  | @date text written =>
    have kept := written.normalize?_iff.mpr (near rfl text rfl)
    refine ⟨.string text, ?_, BEq.rfl⟩
    simp only [apply, date?, kept, Option.map_some, Option.elim_some]
  | @list items scalars =>
    refine ⟨.list items, ?_, BEq.rfl⟩
    simp only [apply, list?, scalars, if_true, Option.map_some, Option.elim_some]
  | selection offered =>
    obtain ⟨same, again, equal⟩ := choice?_again offered mode
    exact ⟨same, by simp only [apply, again], equal⟩
  | declared =>
    refine ⟨row.declaredValue, ?_, BEq.rfl⟩
    have accepted : isDeclared row.declaredValue mode row.declaredValue = true := by simp [isDeclared]
    simp only [apply, accepted, if_true]

end Coercion

namespace Contract

/-- Converting the value gives an equal one, whether strictly or leniently. -/
def Settles (contract : Contract) (key : String) (row : Row) (value : Value) : Prop :=
  ∀ lenient, ∃ same, contract.coerce key row value lenient = .ok same ∧ (same == value) = true

/-- The contract of a type converts by no conversion of a host. -/
theorem builtin_own (t : RowType) (convert : Value → Except String Value) :
    (builtin t).coercion ≠ .custom convert := by
  cases t <;> simp [builtin, storing]

/-- Among the row types only the date converts dates. -/
theorem coercion_builtin_date {t : RowType} (date : (builtin t).coercion = .date) : t = .date := by
  cases t <;> first | rfl | simp [builtin, storing] at date

/-- What the contract of a type returns it accepts again, unless it is a remote date. -/
theorem settles_of_coerce {t : RowType} {key : String} {row : Row} {raw value : Value} {lenient : Bool}
    (converted : (builtin t).coerce key row raw lenient = .ok value) :
    (builtin t).Settles key row value ∨
      t = .date ∧ ∃ text, value = .string text ∧ DateText.Remote text := by
  by_cases remote : t = .date ∧ ∃ text, value = .string text ∧ DateText.Remote text
  · exact Or.inr remote
  · refine Or.inl fun mode => (Coercion.native_of_apply (builtin_own t) converted).again ?_ key mode
    intro date text written far
    exact remote ⟨coercion_builtin_date date, text, written, far⟩

/-- What the contract of a type other than a date returns is native to the type, and is converted to an equal
value again. -/
theorem native_of_coerce {t : RowType} (undated : t ≠ .date) {key : String} {row : Row} {raw value : Value}
    {lenient : Bool} (converted : (builtin t).coerce key row raw lenient = .ok value) :
    Coercion.Native row (builtin t).coercion value ∧ (builtin t).Settles key row value := by
  constructor
  · exact Coercion.native_of_apply (builtin_own t) converted
  · rcases settles_of_coerce converted with settles | ⟨date, -⟩
    · exact settles
    · exact absurd date undated

/-- A row of two choices, in which the value of one is the name of the other. -/
def crossedRow : Row :=
  .ofPayload "Pick" "pick" (.pickerList [⟨"a", .number (.ofInt64 1)⟩, ⟨"c", .string "a"⟩])

/-- The second choice is named, and its value is not taken for the name of the first. -/
theorem native_of_coerce_crossed :
    (builtin .pickerList).coerce "pick" crossedRow (.string "c") true = .ok (.string "a") ∧
      RowType.pickerList ≠ .date ∧ Coercion.Native crossedRow .selection (.string "a") ∧
      (builtin .pickerList).Settles "pick" crossedRow (.string "a") := by
  have named : (builtin .pickerList).coerce "pick" crossedRow (.string "c") true = .ok (.string "a") := by rfl
  have undated : RowType.pickerList ≠ .date := by decide
  exact ⟨named, undated, native_of_coerce undated named⟩

/-- Strict conversion returns no remote date. -/
theorem settles_of_strict {t : RowType} {key : String} {row : Row} {raw value : Value}
    (converted : (builtin t).coerce key row raw false = .ok value) : (builtin t).Settles key row value := by
  rcases settles_of_coerce converted with settles | ⟨rfl, text, rfl, remote⟩
  · exact settles
  · obtain ⟨same, found, named⟩ := Option.map_eq_some_iff.mp (Coercion.elim_eq_ok.mp converted)
    obtain rfl := Value.string.inj named
    cases raw with
    | string given =>
      have again := DateText.normalize?_normalized found
      rw [DateText.normalize?_remote remote] at again
      cases again
    | _ => cases found

/-- A remote date is refused in either mode. -/
theorem coerce_remote {key text : String} {row : Row} (remote : DateText.Remote text) (lenient : Bool) :
    (builtin .date).coerce key row (.string text) lenient =
      .error (.typeMismatch key .date (.string text)) := by
  simp [coerce, builtin, storing, Coercion.apply, Coercion.date?, DateText.normalize?_remote remote]

/-- If the contract of a type accepts again what it returned, it returns an equal value. -/
theorem coerce_again {t : RowType} {key : String} {row : Row} {raw value same : Value} {lenient mode : Bool}
    (converted : (builtin t).coerce key row raw lenient = .ok value)
    (again : (builtin t).coerce key row value mode = .ok same) : (same == value) = true := by
  rcases settles_of_coerce converted with settles | ⟨rfl, text, rfl, remote⟩
  · obtain ⟨other, found, equal⟩ := settles mode
    obtain rfl := Except.ok.inj (found.symm.trans again)
    exact equal
  · rw [coerce_remote remote] at again
    cases again

end Contract

end SettingsForm
