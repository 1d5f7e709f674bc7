import SettingsForm.Proofs.Contract.Conversion

/-!
# Leniency only widens

Lenient conversion knows more readings of a value: words, spelled numbers, spelled and named choices, timestamps.
It looks for the native reading first, and native values have no other reading that could come before it. So
whatever strict conversion accepts is accepted leniently as well, with the same result
(`Coercion.apply_lenient`). The conversions of a host are not told the mode.
-/

namespace SettingsForm

namespace Coercion

/-- What is read strictly is read leniently in the same way. -/
def Widens {α : Type} (read : Bool → Value → Option α) : Prop :=
  ∀ raw result, read false raw = some result → read true raw = some result

/-- A string is text in both modes. -/
theorem widens_text : Widens text? := by
  intro raw s strict
  cases raw with
  | string given => exact strict
  | _ => cases strict

/-- A number is read as an integer in the same way in both modes. -/
theorem widens_integer : Widens integer? := by
  intro raw i strict
  cases raw with
  | number n => exact strict
  | _ => cases strict

/-- A number is read as a decimal in the same way in both modes. -/
theorem widens_decimal : Widens decimal? := by
  intro raw n strict
  cases raw with
  | number given => exact strict
  | _ => cases strict

/-- A boolean is read as itself in both modes. -/
theorem widens_boolean : Widens boolean? := by
  intro raw b strict
  cases raw with
  | bool given => exact strict
  | _ => cases strict

/-- A text is read as a date in the same way in both modes. -/
theorem widens_date : Widens date? := by
  intro raw text strict
  cases raw with
  | string given => exact strict
  | _ => cases strict

/-- A list is read as itself in both modes. -/
theorem widens_list : Widens list? := by
  intro raw items strict
  cases raw with
  | list given => exact strict
  | _ => cases strict

/-- The choice that a value equals comes before those that it spells or names. -/
theorem widens_choice (choices : List Choice) : Widens (choice? choices) := by
  intro raw value strict
  cases found : choices.find? (·.value == raw) with
  | none => simp [choice?, found] at strict
  | some choice =>
    simp only [choice?, found] at strict ⊢
    exact strict

/-- A value that counts as the declared one strictly counts as it leniently. -/
theorem isDeclared_lenient {declared raw : Value} (strict : isDeclared declared false raw = true) :
    isDeclared declared true raw = true := by
  have equal : (raw == declared) = true := by simpa [isDeclared] using strict
  unfold isDeclared
  rw [equal, Bool.true_or]

/-- A conversion that refuses what is not read accepts leniently what it accepts strictly. -/
theorem Widens.elim {α : Type} {read : Bool → Value → Option α} (widens : Widens read) {wrap : α → Value}
    {error : CoercionError} {raw value : Value}
    (strict : ((read false raw).map wrap).elim (.error error) Except.ok = .ok value) :
    ((read true raw).map wrap).elim (.error error) Except.ok = .ok value := by
  obtain ⟨result, found, wrapped⟩ := Option.map_eq_some_iff.mp (elim_eq_ok.mp strict)
  exact elim_eq_ok.mpr (Option.map_eq_some_iff.mpr ⟨result, widens raw result found, wrapped⟩)

/-- What strict conversion accepts, lenient conversion accepts with the same result. -/
theorem apply_lenient (coercion : Coercion) {key : String} {row : Row} {raw value : Value}
    (strict : coercion.apply key row raw false = .ok value) : coercion.apply key row raw true = .ok value := by
  cases coercion with
  | any => exact strict
  | refuse => exact strict
  | custom convert => exact strict
  | text => exact widens_text.elim strict
  | integer => exact widens_integer.elim strict
  | decimal => exact widens_decimal.elim strict
  | boolean => exact widens_boolean.elim strict
  | date => exact widens_date.elim strict
  | list => exact widens_list.elim strict
  | selection =>
    cases chosen : choice? row.choices false raw with
    | none => simp [apply, chosen] at strict
    | some taken =>
      simp only [apply, chosen] at strict
      simp only [apply, widens_choice row.choices raw taken chosen]
      exact strict
  | declared =>
    simp only [apply] at strict ⊢
    split at strict
    · rename_i declared
      rw [if_pos (isDeclared_lenient declared)]
      exact strict
    · cases strict

end Coercion

end SettingsForm
