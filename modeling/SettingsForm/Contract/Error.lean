import SettingsForm.Json.Printer

/-!
# Refused values

Why a value was not accepted for a row, with the sentence that reports it.
-/

namespace SettingsForm

/-- What a coercion wanted to see. -/
inductive Expected where
  | text
  | integer
  | decimal
  | boolean
  | date
  | scalars
  deriving DecidableEq, Repr

/-- What was expected, in words. -/
def Expected.words : Expected → String
  | text => "text"
  | integer => "integer"
  | decimal => "decimal"
  | boolean => "boolean"
  | date => "date"
  | scalars => "list of scalars"

/-- Why a value was refused. Each case names the key that the value was meant for. -/
inductive CoercionError where
  /-- The value cannot be converted to the type of the row. -/
  | typeMismatch (key : String) (expected : Expected) (actual : Value)
  /-- The value is none of those that the row declares. -/
  | notAChoice (key : String) (actual : Value)
  /-- The row has no choice at this place. -/
  | noChoiceAt (key : String) (index : Nat)
  /-- The row holds no value of its own. -/
  | notPersisted (key : String)
  /-- The host's own conversion refused the value. -/
  | rejected (key : String) (reason : String)
  deriving Repr

/-- The words for an error. -/
def CoercionError.message : CoercionError → String
  | typeMismatch key expected actual => s!"`{key}` expects {expected.words}, got {actual.compact}"
  | notAChoice key actual => s!"`{key}` has no choice matching {actual.compact}"
  | noChoiceAt key index => s!"`{key}` has no choice matching choice #{index}"
  | notPersisted key => s!"`{key}` does not hold a value"
  | rejected key reason => s!"`{key}` rejected the value: {reason}"

end SettingsForm
