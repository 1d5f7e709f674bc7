import SettingsForm.Calendar.Text
import SettingsForm.Contract.Error
import SettingsForm.Number.Reader
import SettingsForm.Row.Basic
import SettingsForm.Text.Split

/-!
# Coercions

A coercion converts a value to what a row stores, or refuses it. In strict mode only the native form of the
type is accepted. In lenient mode numbers and booleans are also accepted as text, texts are read as numbers,
booleans and lists, timestamps as dates, and choices may be spelled or named. Every value that the strict
mode accepts is accepted leniently with the same result.
-/

namespace SettingsForm

/-- How incoming values are converted. -/
inductive Coercion where
  /-- Everything is accepted unchanged. -/
  | any
  | text
  | integer
  | decimal
  | boolean
  | date
  /-- A list of scalars. -/
  | list
  /-- One of the row's choices; the choice's own value is stored. -/
  | selection
  /-- Only the row's declared value. -/
  | declared
  /-- Nothing is accepted, because the row holds no value. -/
  | refuse
  /-- The host's conversion, which gives a reason when it refuses. -/
  | custom (convert : Value → Except String Value)

namespace Coercion

/-- A string; leniently also a number or a boolean, which is spelled out. -/
def text? (lenient : Bool) : Value → Option String
  | .string s => some s
  | .number n => if lenient then some n.text else none
  | .bool b => if lenient then some (Value.bool b).compact else none
  | _ => none

/-- A number that denotes an integer in the signed 64-bit range; leniently also the text of one. -/
def integer? (lenient : Bool) : Value → Option Int64
  | .number n => n.exactInt64?
  | .string s => if lenient then Number.integerText? (Blank.trimChars s.toList) else none
  | _ => none

/-- Any number, as the nearest finite floating-point number; leniently also the text of one. -/
def decimal? (lenient : Bool) : Value → Option Number
  | .number n => Number.ofBinary64? n.toBinary64
  | .string s =>
    if lenient then (Binary64.ofText? (Blank.trimChars s.toList)).bind Number.ofBinary64? else none
  | _ => none

/-- The boolean that a word stands for, in letters of either case. -/
def booleanWord? (word : String) : Option Bool :=
  if word ∈ ["true", "yes", "on", "1"] then some true
  else if word ∈ ["false", "no", "off", "0"] then some false
  else none

/-- A boolean; leniently also the integers zero and one, and a word for a boolean. -/
def boolean? (lenient : Bool) : Value → Option Bool
  | .bool b => some b
  | .number n =>
    if lenient then
      match n.toNat? with
      | some 0 => some false
      | some 1 => some true
      | _ => none
    else none
  | .string s =>
    if lenient then booleanWord? (String.ofList ((Blank.trimChars s.toList).map Char.toLower)) else none
  | _ => none

/-- The text of a date, normalized; leniently also a timestamp in seconds. -/
def date? (lenient : Bool) : Value → Option String
  | .string s => DateText.normalize? s
  | .number n => if lenient then n.toInt64?.bind fun i => DateText.ofTimestamp? i.toInt else none
  | _ => none

/-- The parts of a text between commas, without blanks around them and without empty parts. -/
def listItems (s : String) : List Value :=
  ((Split.parts ',' s.toList).map Blank.trimChars).filter (· ≠ []) |>.map fun part =>
    .string (String.ofList part)

/-- A list of scalars; leniently also a text with commas. -/
def list? (lenient : Bool) : Value → Option (List Value)
  | .list items => if items.all Value.isScalar then some items else none
  | .string s => if lenient then some (listItems s) else none
  | _ => none

/-- A text spells a value if it is the string itself, or the compact text of another value. -/
def spells (s : String) : Value → Bool
  | .string v => v = s
  | other => other.compact = s

/-- The choice that a value equals; leniently also one that a text spells, and else one that it names. -/
def choice? (choices : List Choice) (lenient : Bool) (raw : Value) : Option Value :=
  match choices.find? (·.value == raw) with
  | some choice => some choice.value
  | none =>
    match lenient, raw with
    | true, .string s =>
      ((choices.find? (spells s ·.value)).or (choices.find? (·.name = s))).map (·.value)
    | _, _ => none

/-- The value equals the declared one, or leniently spells it. -/
def isDeclared (declared : Value) (lenient : Bool) (raw : Value) : Bool :=
  raw == declared || match lenient, raw with
    | true, .string s => spells s declared
    | _, _ => false

/-- Converts a value for the row stored under a key. -/
def apply (coercion : Coercion) (key : String) (row : Row) (raw : Value) (lenient : Bool) :
    Except CoercionError Value :=
  let orMismatch (expected : Expected) (converted : Option Value) : Except CoercionError Value :=
    converted.elim (.error (.typeMismatch key expected raw)) .ok
  match coercion with
  | any => .ok raw
  | refuse => .error (.notPersisted key)
  | custom convert =>
    match convert raw with
    | .ok value => .ok value
    | .error reason => .error (.rejected key reason)
  | text => orMismatch .text ((text? lenient raw).map .string)
  | integer => orMismatch .integer ((integer? lenient raw).map fun i => .number (.ofInt64 i))
  | decimal => orMismatch .decimal ((decimal? lenient raw).map .number)
  | boolean => orMismatch .boolean ((boolean? lenient raw).map .bool)
  | date => orMismatch .date ((date? lenient raw).map .string)
  | list => orMismatch .scalars ((list? lenient raw).map .list)
  | selection =>
    match choice? row.choices lenient raw with
    | some value => .ok value
    | none => .error (.notAChoice key raw)
  | declared =>
    if isDeclared row.declaredValue lenient raw then .ok row.declaredValue
    else .error (.notAChoice key raw)

end Coercion

end SettingsForm
