import SettingsForm.Number.Binary64

/-!
# Numbers of a settings document

A number is an integer between `-2 ^ 63` and `2 ^ 64`, or a finite floating-point word. The two kinds
never compare equal, not even for `1` and `1.0`; within a kind the comparison is numeric.
-/

namespace SettingsForm

/-- An exact integer of at most sixty-four bits, or a finite floating-point word. -/
inductive Number where
  | integer (value : Int) (inRange : -0x8000000000000000 ≤ value ∧ value < 0x10000000000000000)
  | real (value : Binary64) (finite : value.isFinite = true)
  deriving DecidableEq, Repr

namespace Number

/-- Numeric equality within a kind; an integer never equals a floating-point number. -/
def equals : Number → Number → Bool
  | .integer a _, .integer b _ => decide (a = b)
  | .real a _, .real b _ => a.equals b
  | _, _ => false

/-- Numbers are compared by their numeric equality. -/
instance : BEq Number := ⟨equals⟩

/-- The integer, if it fits. -/
def ofInt? (i : Int) : Option Number :=
  if h : -0x8000000000000000 ≤ i ∧ i < 0x10000000000000000 then some (.integer i h) else none

/-- A signed 64-bit integer always fits. -/
def ofInt64 (i : Int64) : Number :=
  .integer i.toInt (by
    have lower := i.le_toInt
    have upper := i.toInt_lt
    omega)

/-- The word, unless it is an infinity or not a number. -/
def ofBinary64? (x : Binary64) : Option Number :=
  if h : x.isFinite = true then some (.real x h) else none

/-- The natural number that an integer is; a floating-point number never is one. -/
def toNat? : Number → Option Nat
  | .integer i _ => if 0 ≤ i then some i.toNat else none
  | .real _ _ => none

/-- The signed 64-bit integer that an integer is; a floating-point number never is one. -/
def toInt64? : Number → Option Int64
  | .integer i _ => if i < 0x8000000000000000 then some (Int64.ofInt i) else none
  | .real _ _ => none

/-- The nearest floating-point word. -/
def toBinary64 : Number → Binary64
  | .integer i _ => Binary64.ofInt i
  | .real x _ => x

/-- The signed 64-bit integer that the number denotes. A number that is not kept as one is rounded to a word
first. -/
def exactInt64? (n : Number) : Option Int64 :=
  match n.toInt64? with
  | some i => some i
  | none => n.toBinary64.exactInt64?

end Number

end SettingsForm
