import SettingsForm.Text.Digits

/-!
# Indexed keys

A key made of a name and an index in decimal digits, such as `phone2`. A name must not be empty and must
not end in a digit, and the index has no leading zeros and at most sixty-four bits; so a key has at most one
reading, and `IndexedKey.decode?` undoes `IndexedKey.encode?`.
-/

namespace SettingsForm

/-- A key for one of several values of a row: the row's name and a number. -/
structure IndexedKey where
  name : String
  index : Nat
  deriving DecidableEq, Repr

namespace IndexedKey

/-- Names that can carry an index: not empty, and without a digit at the end. -/
def isName (name : List Char) : Bool :=
  match name.getLast? with
  | some c => !Digits.isDigit c
  | none => false

/-- The key of a name and an index. -/
def encode? (name : String) (index : Nat) : Option String :=
  if isName name.toList then some (String.ofList (name.toList ++ Digits.ofNat index)) else none

/-- The digits at the end of a text, and what precedes them. -/
def splitTrailing (text : List Char) : List Char × List Char :=
  let reversed := text.reverse
  ((reversed.dropWhile Digits.isDigit).reverse, (reversed.takeWhile Digits.isDigit).reverse)

/-- Splits a key into its name and its index. -/
def decode? (key : String) : Option IndexedKey :=
  let (name, digits) := splitTrailing key.toList
  let index := Digits.toNat digits
  if name = [] ∨ digits = [] ∨ (1 < digits.length ∧ digits.head? = some '0') ∨ 0x10000000000000000 ≤ index then none
  else some ⟨String.ofList name, index⟩

end IndexedKey

end SettingsForm
