/-!
# Digits

The decimal digits of a natural number and the number that a run of digits denotes. Only the ten ASCII
digits count as digits here. Hexadecimal digits are the ten digits and six letters in either case.
-/

namespace SettingsForm.Digits

/-- One of the ten decimal digits. -/
def isDigit (c : Char) : Bool := decide ('0' ≤ c ∧ c ≤ '9')

/-- The number that a run of digits denotes, most significant digit first. -/
def toNat (digits : List Char) : Nat :=
  digits.foldl (fun total c => total * 10 + (c.toNat - '0'.toNat)) 0

/-- The digits of a number, most significant first and without leading zeros. -/
def ofNat (n : Nat) : List Char := Nat.toDigits 10 n

/-- Puts zeros before digits until there are at least `width`. -/
def pad (width : Nat) (digits : List Char) : List Char :=
  List.replicate (width - digits.length) '0' ++ digits

/-- The digits of a number, padded with zeros to at least `width` places. -/
def padded (width n : Nat) : List Char := pad width (ofNat n)

/-- Accepts a run of one or more digits and nothing else. -/
def run? (text : List Char) : Option Nat :=
  if text ≠ [] ∧ text.all isDigit then some (toNat text) else none

/-- The value of a hexadecimal digit; other characters have none. -/
def hexValue? (c : Char) : Option Nat :=
  if '0' ≤ c ∧ c ≤ '9' then some (c.toNat - '0'.toNat)
  else if 'a' ≤ c ∧ c ≤ 'f' then some (c.toNat - 'a'.toNat + 10)
  else if 'A' ≤ c ∧ c ≤ 'F' then some (c.toNat - 'A'.toNat + 10)
  else none

/-- The hexadecimal digits of a number in lower case. -/
def hexOf (n : Nat) : List Char := Nat.toDigits 16 n

end SettingsForm.Digits
