import SettingsForm.Number.Basic
import SettingsForm.Text.Digits

/-!
# Reading numbers

Three readers, each for one kind of text.

* `Number.integerText?` reads an optional sign and digits, within the range of signed 64-bit integers.
* `Binary64.ofText?` reads a decimal fraction with an optional exponent, or the name of an infinity or of
  a value that is not a number, and rounds once.
* `Number.ofToken?` reads a number token of a JSON document. Integers of at most sixty-four bits stay
  exact. For all others only the digits that fit sixty-four bits count; their number is rounded, then
  multiplied or divided by the rounded power of ten, and rounded again. A token too large is refused.
-/

namespace SettingsForm

/-- Splits off a leading `+` or `-`; the flag tells a minus sign. -/
def Digits.splitSign : List Char → Bool × List Char
  | '-' :: rest => (true, rest)
  | '+' :: rest => (false, rest)
  | text => (false, text)

/-- An optional sign and at least one digit, in the range of signed 64-bit integers. -/
def Number.integerText? (text : List Char) : Option Int64 := do
  let (negative, digits) := Digits.splitSign text
  let magnitude ← Digits.run? digits
  let value : Int := if negative then -magnitude else magnitude
  if -0x8000000000000000 ≤ value ∧ value < 0x8000000000000000 then some (Int64.ofInt value) else none

/-- A decimal text in parts: digits before and after the point, and the power of ten. -/
structure DecimalText where
  negative : Bool
  whole : List Char
  fraction : List Char
  exponent : Int
  deriving Repr

namespace DecimalText

/-- Reads what follows the letter of an exponent. -/
def exponent? (text : List Char) : Option Int := do
  let (negative, digits) := Digits.splitSign text
  let magnitude ← Digits.run? digits
  some (if negative then -magnitude else magnitude)

/-- Splits a text without sign into whole digits, digits after a point if there is one, and the rest. -/
def splitPoint (text : List Char) : List Char × Option (List Char) × List Char :=
  let whole := text.takeWhile Digits.isDigit
  match text.dropWhile Digits.isDigit with
  | '.' :: rest => (whole, some (rest.takeWhile Digits.isDigit), rest.dropWhile Digits.isDigit)
  | rest => (whole, none, rest)

/-- Reads the exponent of a number, which is absent or starts with a letter in either case. -/
def trailingExponent? : List Char → Option Int
  | [] => some 0
  | letter :: rest => if letter = 'e' ∨ letter = 'E' then exponent? rest else none

/-- An optional sign, digits with an optional point and at least one digit around it, and an optional
exponent. -/
def ofText? (text : List Char) : Option DecimalText := do
  let (negative, unsigned) := Digits.splitSign text
  let (whole, fraction, rest) := splitPoint unsigned
  let fraction := fraction.getD []
  if whole = [] ∧ fraction = [] then none
  let exponent ← trailingExponent? rest
  some { negative, whole, fraction, exponent }

/-- The nearest word to the denoted number. Exponents far outside the range of words are settled by the
count of digits alone. -/
def round (t : DecimalText) : Binary64 :=
  let digits := (t.whole ++ t.fraction).dropWhile (· = '0')
  let power := t.exponent - t.fraction.length
  let coefficient := Digits.toNat digits
  if coefficient = 0 then Binary64.zero t.negative
  else if 310 < power + digits.length then Binary64.infinity t.negative
  else if power + digits.length < -330 then Binary64.zero t.negative
  else Binary64.ofRatio t.negative (coefficient * Nat.pow 10 power.toNat) (Nat.pow 10 (-power).toNat)

end DecimalText

/-- Reads a decimal text, or `inf`, `infinity` or `nan` in either case with an optional sign. -/
def Binary64.ofText? (text : List Char) : Option Binary64 :=
  match DecimalText.ofText? text with
  | some t => some t.round
  | none =>
    let (negative, name) := Digits.splitSign text
    let name := String.ofList (name.map Char.toLower)
    if name = "inf" ∨ name = "infinity" then some (Binary64.infinity negative)
    else if name = "nan" then some Binary64.notANumber
    else none

namespace Number

/-- The digits of a token as far as they fit sixty-four bits, with the power of ten that makes up for
the digits left out and for those after the point. -/
structure Significand where
  value : Nat
  exponent : Int
  full : Bool
  deriving Repr

namespace Significand

/-- Once a digit did not fit, no later digit of the same run is taken. -/
def push (s : Significand) (c : Char) (dropped : Int) (taken : Int) : Significand :=
  let next := s.value * 10 + (c.toNat - '0'.toNat)
  if s.full ∨ 0x10000000000000000 ≤ next then { s with exponent := s.exponent + dropped, full := true }
  else { s with value := next, exponent := s.exponent + taken }

/-- Takes the digits before the point: each one left out raises the power of ten. -/
def ofWhole (digits : List Char) : Significand :=
  digits.foldl (fun s c => s.push c 1 0) ⟨0, 0, false⟩

/-- Takes the digits after the point: each one taken lowers the power of ten. Digits may fit again here
even if one before the point did not. -/
def withFraction (s : Significand) (digits : List Char) : Significand :=
  digits.foldl (fun s c => s.push c 0 (-1)) { s with full := false }

end Significand

/-- The rounded significand times a power of ten that is itself rounded, absent when too large. A power
below the smallest one in range is applied in two steps. -/
def scaleByTen? (significand : Nat) (exponent : Int) : Option Binary64 :=
  let start := Binary64.ofNat significand
  let tenTo (k : Nat) := Binary64.ofNat (Nat.pow 10 k)
  if start.isZero then some start
  else if 308 < exponent then none
  else if 0 ≤ exponent then
    let scaled := start.multiply (tenTo exponent.toNat)
    if scaled.isFinite then some scaled else none
  else if -308 ≤ exponent then some (start.divide (tenTo (-exponent).toNat))
  else if -616 ≤ exponent then
    some ((start.divide (tenTo 308)).divide (tenTo (-exponent - 308).toNat))
  else some (Binary64.zero false)

/-- A floating-point number from a sign, a significand and a power of ten. -/
def realOfParts? (negative : Bool) (significand : Nat) (exponent : Int) : Option Number := do
  let magnitude ← scaleByTen? significand exponent
  ofBinary64? (if negative then magnitude.negate else magnitude)

/-- An integer token: exact when it fits, with the exception of the negative zero, which only a
floating-point number can hold. -/
def ofIntegerToken? (negative : Bool) (digits : List Char) : Option Number :=
  let s := Significand.ofWhole digits
  let value : Int := if negative then -s.value else s.value
  if s.full then realOfParts? negative s.value s.exponent
  else if negative ∧ (s.value = 0 ∨ value < -0x8000000000000000) then realOfParts? negative s.value 0
  else ofInt? value

/-- Reads a number token: no leading `+`, no superfluous leading zero, digits on both sides of a point. -/
def ofToken? (token : List Char) : Option Number := do
  let (negative, unsigned) := match token with
    | '-' :: rest => (true, rest)
    | text => (false, text)
  let (whole, fraction, rest) := DecimalText.splitPoint unsigned
  if whole = [] ∨ (whole.head? = some '0' ∧ 1 < whole.length) ∨ fraction = some [] then none
  if fraction = none ∧ rest = [] then ofIntegerToken? negative whole
  else
    let exponent ← DecimalText.trailingExponent? rest
    let s := (Significand.ofWhole whole).withFraction (fraction.getD [])
    realOfParts? negative s.value (s.exponent + exponent)

end Number

end SettingsForm
