import SettingsForm.Number.Reader
import SettingsForm.Toml.Character
import SettingsForm.Toml.DateTime

/-!
# Scalars of TOML without quotation marks

Booleans, date-times, integers and floating-point numbers. None of their texts contains a blank, with one
exception: a day and a time of day may be joined by a space.

Integers must fit signed 64-bit integers. Digits may be grouped by underscores, each of which stands between
two digits. What is not a finite number becomes null, except that a number too large is refused.
-/

namespace SettingsForm.Toml.Scalar

/-- The characters of scalars without quotation marks. -/
def isTokenChar (c : Char) : Bool :=
  isLetter c || Digits.isDigit c || c = '+' || c = '-' || c = '_' || c = '.' || c = ':'

/-- Takes the underscores out of digits. -/
def ungroup? (isDigit : Char → Bool) : List Char → Option (List Char)
  | [] => none
  | [c] => if isDigit c then some [c] else none
  | c :: '_' :: rest => if isDigit c then (ungroup? isDigit rest).map (c :: ·) else none
  | c :: rest => if isDigit c then (ungroup? isDigit rest).map (c :: ·) else none

/-- Decimal digits, with underscores between them but without a superfluous leading zero. -/
def wholeDigits? (text : List Char) : Option (List Char) := do
  let digits ← ungroup? Digits.isDigit text
  if digits.head? = some '0' ∧ 1 < digits.length then none else some digits

/-- The magnitude that digits of a radix denote. -/
def magnitude? (radix : Nat) (text : List Char) : Option Nat := do
  let values ← (← ungroup? (fun c => ((Digits.hexValue? c).any (· < radix))) text).mapM Digits.hexValue?
  some (values.foldl (fun total value => total * radix + value) 0)

/-- Reads an integer: signed decimal digits, or unsigned digits of another radix behind its letter. -/
def integer? (text : List Char) : Option Int :=
  match text with
  | '0' :: 'x' :: rest => (magnitude? 16 rest).map Int.ofNat
  | '0' :: 'o' :: rest => (magnitude? 8 rest).map Int.ofNat
  | '0' :: 'b' :: rest => (magnitude? 2 rest).map Int.ofNat
  | text => do
    let (negative, unsigned) := Digits.splitSign text
    let magnitude := Digits.toNat (← wholeDigits? unsigned)
    some (if negative then -magnitude else magnitude)

/-- The digits after the point of a number, if it has one, and what follows. -/
def takeFraction? (text : List Char) : Option (List Char × List Char) :=
  match text with
  | '.' :: rest => do
    let fraction := rest.takeWhile fun c => c ≠ 'e' ∧ c ≠ 'E'
    some (← ungroup? Digits.isDigit fraction, rest.drop fraction.length)
  | text => some ([], text)

/-- Reads the exponent of a number, which may be missing. -/
def exponent? (text : List Char) : Option Int :=
  match text with
  | [] => some 0
  | letter :: rest =>
    if letter = 'e' ∨ letter = 'E' then do
      let (negative, digits) := Digits.splitSign rest
      let magnitude := Digits.toNat (← ungroup? Digits.isDigit digits)
      some (if negative then -magnitude else magnitude)
    else none

/-- Reads a number with a point or an exponent. -/
def decimal? (text : List Char) : Option DecimalText := do
  let (negative, unsigned) := Digits.splitSign text
  let digits := unsigned.takeWhile fun c => c ≠ '.' ∧ c ≠ 'e' ∧ c ≠ 'E'
  let rest := unsigned.drop digits.length
  if rest = [] then none
  let whole ← wholeDigits? digits
  let (fraction, rest) ← takeFraction? rest
  some { negative, whole, fraction, exponent := ← exponent? rest }

/-- The value of a number with a point or an exponent. One that is too large is refused, and becomes null
if it is negative. -/
def ofDecimal? (d : DecimalText) : Option Value :=
  match Number.ofBinary64? d.round with
  | some n => some (.number n)
  | none => if d.negative then some .null else none

/-- A name of an infinity, or of what is not a number; either may have a sign. -/
def isNonFinite (text : List Char) : Bool :=
  let (_, name) := Digits.splitSign text
  name = "inf".toList || name = "nan".toList

/-- The value of a scalar's text. -/
def ofToken? (token : List Char) : Option Value :=
  if token = "true".toList then some (.bool true)
  else if token = "false".toList then some (.bool false)
  else if isNonFinite token then some .null
  else match DateTime.read? token with
    | some d => some d.toValue
    | none =>
      match decimal? token with
      | some d => ofDecimal? d
      | none => do
        let i ← integer? token
        if -0x8000000000000000 ≤ i ∧ i < 0x8000000000000000 then (Number.ofInt? i).map .number else none

/-- The token spells a date without a time. -/
def isDay (token : List Char) : Bool :=
  match DateTime.read? token with
  | some (.day _) => true
  | _ => false

/-- Reads a scalar and returns what follows it. A day takes in a time of day that a space joins to it. -/
def read? (text : List Char) : Option (Value × List Char) :=
  let token := text.takeWhile isTokenChar
  let rest := text.drop token.length
  let joined := (rest.drop 1).takeWhile isTokenChar
  if isDay token ∧ rest.head? = some ' ' ∧ joined ≠ [] then
    (ofToken? (token ++ 'T' :: joined)).map (·, rest.drop (1 + joined.length))
  else (ofToken? token).map (·, rest)

end SettingsForm.Toml.Scalar
