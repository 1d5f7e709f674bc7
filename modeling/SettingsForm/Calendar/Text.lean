import SettingsForm.Calendar.Moment
import SettingsForm.Text.Blank
import SettingsForm.Text.Scan

/-!
# Texts of days and moments

A date is written in one of two forms.

* A day: year, month and day with hyphens between them. When read, blanks may precede each number, the
  month and the day have one or two digits, and the year has one to four digits or a sign and any number of
  digits. It is written with two-digit months and days, and with a year of four digits or, outside 0 to
  9999, a sign and at least four digits.
* A moment: a day of fixed width, a separator, the time with an optional fraction of a second, and an
  offset. Digits of the fraction past the ninth are dropped. The fraction is written with as many groups of
  three digits as it needs, and an offset of zero always as `+00:00`.

`DateText.normalize?` reads a text in either form and writes it again in that form.
-/

namespace SettingsForm

namespace Day

/-- A signed run of digits of any length, or one to four digits. -/
def takeYear? (text : List Char) : Option (Int × List Char) :=
  match text with
  | '-' :: rest => (Scan.upToDigits? rest.length rest).map fun (n, rest) => (-(n : Int), rest)
  | '+' :: rest => (Scan.upToDigits? rest.length rest).map fun (n, rest) => ((n : Int), rest)
  | text => (Scan.upToDigits? 4 text).map fun (n, rest) => ((n : Int), rest)

/-- Reads a day in the lenient form; nothing may follow it. -/
def read? (text : List Char) : Option Day := do
  let (year, rest) ← takeYear? (Blank.trimStart text)
  let rest ← Scan.char? '-' rest
  let (month, rest) ← Scan.upToDigits? 2 (Blank.trimStart rest)
  let rest ← Scan.char? '-' rest
  let (day, rest) ← Scan.upToDigits? 2 (Blank.trimStart rest)
  if rest = [] then ofParts? year month day else none

/-- Takes a day of fixed width: four digits, two and two. -/
def takeFixed? (text : List Char) : Option (Day × List Char) := do
  let (year, rest) ← Scan.fixedDigits? 4 text
  let rest ← Scan.char? '-' rest
  let (month, rest) ← Scan.fixedDigits? 2 rest
  let rest ← Scan.char? '-' rest
  let (day, rest) ← Scan.fixedDigits? 2 rest
  let date ← ofParts? year month day
  some (date, rest)

/-- Four digits, or a sign and at least four digits outside 0 to 9999. -/
def yearText (year : Int) : List Char :=
  if 0 ≤ year ∧ year ≤ 9999 then Digits.padded 4 year.toNat
  else (if year < 0 then '-' else '+') :: Digits.padded 4 year.natAbs

/-- Year, month and day with hyphens between them. -/
def text (d : Day) : List Char :=
  yearText d.year ++ '-' :: Digits.padded 2 d.month ++ '-' :: Digits.padded 2 d.day

end Day

namespace Moment

/-- An optional point and digits, as nanoseconds. -/
def takeFraction? (text : List Char) : Option (Nat × List Char) :=
  match text with
  | '.' :: rest =>
    let run := rest.takeWhile Digits.isDigit
    let kept := run.take 9
    if run = [] then none
    else some (Digits.toNat kept * Nat.pow 10 (9 - kept.length), rest.dropWhile Digits.isDigit)
  | text => some (0, text)

/-- The offset at the end of a moment: `Z` in either case, or a sign, hours and minutes. The minus sign may
also be the typographic one. -/
def offset? (text : List Char) : Option Int :=
  match text with
  | [] => none
  | sign :: rest =>
    if (sign = 'Z' ∨ sign = 'z') then (if rest = [] then some 0 else none)
    else if sign = '+' ∨ sign = '-' ∨ sign = '\u2212' then do
      let (hours, rest) ← Scan.fixedDigits? 2 rest
      let rest ← Scan.char? ':' rest
      let (minutes, rest) ← Scan.fixedDigits? 2 rest
      if rest = [] ∧ minutes < 60 then
        let total : Int := (hours * 60 + minutes : Nat)
        some (if sign = '+' then total else -total)
      else none
    else none

/-- The character between a day and a time. -/
def separator? : List Char → Option (List Char)
  | [] => none
  | c :: rest => if c = 'T' ∨ c = 't' ∨ c = ' ' then some rest else none

/-- The hour, minute, second and nanosecond of a time of day, which are not checked for their ranges. -/
def takeClock? (text : List Char) : Option ((Nat × Nat × Nat × Nat) × List Char) := do
  let (hour, rest) ← Scan.fixedDigits? 2 text
  let rest ← Scan.char? ':' rest
  let (minute, rest) ← Scan.fixedDigits? 2 rest
  let rest ← Scan.char? ':' rest
  let (second, rest) ← Scan.fixedDigits? 2 rest
  let (nanosecond, rest) ← takeFraction? rest
  some ((hour, minute, second, nanosecond), rest)

/-- Reads a moment; nothing may follow it. -/
def read? (text : List Char) : Option Moment := do
  let (date, rest) ← Day.takeFixed? text
  let rest ← separator? rest
  let ((hour, minute, second, nanosecond), rest) ← takeClock? rest
  let offset ← offset? rest
  ofParts? date hour minute second nanosecond offset

/-- The fraction of a second with no digits, or three, six or nine. -/
def fractionText (nanosecond : Nat) : List Char :=
  if nanosecond = 0 then []
  else if nanosecond % 1000000 = 0 then '.' :: Digits.padded 3 (nanosecond / 1000000)
  else if nanosecond % 1000 = 0 then '.' :: Digits.padded 6 (nanosecond / 1000)
  else '.' :: Digits.padded 9 nanosecond

/-- An offset in hours and minutes, with its sign. -/
def offsetText (offset : Int) : List Char :=
  (if offset < 0 then '-' else '+') ::
    (Digits.padded 2 (offset.natAbs / 60) ++ ':' :: Digits.padded 2 (offset.natAbs % 60))

/-- Day, clock, fraction and offset of a moment. -/
def text (m : Moment) : List Char :=
  m.date.text ++ 'T' :: (Digits.padded 2 m.hour ++ ':' :: (Digits.padded 2 m.minute ++
    ':' :: (Digits.padded 2 m.second ++ (fractionText m.nanosecond ++ offsetText m.offset))))

end Moment

namespace DateText

/-- Reads a text in either form, the day first, and writes it again in the same form. Blanks around it do
not matter. -/
def normalize? (text : String) : Option String :=
  let trimmed := Blank.trimChars text.toList
  match Day.read? trimmed with
  | some day => some (String.ofList day.text)
  | none => (Moment.read? trimmed).map fun moment => String.ofList moment.text

/-- The text of the moment that lies a number of seconds after the start of 1970. -/
def ofTimestamp? (seconds : Int) : Option String :=
  (Moment.ofTimestamp? seconds).map fun moment => String.ofList moment.text

end DateText

end SettingsForm
