import SettingsForm.Calendar.Text
import SettingsForm.Value.Basic

/-!
# Dates and times of TOML

A day, a time of day, or both, the latter with or without an offset from universal time. As a value each is
a mapping of one entry, which holds the text. The text has a `T` between day and time, and the fraction of
the second without the zeros at its end.

A date-time may be written out in a document, or its text may be stored in a mapping of that one entry;
`DateTime.read?` reads the text in both cases. Hours of the day and of an offset lie below 24, minutes below
60, and the second may be 60.
-/

namespace SettingsForm.Toml

/-- A time of day. -/
structure ClockTime where
  hour : Nat
  minute : Nat
  second : Nat
  nanosecond : Nat
  deriving DecidableEq, Repr

/-- Where the time of a day is counted from. -/
inductive Zone where
  | universal
  /-- Minutes east of universal time. -/
  | offset (minutes : Int)
  deriving DecidableEq, Repr

/-- A date, a time of day, or a moment, with or without a zone. -/
inductive DateTime where
  | day (date : Day)
  | time (clock : ClockTime)
  | moment (date : Day) (clock : ClockTime) (zone : Option Zone)

namespace DateTime

/-- Takes a time of day. -/
def takeTime? (text : List Char) : Option (ClockTime × List Char) := do
  let ((hour, minute, second, nanosecond), rest) ← Moment.takeClock? text
  if hour ≤ 23 ∧ minute ≤ 59 ∧ second ≤ 60 then
    some ({ hour, minute, second, nanosecond }, rest)
  else none

/-- Reads the zone at the end of a date-time, which may be missing. -/
def zone? (text : List Char) : Option (Option Zone) :=
  match text with
  | [] => some none
  | sign :: rest =>
    if sign = 'Z' ∨ sign = 'z' then (if rest = [] then some (some .universal) else none)
    else if sign = '+' ∨ sign = '-' then do
      let (hours, rest) ← Scan.fixedDigits? 2 rest
      let rest ← Scan.char? ':' rest
      let (minutes, rest) ← Scan.fixedDigits? 2 rest
      if rest = [] ∧ hours ≤ 23 ∧ minutes ≤ 59 then
        let total : Int := (hours * 60 + minutes : Nat)
        some (some (.offset (if sign = '+' then total else -total)))
      else none
    else none

/-- Reads a date-time; nothing may follow it. -/
def read? (text : List Char) : Option DateTime :=
  match Day.takeFixed? text with
  | some (date, []) => some (.day date)
  | some (date, rest) => do
    let (clock, rest) ← takeTime? (← Moment.separator? rest)
    some (.moment date clock (← zone? rest))
  | none => do
    let (clock, rest) ← takeTime? text
    if rest = [] then some (.time clock) else none

/-- The fraction of a second with as many digits as it needs. -/
def fractionText (nanosecond : Nat) : List Char :=
  if nanosecond = 0 then []
  else '.' :: ((Digits.padded 9 nanosecond).reverse.dropWhile (· = '0')).reverse

/-- A time of day with its fraction of a second, if it has one. -/
def clockText (clock : ClockTime) : List Char :=
  Digits.padded 2 clock.hour ++ ':' :: (Digits.padded 2 clock.minute ++
    ':' :: (Digits.padded 2 clock.second ++ fractionText clock.nanosecond))

/-- A zone behind a time of day. -/
def zoneText : Option Zone → List Char
  | none => []
  | some .universal => ['Z']
  | some (.offset minutes) => Moment.offsetText minutes

/-- The spelling in which date-times are handed on. -/
def text : DateTime → List Char
  | day date => date.text
  | time clock => clockText clock
  | moment date clock zone => date.text ++ 'T' :: (clockText clock ++ zoneText zone)

/-- The key of the one entry of a mapping that stands for a date-time. -/
def entryKey : String := "$__toml_private_datetime"

/-- A date-time counts as a table with its spelling under a key of its own. -/
def toValue (d : DateTime) : Value := .mapping [(entryKey, .string (String.ofList d.text))]

end DateTime

end SettingsForm.Toml
