/-!
# Calendar days

Days of the proleptic Gregorian calendar in the supported range of years. `Day.ofParts?` accepts exactly
the days that exist; `Day.ofNumber?` counts days from 1970-01-01.
-/

namespace SettingsForm

namespace Calendar

/-- A year is a leap year if four divides it, except for the centuries that four hundred does not divide. -/
def isLeap (year : Int) : Bool :=
  decide (year % 4 = 0 ∧ (year % 100 ≠ 0 ∨ year % 400 = 0))

/-- The length of a month; that of February depends on the year. -/
def daysInMonth (year : Int) (month : Nat) : Nat :=
  match month with
  | 2 => if isLeap year then 29 else 28
  | 4 | 6 | 9 | 11 => 30
  | _ => 31

/-- The first of the years that days may lie in. -/
def firstYear : Int := -262143

/-- The last of these years. -/
def lastYear : Int := 262142

/-- The parts name a day that exists. -/
def Exists (year : Int) (month day : Nat) : Prop :=
  (firstYear ≤ year ∧ year ≤ lastYear) ∧ (1 ≤ month ∧ month ≤ 12) ∧
    (1 ≤ day ∧ day ≤ daysInMonth year month)

/-- Whether a year has a day can be computed, month by month. -/
instance (year : Int) (month day : Nat) : Decidable (Exists year month day) := by
  unfold Exists
  infer_instance

end Calendar

/-- A day that exists. -/
structure Day where
  year : Int
  month : Nat
  day : Nat
  exists_day : Calendar.Exists year month day

namespace Day

/-- The day with these parts, if it exists. -/
def ofParts? (year : Int) (month day : Nat) : Option Day :=
  if h : Calendar.Exists year month day then some ⟨year, month, day, h⟩ else none

/-- Lengths of the months from March to January; what is left of a year is February. -/
def monthsFromMarch : List Nat := [31, 30, 31, 30, 31, 31, 30, 31, 30, 31, 31]

/-- Splits a count of days since the first of March into whole months and the days left. -/
def splitMonths : List Nat → Nat → Nat × Nat
  | [], days => (0, days)
  | length :: rest, days =>
    if days < length then (0, days)
    else
      let (months, left) := splitMonths rest (days - length)
      (months + 1, left)

/-- The day that lies a number of days after 1970-01-01. The count runs in cycles of four hundred years,
each year starting with March so that a leap day ends its year. -/
def ofNumber? (number : Int) : Option Day :=
  let shifted := number + 719468
  let cycle := shifted / 146097
  let dayOfCycle := (shifted % 146097).toNat
  let yearOfCycle := (dayOfCycle - dayOfCycle / 1460 + dayOfCycle / 36524 - dayOfCycle / 146096) / 365
  let dayOfYear := dayOfCycle - (365 * yearOfCycle + yearOfCycle / 4 - yearOfCycle / 100)
  let (months, days) := splitMonths monthsFromMarch dayOfYear
  let month := if months < 10 then months + 3 else months - 9
  let year := yearOfCycle + cycle * 400 + (if month ≤ 2 then 1 else 0)
  ofParts? year month (days + 1)

end Day

end SettingsForm
