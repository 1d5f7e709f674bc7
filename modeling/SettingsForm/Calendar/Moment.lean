import SettingsForm.Calendar.Day

/-!
# Moments

A moment is a day, a time of day and an offset from universal time in minutes. The second may be 60 in
any minute, for leap seconds.
-/

namespace SettingsForm

/-- A local time with its offset from universal time. -/
structure Moment where
  date : Day
  hour : Nat
  minute : Nat
  second : Nat
  nanosecond : Nat
  /-- Minutes east of universal time. -/
  offset : Int
  inRange : hour < 24 ∧ minute < 60 ∧ second ≤ 60 ∧ nanosecond < 1000000000 ∧ offset.natAbs < 24 * 60

namespace Moment

/-- The moment with these parts, if its time and its offset are in range. -/
def ofParts? (date : Day) (hour minute second nanosecond : Nat) (offset : Int) : Option Moment :=
  if h : hour < 24 ∧ minute < 60 ∧ second ≤ 60 ∧ nanosecond < 1000000000 ∧ offset.natAbs < 24 * 60 then
    some { date, hour, minute, second, nanosecond, offset, inRange := h }
  else none

/-- The moment in universal time that lies a number of seconds after the start of 1970. -/
def ofTimestamp? (seconds : Int) : Option Moment := do
  let date ← Day.ofNumber? (seconds / 86400)
  let rest := (seconds % 86400).toNat
  ofParts? date (rest / 3600) (rest / 60 % 60) (rest % 60) 0 0

end Moment

end SettingsForm
