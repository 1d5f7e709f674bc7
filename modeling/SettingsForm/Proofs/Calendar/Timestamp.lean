import SettingsForm.Proofs.Calendar.Text

/-!
# Timestamps

Seconds since 1970 are accepted as dates through all supported years, though the text that a moment gets
outside the years 0 to 9999 is not one that can be read. The bounds on the days and seconds of those years
follow from the cycle of four hundred years: it has 146097 days, and counted from the first of March the
year changes after 306 days.
-/

namespace SettingsForm

namespace Day

/-- The days left before some months are over are those that the months have together. -/
theorem splitMonths_lt_iff {lengths : List Nat} {count : Nat} (inside : count ≤ lengths.length) (days : Nat) :
    (splitMonths lengths days).1 < count ↔ days < (lengths.take count).sum := by
  induction lengths generalizing count days with
  | nil =>
    obtain rfl : count = 0 := Nat.le_zero.mp inside
    simp
  | cons length rest inductionHypothesis =>
    cases count with
    | zero => simp
    | succ count =>
      have later := inductionHypothesis (Nat.le_of_succ_le_succ inside) (days - length)
      rw [splitMonths, List.take_succ_cons, List.sum_cons]
      split
      · simp only
        omega
      · simp only [Nat.succ_lt_succ_iff, later]
        omega

/-- Days are split into no more months than are listed. -/
theorem splitMonths_le_length (lengths : List Nat) (days : Nat) :
    (splitMonths lengths days).1 ≤ lengths.length := by
  induction lengths generalizing days with
  | nil => exact Nat.le_refl 0
  | cons length rest inductionHypothesis =>
    rw [splitMonths, List.length_cons]
    split
    · exact Nat.zero_le _
    · exact Nat.succ_le_succ (inductionHypothesis _)

/-- The years of four digits are those from day -719528 to day 2932896. -/
theorem near_ofNumber?_iff {number : Int} {d : Day} (found : ofNumber? number = some d) :
    d.Near ↔ -719528 ≤ number ∧ number ≤ 2932896 := by
  unfold ofNumber? at found
  extract_lets shifted cycle dayOfCycle yearOfCycle dayOfYear at found
  split at found
  rename_i months days divided
  extract_lets month year at found
  have dated : d.year = year := year_of_ofParts? found
  have fromMarch : months < 10 ↔ dayOfYear < 306 := by
    have divides : (splitMonths monthsFromMarch dayOfYear).1 < 10 ↔
        dayOfYear < (monthsFromMarch.take 10).sum := splitMonths_lt_iff (by decide) dayOfYear
    rwa [divided] at divides
  have mostMonths : months ≤ 11 := by
    have most := splitMonths_le_length monthsFromMarch dayOfYear
    rwa [divided] at most
  have start : shifted = number + 719468 := rfl
  have inCycle : shifted = 146097 * cycle + dayOfCycle ∧ dayOfCycle < 146097 := by omega
  have lastYear : yearOfCycle ≤ 399 := by omega
  -- The last year of a cycle that counts from March changes its number after 306 days.
  have lastChange : 146037 ≤ dayOfCycle ↔ yearOfCycle = 399 ∧ 306 ≤ dayOfYear := by omega
  have numbered : year = yearOfCycle + 400 * cycle + (if dayOfYear < 306 then 0 else 1) := by
    by_cases before : months < 10
    · have march : ¬ month ≤ 2 := by simp only [month, before, if_true]; omega
      simp only [year, march, fromMarch.mp before, if_true, if_false]
      omega
    · have january : month ≤ 2 := by simp only [month, before, if_false]; omega
      simp only [year, january, mt fromMarch.mpr before, if_true, if_false]
      omega
  rw [Near, dated, numbered]
  clear_value shifted cycle dayOfCycle yearOfCycle dayOfYear
  split <;> omega

end Day

/-- The years 0 to 9999 in seconds since the start of 1970. -/
theorem Moment.near_ofTimestamp?_iff {seconds : Int} {m : Moment} (found : ofTimestamp? seconds = some m) :
    m.date.Near ↔ -62167219200 ≤ seconds ∧ seconds < 253402300800 := by
  simp only [ofTimestamp?, Option.bind_eq_bind, Option.bind_eq_some_iff] at found
  obtain ⟨date, numbered, parts⟩ := found
  rw [date_of_ofParts? parts, Day.near_ofNumber?_iff numbered]
  omega

namespace DateText

/-- The text that a timestamp before the year 0 or after the year 9999 is turned into. -/
def Remote (text : String) : Prop :=
  ∃ seconds, (seconds < -62167219200 ∨ 253402300800 ≤ seconds) ∧ ofTimestamp? seconds = some text

/-- The text is what some text or timestamp is turned into. -/
def Written (text : String) : Prop :=
  (∃ raw, normalize? raw = some text) ∨ ∃ seconds, ofTimestamp? seconds = some text

/-- A remote text is no date. -/
theorem normalize?_remote {text : String} (remote : Remote text) : normalize? text = none := by
  obtain ⟨seconds, outside, found⟩ := remote
  obtain ⟨moment, timed, rfl⟩ := Option.map_eq_some_iff.mp found
  have far : ¬ moment.date.Near := by
    rw [Moment.near_ofTimestamp?_iff timed]
    omega
  rw [normalize?_moment, if_neg far]

/-- Of the texts that dates are turned into, all but the remote ones stay as they are. -/
theorem Written.normalize?_iff {text : String} (written : Written text) :
    normalize? text = some text ↔ ¬ Remote text := by
  constructor
  · intro kept remote
    rw [normalize?_remote remote] at kept
    cases kept
  · intro near
    rcases written with ⟨raw, normalized⟩ | ⟨seconds, found⟩
    · exact normalize?_normalized normalized
    · have inside : ¬ (seconds < -62167219200 ∨ 253402300800 ≤ seconds) :=
        fun outside => near ⟨seconds, outside, found⟩
      obtain ⟨moment, timed, rfl⟩ := Option.map_eq_some_iff.mp found
      have dateNear : moment.date.Near := (Moment.near_ofTimestamp?_iff timed).mpr (by omega)
      rw [normalize?_moment, if_pos dateNear]

end DateText

end SettingsForm
