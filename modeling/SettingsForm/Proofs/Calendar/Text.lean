import SettingsForm.Calendar.Text
import SettingsForm.Proofs.Text.Digits

/-!
# Written dates are read back

The text of a day is read back as that day, and as a day no longer when something follows it. A moment is
read back if its year has four digits (`Day.Near`); no reader takes the text of any other moment, though
such moments come from timestamps. So a normalized text is left as it is when it is normalized again, and
the text of a timestamp is so too, or is no date at all.
-/

namespace SettingsForm

namespace Day

/-- A day is found by its own year, month and number. -/
theorem ofParts?_self (d : Day) : ofParts? d.year d.month d.day = some d := dif_pos d.exists_day

/-- A day that is found lies in the year that was asked for. -/
theorem year_of_ofParts? {year : Int} {month day : Nat} {d : Day} (found : ofParts? year month day = some d) :
    d.year = year := by
  rw [ofParts?] at found
  split at found
  · cases found
    rfl
  · cases found

/-- The number of a month has at most two digits. -/
theorem month_lt (d : Day) : d.month < 10 ^ 2 := by
  have range := d.exists_day.2.1.2
  omega

/-- The number of a day in its month has at most two digits. -/
theorem day_lt (d : Day) : d.day < 10 ^ 2 := by
  have range := d.exists_day.2.2.2
  have longest : Calendar.daysInMonth d.year d.month ≤ 31 := by
    unfold Calendar.daysInMonth
    split <;> (try split) <;> omega
  omega

/-- The year is written with four digits. -/
def Near (d : Day) : Prop := 0 ≤ d.year ∧ d.year ≤ 9999

/-- Whether a year is printed in four places can be computed. -/
instance (d : Day) : Decidable d.Near := inferInstanceAs (Decidable (0 ≤ d.year ∧ d.year ≤ 9999))

/-- The parts of a printed day, followed by anything. -/
theorem text_append (d : Day) (rest : List Char) :
    d.text ++ rest = yearText d.year ++ '-' :: (Digits.padded 2 d.month ++
      '-' :: (Digits.padded 2 d.day ++ rest)) := by
  simp [text]

/-- The text of a year outside 0 to 9999 starts with a sign. -/
theorem yearText_signed {year : Int} (far : ¬ (0 ≤ year ∧ year ≤ 9999)) :
    yearText year = (if year < 0 then '-' else '+') :: Digits.padded 4 year.natAbs := if_neg far

/-- A year of at most four digits is printed in four places. -/
theorem yearText_digits {year : Int} (near : 0 ≤ year ∧ year ≤ 9999) :
    yearText year = Digits.padded 4 year.toNat := if_pos near

/-- A printed year starts with a digit or a sign, so nothing is trimmed from its front. -/
theorem trimStart_yearText (year : Int) (rest : List Char) :
    Blank.trimStart (yearText year ++ rest) = yearText year ++ rest := by
  by_cases near : 0 ≤ year ∧ year ≤ 9999
  · rw [yearText_digits near, Blank.trimStart_padded]
  · rw [yearText_signed near]
    split <;> exact Blank.trimStart_cons (by decide) _

/-- A year without sign is read from its first four digits. -/
theorem takeYear?_padded {n : Nat} (fits : n < 10 ^ 4) (rest : List Char) :
    takeYear? (Digits.padded 4 n ++ rest) = some ((n : Int), rest) := by
  have length := Digits.length_padded (by decide) fits
  have taken : Scan.upToDigits? 4 (Digits.padded 4 n ++ rest) = some (n, rest) :=
    Scan.upToDigits?_padded (Nat.le_of_eq length) (Or.inl length)
  cases written : Digits.padded 4 n with
  | nil => exact absurd written (Digits.padded_ne_nil 4 n)
  | cons c others =>
    have member : c ∈ Digits.padded 4 n := written ▸ List.mem_cons_self
    have digit : Digits.isDigit c = true := Digits.isDigit_of_mem_padded member
    rw [written] at taken
    unfold takeYear?
    split
    · rename_i start
      cases start
      cases digit
    · rename_i start
      cases start
      cases digit
    · rw [taken]
      rfl

/-- What follows a year starts with a hyphen. -/
theorem takeYear?_yearText (year : Int) (rest : List Char) :
    takeYear? (yearText year ++ '-' :: rest) = some (year, '-' :: rest) := by
  by_cases near : 0 ≤ year ∧ year ≤ 9999
  · rw [yearText_digits near, takeYear?_padded (by omega), Int.toNat_of_nonneg near.1]
  · have taken : Scan.upToDigits? (Digits.padded 4 year.natAbs ++ '-' :: rest).length
        (Digits.padded 4 year.natAbs ++ '-' :: rest) = some (year.natAbs, '-' :: rest) :=
      Scan.upToDigits?_padded (by simp) (Or.inr (by simp [Digits.isDigit]))
    rw [yearText_signed near]
    split
    · have value : -(year.natAbs : Int) = year := by omega
      simp only [List.cons_append, takeYear?, taken, Option.map_some, value]
    · have value : (year.natAbs : Int) = year := by omega
      simp only [List.cons_append, takeYear?, taken, Option.map_some, value]

/-- A day is read off its text, after which nothing may follow. -/
theorem read?_text_append (d : Day) (rest : List Char) :
    read? (d.text ++ rest) = if rest = [] then some d else none := by
  have month := Digits.length_padded (by decide) d.month_lt
  have day := Digits.length_padded (by decide) d.day_lt
  rw [text_append, read?, trimStart_yearText, takeYear?_yearText]
  simp only [Option.bind_eq_bind, Option.bind_some, Scan.char?, if_true, Blank.trimStart_padded,
    Scan.upToDigits?_padded (Nat.le_of_eq month) (Or.inl month),
    Scan.upToDigits?_padded (Nat.le_of_eq day) (Or.inl day), ofParts?_self]

/-- A day whose year has four digits is read from its text, and what follows is left. -/
theorem takeFixed?_text_append {d : Day} (near : d.Near) (rest : List Char) :
    takeFixed? (d.text ++ rest) = some (d, rest) := by
  obtain ⟨least, most⟩ := near
  have year : ((d.year.toNat : Nat) : Int) = d.year := Int.toNat_of_nonneg least
  rw [text_append, takeFixed?, yearText_digits ⟨least, most⟩]
  simp only [Option.bind_eq_bind, Option.bind_some, Scan.char?, if_true,
    Scan.fixedDigits?_padded (by decide) (show d.year.toNat < 10 ^ 4 by omega),
    Scan.fixedDigits?_padded (by decide) d.month_lt, Scan.fixedDigits?_padded (by decide) d.day_lt,
    year, ofParts?_self]

/-- A sign is no digit, so a year with a sign is not one of fixed width. -/
theorem takeFixed?_far {d : Day} (far : ¬ d.Near) (rest : List Char) :
    takeFixed? (d.text ++ rest) = none := by
  rw [text_append, takeFixed?, yearText_signed far]
  split <;> simp [Scan.fixedDigits?, Digits.isDigit]

/-- A year of fixed width has four digits. -/
theorem near_of_takeFixed? {text rest : List Char} {d : Day} (taken : takeFixed? text = some (d, rest)) :
    d.Near := by
  simp only [takeFixed?, Option.bind_eq_bind, Option.bind_eq_some_iff, Prod.exists] at taken
  obtain ⟨year, _, four, _, -, month, _, -, _, -, day, _, -, found, exists_, same⟩ := taken
  cases same
  have below := Scan.fixedDigits?_lt four
  rw [Near, year_of_ofParts? exists_]
  omega

end Day

namespace Moment

/-- A moment is found by its own parts. -/
theorem ofParts?_self (m : Moment) :
    ofParts? m.date m.hour m.minute m.second m.nanosecond m.offset = some m := dif_pos m.inRange

/-- A moment that is found lies on the day that was asked for. -/
theorem date_of_ofParts? {date : Day} {hour minute second nanosecond : Nat} {offset : Int} {m : Moment}
    (found : ofParts? date hour minute second nanosecond offset = some m) : m.date = date := by
  rw [ofParts?] at found
  split at found
  · cases found
    rfl
  · cases found

/-- Digits after a point are taken up to a character that is none. -/
theorem takeFraction?_point {width n : Nat} (places : 0 < width) (most : width ≤ 9)
    (fits : n < 10 ^ width) {c : Char} (stops : Digits.isDigit c = false) (rest : List Char) :
    takeFraction? ('.' :: (Digits.padded width n ++ c :: rest)) = some (n * 10 ^ (9 - width), c :: rest) := by
  have length := Digits.length_padded places fits
  have digits : ∀ d ∈ Digits.padded width n, Digits.isDigit d = true :=
    fun _ => Digits.isDigit_of_mem_padded
  have run : (Digits.padded width n ++ c :: rest).takeWhile Digits.isDigit = Digits.padded width n := by
    rw [List.takeWhile_append_of_pos digits, List.takeWhile_cons_of_neg (by simp [stops]), List.append_nil]
  have left : (Digits.padded width n ++ c :: rest).dropWhile Digits.isDigit = c :: rest := by
    rw [List.dropWhile_append_of_pos digits, List.dropWhile_cons_of_neg (by simp [stops])]
  have kept : (Digits.padded width n).take 9 = Digits.padded width n :=
    List.take_of_length_le (by rw [length]; exact most)
  simp only [takeFraction?, run, left, kept, length, Digits.padded_ne_nil, if_false, Digits.toNat_padded]
  rfl

/-- A fraction is read off its text, whose digits end where the offset starts with its sign. -/
theorem takeFraction?_text {nanosecond : Nat} (range : nanosecond < 1000000000) {sign : Char}
    (signed : sign = '+' ∨ sign = '-') (rest : List Char) :
    takeFraction? (fractionText nanosecond ++ sign :: rest) = some (nanosecond, sign :: rest) := by
  have stops : Digits.isDigit sign = false := by rcases signed with rfl | rfl <;> decide
  rw [fractionText]
  split_ifs with none thousandth millionth
  · rw [none, List.nil_append]
    rcases signed with rfl | rfl <;> rfl
  · have value : nanosecond / 1000000 * 10 ^ (9 - 3) = nanosecond := by omega
    rw [List.cons_append, takeFraction?_point (by decide) (by decide) (by omega) stops, value]
  · have value : nanosecond / 1000 * 10 ^ (9 - 6) = nanosecond := by omega
    rw [List.cons_append, takeFraction?_point (by decide) (by decide) (by omega) stops, value]
  · have value : nanosecond * 10 ^ (9 - 9) = nanosecond := by omega
    rw [List.cons_append, takeFraction?_point (by decide) (by decide) (by omega) stops, value]

/-- An offset is read from its sign, its hours and its minutes. -/
theorem offset?_parts {sign : Char} (signed : sign = '+' ∨ sign = '-') {hours minutes : Nat}
    (hoursFit : hours < 10 ^ 2) (minutesFit : minutes < 60) :
    offset? (sign :: (Digits.padded 2 hours ++ ':' :: Digits.padded 2 minutes)) =
      some (if sign = '+' then ((hours * 60 + minutes : Nat) : Int) else -((hours * 60 + minutes : Nat) : Int)) := by
  have takenHours := Scan.fixedDigits?_padded (by decide) hoursFit (':' :: Digits.padded 2 minutes)
  have below : minutes < 10 ^ 2 := by omega
  have takenMinutes := Scan.fixedDigits?_padded (by decide) below []
  rw [List.append_nil] at takenMinutes
  rcases signed with rfl | rfl <;> simp [offset?, takenHours, takenMinutes, Scan.char?, minutesFit]

/-- An offset is read off its text. -/
theorem offset?_text {offset : Int} (range : offset.natAbs < 24 * 60) :
    offset? (offsetText offset) = some offset := by
  have hours : offset.natAbs / 60 < 10 ^ 2 := by omega
  have minutes : offset.natAbs % 60 < 60 := Nat.mod_lt _ (by decide)
  have total : offset.natAbs / 60 * 60 + offset.natAbs % 60 = offset.natAbs := Nat.div_add_mod' _ _
  rw [offsetText, offset?_parts (by split <;> simp) hours minutes, total]
  congr 1
  by_cases west : offset < 0
  · rw [if_pos west, if_neg (by decide)]
    omega
  · rw [if_neg west, if_pos rfl]
    omega

/-- A time of day is read off its text. -/
theorem takeClock?_text (m : Moment) :
    takeClock? (Digits.padded 2 m.hour ++ ':' :: (Digits.padded 2 m.minute ++
        ':' :: (Digits.padded 2 m.second ++ (fractionText m.nanosecond ++ offsetText m.offset)))) =
      some ((m.hour, m.minute, m.second, m.nanosecond), offsetText m.offset) := by
  obtain ⟨hour, minute, second, nanosecond, -⟩ := m.inRange
  have fraction : takeFraction? (fractionText m.nanosecond ++ offsetText m.offset) =
      some (m.nanosecond, offsetText m.offset) :=
    takeFraction?_text nanosecond (by split <;> simp) _
  simp only [takeClock?, Option.bind_eq_bind, Option.bind_some, Scan.char?, if_true, fraction,
    Scan.fixedDigits?_padded (by decide) (show m.hour < 10 ^ 2 by omega),
    Scan.fixedDigits?_padded (by decide) (show m.minute < 10 ^ 2 by omega),
    Scan.fixedDigits?_padded (by decide) (show m.second < 10 ^ 2 by omega)]

/-- A moment whose year has four digits is read off its text. -/
theorem read?_text {m : Moment} (near : m.date.Near) : read? m.text = some m := by
  simp only [read?, text, Day.takeFixed?_text_append near, Option.bind_eq_bind, Option.bind_some,
    separator?, true_or, if_true, takeClock?_text, offset?_text m.inRange.2.2.2.2, ofParts?_self]

/-- No other moment is read off its text. -/
theorem read?_far {m : Moment} (far : ¬ m.date.Near) : read? m.text = none := by
  rw [read?, text, Day.takeFixed?_far far]
  rfl

/-- A moment that is read has a year of four digits. -/
theorem near_of_read? {text : List Char} {m : Moment} (read : read? text = some m) : m.date.Near := by
  simp only [read?, Option.bind_eq_bind, Option.bind_eq_some_iff, Prod.exists] at read
  obtain ⟨date, _, day, _, -, hour, minute, second, nanosecond, _, -, offset, -, parts⟩ := read
  rw [date_of_ofParts? parts]
  exact Day.near_of_takeFixed? day

end Moment

namespace DateText

/-- A printed day has no blanks at its ends. -/
theorem trimChars_day (d : Day) : Blank.trimChars d.text = d.text := by
  have shows : Blank.trimStart d.text = d.text := by
    have split := Day.text_append d []
    rw [List.append_nil] at split
    rw [split, Day.trimStart_yearText]
  have ends : d.text = Day.yearText d.year ++ '-' :: Digits.padded 2 d.month ++ ['-'] ++
      Digits.padded 2 d.day := by rw [Day.text, List.append_cons _ '-' (Digits.padded 2 d.day)]
  exact Blank.trimChars_padded shows ends

/-- A printed moment has no blanks at its ends. -/
theorem trimChars_moment (m : Moment) : Blank.trimChars m.text = m.text := by
  have shows : Blank.trimStart m.text = m.text := by
    rw [Moment.text, Day.text_append, Day.trimStart_yearText]
  obtain ⟨start, ends⟩ : ∃ start, m.text = start ++ Digits.padded 2 (m.offset.natAbs % 60) := by
    refine ⟨m.date.text ++ 'T' :: (Digits.padded 2 m.hour ++ ':' :: (Digits.padded 2 m.minute ++
      ':' :: (Digits.padded 2 m.second ++ (Moment.fractionText m.nanosecond ++
        ((if m.offset < 0 then '-' else '+') :: (Digits.padded 2 (m.offset.natAbs / 60) ++ [':'])))))), ?_⟩
    simp [Moment.text, Moment.offsetText]
  exact Blank.trimChars_padded shows ends

/-- Both texts are read in the same form: as the same day, or not as a day but as the same moment. -/
inductive ReadAlike (first second : String) : Prop
  | day {d : Day} (read : Day.read? (Blank.trimChars first.toList) = some d)
      (again : Day.read? (Blank.trimChars second.toList) = some d) : ReadAlike first second
  | moment {m : Moment} (noDay : Day.read? (Blank.trimChars first.toList) = none)
      (read : Moment.read? (Blank.trimChars first.toList) = some m)
      (stillNoDay : Day.read? (Blank.trimChars second.toList) = none)
      (again : Moment.read? (Blank.trimChars second.toList) = some m) : ReadAlike first second

/-- Texts that are read in the same form are written in the same way. -/
theorem ReadAlike.normalize?_eq {first second : String} (alike : ReadAlike first second) :
    normalize? first = normalize? second := by
  cases alike with
  | day read again => simp only [normalize?, read, again]
  | moment noDay read stillNoDay again => simp only [normalize?, noDay, read, stillNoDay, again]

/-- A day is read from its own text. -/
theorem read?_day (d : Day) : Day.read? (Blank.trimChars (String.ofList d.text).toList) = some d := by
  have read := Day.read?_text_append d []
  rw [List.append_nil, if_pos rfl] at read
  rw [String.toList_ofList, trimChars_day, read]

/-- The text of a moment is that of its day with more behind it, so it is not the text of a day. -/
theorem read?_moment (m : Moment) : Day.read? (Blank.trimChars (String.ofList m.text).toList) = none ∧
    Moment.read? (Blank.trimChars (String.ofList m.text).toList) = if m.date.Near then some m else none := by
  rw [String.toList_ofList, trimChars_moment]
  constructor
  · rw [Moment.text, Day.read?_text_append, if_neg (List.cons_ne_nil _ _)]
  · split
    · rename_i near
      exact Moment.read?_text near
    · rename_i far
      exact Moment.read?_far far

/-- The text of a moment stays as it is if its year has four digits, and is no date otherwise. -/
theorem normalize?_moment (m : Moment) :
    normalize? (String.ofList m.text) = if m.date.Near then some (String.ofList m.text) else none := by
  obtain ⟨noDay, read⟩ := read?_moment m
  simp only [normalize?, noDay, read]
  split <;> rfl

/-- A normalized text is read in the form of the text that it was made from. -/
theorem readAlike_normalized {raw text : String} (normalized : normalize? raw = some text) :
    ReadAlike raw text := by
  rw [normalize?] at normalized
  split at normalized
  · rename_i day read
    obtain rfl := Option.some.inj normalized
    exact .day read (read?_day day)
  · rename_i noDay
    obtain ⟨moment, read, rfl⟩ := Option.map_eq_some_iff.mp normalized
    obtain ⟨stillNoDay, again⟩ := read?_moment moment
    rw [if_pos (Moment.near_of_read? read)] at again
    exact .moment noDay read stillNoDay again

/-- A normalized text stays as it is. -/
theorem normalize?_normalized {raw text : String} (normalized : normalize? raw = some text) :
    normalize? text = some text := by
  rw [← (readAlike_normalized normalized).normalize?_eq]
  exact normalized

end DateText

end SettingsForm
