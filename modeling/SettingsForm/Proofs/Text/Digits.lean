import Mathlib.Algebra.GroupWithZero.Nat
import Mathlib.Data.List.Induction
import Mathlib.Data.List.TakeWhile
import SettingsForm.Text.Blank
import SettingsForm.Text.Scan

/-!
# Written numbers are read back

A number that is written with zeros in front of it denotes that number, and digits without a superfluous zero
are those of the number that they denote. A scanner that takes digits off a text takes exactly the written number
if nothing that follows it belongs to it. Digits are never blank, so a text that starts and ends with one keeps
them when blanks are cut off.
-/

namespace SettingsForm

namespace Digits

/-- The decimal digits are the characters with these ten codes. -/
theorem isDigit_iff {c : Char} : isDigit c = true ↔ 48 ≤ c.toNat ∧ c.toNat ≤ 57 := by
  simp only [isDigit, decide_eq_true_eq, Char.le_def, UInt32.le_iff_toNat_le]
  rfl

/-- These are the digits of the standard library. -/
theorem isDigit_eq (c : Char) : isDigit c = c.isDigit := by
  simp [isDigit, Char.isDigit, Char.le_def]

/-- Digits are read from the left, as the standard library reads them. -/
theorem toNat_eq_ofDigitChars (digits : List Char) : toNat digits = Nat.ofDigitChars 10 digits 0 := by
  simp only [toNat, Nat.ofDigitChars_eq_foldl, Nat.mul_comm]

/-- Zeros in front do not change the number that is read. -/
theorem toNat_padded (width n : Nat) : toNat (padded width n) = n := by
  rw [toNat_eq_ofDigitChars, padded, pad, Nat.ofDigitChars_append, Nat.ofDigitChars_replicate_zero,
    Nat.mul_zero, ofNat, Nat.ofDigitChars_ten_toDigits]

/-- Only digits are printed, in front of the number too. -/
theorem isDigit_of_mem_padded {width n : Nat} {c : Char} (member : c ∈ padded width n) :
    isDigit c = true := by
  rcases List.mem_append.mp member with zero | digit
  · rw [List.eq_of_mem_replicate zero]
    decide
  · rw [isDigit_eq]
    exact Nat.isDigit_of_mem_toDigits (by decide) (by decide) digit

/-- A padded number consists of digits. -/
theorem all_padded (width n : Nat) : (padded width n).all isDigit = true :=
  List.all_eq_true.mpr fun _ member => isDigit_of_mem_padded member

/-- Even zero in no places is printed as a digit. -/
theorem padded_ne_nil (width n : Nat) : padded width n ≠ [] := by
  rw [padded, pad, ofNat]
  exact List.append_ne_nil_of_right_ne_nil _ Nat.toDigits_ne_nil

/-- A number that fits a width is written with exactly that many digits. -/
theorem length_padded {width n : Nat} (places : 0 < width) (fits : n < 10 ^ width) :
    (padded width n).length = width := by
  have short : (ofNat n).length ≤ width := (Nat.length_toDigits_le_iff (by decide) places).mpr fits
  rw [padded, pad, List.length_append, List.length_replicate]
  omega

/-- The character of a digit is that of its value. -/
theorem digitChar_value {c : Char} (digit : isDigit c = true) :
    c.toNat - '0'.toNat < 10 ∧ Nat.digitChar (c.toNat - '0'.toNat) = c := by
  obtain ⟨least, most⟩ := isDigit_iff.mp digit
  have zero : '0'.toNat = 48 := rfl
  have small : c.toNat - '0'.toNat < 10 := by omega
  refine ⟨small, Char.toNat_inj.mp ?_⟩
  rw [Nat.toNat_digitChar_of_lt_ten small]
  omega

/-- As many digits denote a number below the power of ten. -/
theorem toNat_lt {digits : List Char} (all : digits.all isDigit = true) :
    toNat digits < 10 ^ digits.length := by
  rw [toNat_eq_ofDigitChars]
  induction digits with
  | nil => simp
  | cons c rest inductionHypothesis =>
    obtain ⟨digit, others⟩ := Bool.and_eq_true_iff.mp (List.all_cons.symm.trans all)
    have below := inductionHypothesis others
    have small := (digitChar_value digit).1
    rw [Nat.ofDigitChars_cons, Nat.ofDigitChars_eq_ofDigitChars_zero, List.length_cons, Nat.pow_succ,
      Nat.mul_zero, Nat.zero_add]
    calc 10 ^ rest.length * (c.toNat - '0'.toNat) + Nat.ofDigitChars 10 rest 0
        < 10 ^ rest.length * (c.toNat - '0'.toNat) + 10 ^ rest.length := Nat.add_lt_add_left below _
      _ = 10 ^ rest.length * (c.toNat - '0'.toNat + 1) := (Nat.mul_succ _ _).symm
      _ ≤ 10 ^ rest.length * 10 := Nat.mul_le_mul_left _ small

/-- No places ask for no zeros in front. -/
theorem padded_zero (n : Nat) : padded 0 n = ofNat n := by simp [padded, pad]

/-- A printed number is read as itself. -/
theorem toNat_ofNat (n : Nat) : toNat (ofNat n) = n := padded_zero n ▸ toNat_padded 0 n

/-- A printed number consists of digits. -/
theorem all_ofNat (n : Nat) : (ofNat n).all isDigit = true := padded_zero n ▸ all_padded 0 n

/-- A number of several digits does not start with a zero. -/
theorem head?_ofNat {n : Nat} (several : 1 < (ofNat n).length) : (ofNat n).head? ≠ some '0' := by
  intro zero
  obtain ⟨rest, written⟩ := List.head?_eq_some_iff.mp zero
  have all := all_ofNat n
  have value := toNat_ofNat n
  rw [written] at all value several
  have below : n < 10 ^ rest.length := by
    rw [← value]
    exact toNat_lt (Bool.and_eq_true_iff.mp (List.all_cons.symm.trans all)).2
  -- So few digits are enough for the number, but there is one more.
  have short : (ofNat n).length ≤ rest.length := by
    refine (Nat.length_toDigits_le_iff (by decide) ?_).mpr below
    exact Nat.lt_of_succ_lt_succ several
  rw [written] at short
  exact Nat.not_succ_le_self rest.length short

/-- Digits without a superfluous zero in front are those of the number that they denote. -/
theorem ofNat_toNat {digits : List Char} (given : digits ≠ []) (all : digits.all isDigit = true)
    (canonical : ¬(1 < digits.length ∧ digits.head? = some '0')) : ofNat (toNat digits) = digits := by
  -- The last digit is the remainder by ten, and those before it denote the quotient.
  induction digits using List.reverseRecOn with
  | nil => exact absurd rfl given
  | append_singleton start c inductionHypothesis =>
    rw [List.all_append, Bool.and_eq_true] at all
    obtain ⟨small, char⟩ := digitChar_value (Bool.and_eq_true_iff.mp (List.all_cons.symm.trans all.2)).1
    have value : toNat (start ++ [c]) = 10 * toNat start + (c.toNat - '0'.toNat) := by
      simp [toNat, Nat.mul_comm]
    by_cases single : start = []
    · subst single
      rw [value, ofNat, toNat, List.foldl_nil, Nat.mul_zero, Nat.zero_add, Nat.toDigits_of_lt_base small, char,
        List.nil_append]
    · have head : start.head? ≠ some '0' := by
        intro zero
        refine canonical ⟨?_, by rw [List.head?_append, zero, Option.some_or]⟩
        have several : 0 < start.length := List.length_pos_iff.mpr single
        rw [List.length_append]
        exact Nat.lt_add_of_pos_left several
      have before : ofNat (toNat start) = start :=
        inductionHypothesis single all.1 fun superfluous => head superfluous.2
      have positive : 0 < toNat start := by
        refine Nat.pos_of_ne_zero fun nothing => head ?_
        rw [← before, nothing]
        rfl
      calc ofNat (toNat (start ++ [c]))
          = Nat.toDigits 10 (10 * toNat start + (c.toNat - '0'.toNat)) := by rw [value, ofNat]
        _ = ofNat (toNat start) ++ Nat.toDigits 10 (c.toNat - '0'.toNat) :=
            (Nat.toDigits_append_toDigits (by decide) positive small).symm
        _ = start ++ [c] := by rw [before, Nat.toDigits_of_lt_base small, char]

end Digits

namespace Blank

/-- Digits are not blanks, so trimming stops at them. -/
theorem not_blank_of_digit {c : Char} (digit : Digits.isDigit c = true) : isBlank c = false := by
  obtain ⟨least, most⟩ := Digits.isDigit_iff.mp digit
  simp only [isBlank, ranges, List.any_cons, List.any_nil, Bool.or_eq_false_iff, decide_eq_false_iff_not,
    not_and, Nat.not_le, and_true]
  omega

/-- Nothing is cut off a text that does not start with a blank. -/
theorem trimStart_cons {c : Char} (shows : isBlank c = false) (rest : List Char) :
    trimStart (c :: rest) = c :: rest := List.dropWhile_cons_of_neg (by simp [shows])

/-- Nothing is trimmed from the front of a printed number. -/
theorem trimStart_padded (width n : Nat) (rest : List Char) :
    trimStart (Digits.padded width n ++ rest) = Digits.padded width n ++ rest := by
  cases written : Digits.padded width n with
  | nil => exact absurd written (Digits.padded_ne_nil width n)
  | cons c others =>
    have member : c ∈ Digits.padded width n := written ▸ List.mem_cons_self
    exact trimStart_cons (not_blank_of_digit (Digits.isDigit_of_mem_padded member)) _

/-- Nothing is cut off a text that ends with a number. -/
theorem trimChars_padded {text : List Char} (shows : trimStart text = text) {start : List Char}
    {width n : Nat} (ends : text = start ++ Digits.padded width n) : trimChars text = text := by
  have last : trimStart text.reverse = text.reverse := by
    cases written : (Digits.padded width n).reverse with
    | nil => exact absurd (List.reverse_eq_nil_iff.mp written) (Digits.padded_ne_nil width n)
    | cons c others =>
      have member : c ∈ Digits.padded width n := List.mem_reverse.mp (written ▸ List.mem_cons_self)
      rw [ends, List.reverse_append, written]
      exact trimStart_cons (not_blank_of_digit (Digits.isDigit_of_mem_padded member)) _
  rw [trimChars, shows, last, List.reverse_reverse]

end Blank

namespace Scan

/-- A number that was printed in some places is read back from as many, and what follows is left. -/
theorem fixedDigits?_padded {width n : Nat} (places : 0 < width) (fits : n < 10 ^ width)
    (rest : List Char) : fixedDigits? width (Digits.padded width n ++ rest) = some (n, rest) := by
  have length := Digits.length_padded places fits
  rw [fixedDigits?, List.take_left' length, List.drop_left' length,
    if_pos ⟨length, Digits.all_padded width n⟩, Digits.toNat_padded]

/-- What is read from a number of places has no more digits than that. -/
theorem fixedDigits?_lt {width n : Nat} {text rest : List Char}
    (taken : fixedDigits? width text = some (n, rest)) : n < 10 ^ width := by
  rw [fixedDigits?] at taken
  split at taken
  · rename_i run
    obtain ⟨length, all⟩ := run
    cases taken
    have below := Digits.toNat_lt all
    rwa [length] at below
  · cases taken

/-- A written number is taken whole if it fills the places or no digit follows it. -/
theorem upToDigits?_padded {most width n : Nat} {rest : List Char}
    (fits : (Digits.padded width n).length ≤ most)
    (ends : (Digits.padded width n).length = most ∨ ∀ c ∈ rest.head?, Digits.isDigit c = false) :
    upToDigits? most (Digits.padded width n ++ rest) = some (n, rest) := by
  have run : ((Digits.padded width n ++ rest).take most).takeWhile Digits.isDigit =
      Digits.padded width n := by
    rw [List.take_append, List.take_of_length_le fits,
      List.takeWhile_append_of_pos fun _ => Digits.isDigit_of_mem_padded]
    cases rest with
    | nil => simp
    | cons c others =>
      rcases ends with full | stops
      · simp [full]
      · have stop : Digits.isDigit c = false := stops c rfl
        cases most - (Digits.padded width n).length <;> simp [stop]
  rw [upToDigits?, run, if_neg (Digits.padded_ne_nil width n), List.drop_left, Digits.toNat_padded]

end Scan

end SettingsForm
