import Mathlib.Algebra.Order.Field.Power
import Mathlib.Algebra.Order.Ring.Rat
import Mathlib.Data.Rat.Cast.Order
import Mathlib.Tactic.NormNum
import Mathlib.Tactic.Ring
import SettingsForm.Contract.Coercion
import SettingsForm.Proofs.Text.Digits

/-!
# Integers read from numbers and texts

A finite word denotes a rational number (`Binary64.toRat`), and so does every number of a document
(`Number.toRat`). Converting a number to an integer goes through the nearest word if the number is not kept as
a signed 64-bit integer. Nothing is lost on that way: an integer out of range is rounded to a word that is out of
range as well, since the first word out of range is itself such an integer (`Number.exactInt64?_iff`).

A text is an integer if it is an optional sign and digits (`IntegerText`). Both ways of reading an integer are
exact (`Coercion.integer?_exact`).
-/

namespace SettingsForm

/-- The signed 64-bit integers are those in this range. -/
def InInt64 (z : ℤ) : Prop := -0x8000000000000000 ≤ z ∧ z < 0x8000000000000000

/-- An integer in range survives as a 64-bit word. -/
theorem toInt_ofInt {z : ℤ} (range : InInt64 z) : (Int64.ofInt z).toInt = z :=
  Int64.toInt_ofInt_of_le range.1 range.2

namespace Binary64

/-! ## What a word denotes -/

/-- The rational number that a finite word denotes. -/
def toRat (x : Binary64) : ℚ := (if x.isNegative then -1 else 1) * (x.significand * (2 : ℚ) ^ x.scale)

/-- The denominator of a word is positive. -/
theorem ratio_pos (x : Binary64) : 0 < x.ratio.2 := by
  rw [ratio]
  split
  · exact Nat.one_pos
  · exact Nat.pow_pos Nat.two_pos

/-- The ratio of a word is its significand, scaled by a power of two. -/
theorem ratio_eq (x : Binary64) : (x.ratio.1 : ℚ) / x.ratio.2 = x.significand * (2 : ℚ) ^ x.scale := by
  rw [ratio]
  split
  · rename_i upward
    obtain ⟨k, same⟩ := Int.eq_ofNat_of_zero_le upward
    simp [same, zpow_natCast]
  · rename_i downward
    obtain ⟨k, same⟩ : ∃ k : ℕ, x.scale = -k := ⟨(-x.scale).toNat, by omega⟩
    simp [same, zpow_neg, zpow_natCast, div_eq_mul_inv]

/-- A word denotes its numerator over the denominator of its ratio. -/
theorem toRat_eq (x : Binary64) : x.toRat = x.numerator / x.ratio.2 := by
  rw [toRat, ← ratio_eq, numerator]
  split
  · push_cast
    ring
  · push_cast
    ring

/-- Comparing two words by their ratios compares what they denote. -/
theorem atMost_iff (x y : Binary64) : x.atMost y = true ↔ x.toRat ≤ y.toRat := by
  have left : (0 : ℚ) < x.ratio.2 := by exact_mod_cast x.ratio_pos
  have right : (0 : ℚ) < y.ratio.2 := by exact_mod_cast y.ratio_pos
  rw [atMost, decide_eq_true_eq, toRat_eq, toRat_eq, div_le_div_iff₀ left right]
  exact_mod_cast Iff.rfl

/-- Comparing two words strictly by their ratios compares what they denote. -/
theorem below_iff (x y : Binary64) : x.below y = true ↔ x.toRat < y.toRat := by
  have left : (0 : ℚ) < x.ratio.2 := by exact_mod_cast x.ratio_pos
  have right : (0 : ℚ) < y.ratio.2 := by exact_mod_cast y.ratio_pos
  rw [below, decide_eq_true_eq, toRat_eq, toRat_eq, div_lt_div_iff₀ left right]
  exact_mod_cast Iff.rfl

/-- A word denotes an integer just if its numerator is a multiple of the denominator. -/
theorem toRat_eq_int_iff {x : Binary64} {z : ℤ} : x.toRat = z ↔ x.numerator = z * x.ratio.2 := by
  have positive : (x.ratio.2 : ℚ) ≠ 0 := by exact_mod_cast x.ratio_pos.ne'
  rw [toRat_eq, div_eq_iff positive]
  exact_mod_cast Iff.rfl

/-- A finite word is whole just if it denotes an integer. -/
theorem isWhole_iff {x : Binary64} (finite : x.isFinite = true) :
    x.isWhole = true ↔ ∃ z : ℤ, x.toRat = z := by
  have divides : x.isWhole = true ↔ (x.ratio.2 : ℤ) ∣ x.numerator := by
    rw [isWhole, finite, Bool.true_and, decide_eq_true_eq, ← Nat.dvd_iff_mod_eq_zero, numerator]
    split
    · rw [Int.dvd_neg, Int.natCast_dvd_natCast]
    · rw [Int.natCast_dvd_natCast]
  rw [divides]
  constructor
  · rintro ⟨z, multiple⟩
    exact ⟨z, toRat_eq_int_iff.mpr (multiple.trans (Int.mul_comm _ _))⟩
  · rintro ⟨z, denotes⟩
    exact ⟨z, (toRat_eq_int_iff.mp denotes).trans (Int.mul_comm _ _)⟩

/-- A word that denotes an integer in range is cut off to that integer. -/
theorem toInt64_of_toRat {x : Binary64} {z : ℤ} (denotes : x.toRat = z) (range : InInt64 z) :
    x.toInt64.toInt = z := by
  have positive : (x.ratio.2 : ℤ) ≠ 0 := by exact_mod_cast x.ratio_pos.ne'
  rw [toInt64, toRat_eq_int_iff.mp denotes, Int.mul_tdiv_cancel z positive]
  exact Int64.toInt_ofIntClamp range.1 (Int.lt_add_one_iff.mp range.2)

/-! ## The bounds of the range as words -/

/-- The least integer is itself a word. -/
theorem toRat_least : (ofInt Int64.minValue.toInt).toRat = -0x8000000000000000 := by
  have word : ofInt Int64.minValue.toInt = ⟨0xC3E0000000000000⟩ := by decide
  have negative : (⟨0xC3E0000000000000⟩ : Binary64).isNegative = true := by decide
  have significand : (⟨0xC3E0000000000000⟩ : Binary64).significand = 0x10000000000000 := by decide
  have scale : (⟨0xC3E0000000000000⟩ : Binary64).scale = 11 := by decide
  rw [word, toRat, negative, significand, scale]
  norm_num

/-- The largest integer is rounded up to the first one out of range. -/
theorem toRat_most : (ofInt Int64.maxValue.toInt).toRat = 0x8000000000000000 := by
  have word : ofInt Int64.maxValue.toInt = ⟨0x43E0000000000000⟩ := by decide
  have positive : (⟨0x43E0000000000000⟩ : Binary64).isNegative = false := by decide
  have significand : (⟨0x43E0000000000000⟩ : Binary64).significand = 0x10000000000000 := by decide
  have scale : (⟨0x43E0000000000000⟩ : Binary64).scale = 11 := by decide
  rw [word, toRat, positive, significand, scale]
  norm_num

/-- A finite word is read as an integer just if it denotes one that is in range. -/
theorem exactInt64?_iff {x : Binary64} (finite : x.isFinite = true) (z : ℤ) :
    x.exactInt64?.map Int64.toInt = some z ↔ x.toRat = z ∧ InInt64 z := by
  have least (z : ℤ) (denotes : x.toRat = z) :
      (ofInt Int64.minValue.toInt).atMost x = true ↔ -0x8000000000000000 ≤ z := by
    rw [atMost_iff, toRat_least, denotes]
    exact_mod_cast Iff.rfl
  have most (z : ℤ) (denotes : x.toRat = z) :
      x.below (ofInt Int64.maxValue.toInt) = true ↔ z < 0x8000000000000000 := by
    rw [below_iff, toRat_most, denotes]
    exact_mod_cast Iff.rfl
  constructor
  · intro read
    obtain ⟨i, found, same⟩ := Option.map_eq_some_iff.mp read
    obtain ⟨⟨integral, lower, upper⟩, cut⟩ := Option.ite_none_right_eq_some.mp found
    obtain ⟨whole, denotes⟩ := (isWhole_iff finite).mp integral
    have range : InInt64 whole := ⟨(least whole denotes).mp lower, (most whole denotes).mp upper⟩
    obtain rfl : x.toInt64 = i := Option.some.inj cut
    obtain rfl : whole = z := (toInt64_of_toRat denotes range).symm.trans same
    exact ⟨denotes, range⟩
  · rintro ⟨denotes, range⟩
    have integral := (isWhole_iff finite).mpr ⟨z, denotes⟩
    rw [exactInt64?, if_pos ⟨integral, (least z denotes).mpr range.1, (most z denotes).mpr range.2⟩]
    exact congrArg some (toInt64_of_toRat denotes range)

/-! ## Integers out of range -/

/-- Rounding to nearest gives the quotient or the number after it. -/
theorem roundQuotient_bounds (numerator denominator : ℕ) :
    numerator / denominator ≤ roundQuotient numerator denominator ∧
      roundQuotient numerator denominator ≤ numerator / denominator + 1 := by
  rw [roundQuotient]
  split <;> omega

/-- A word put together of an exponent and a significand, which may have been rounded up to the next power of
two. -/
theorem toRat_ofMagnitude {exponent rounded : ℕ} (normal : 0 < exponent ∧ exponent < 2046)
    (bounds : 0x10000000000000 ≤ rounded ∧ rounded ≤ 0x20000000000000) :
    (ofMagnitude false (exponent * 0x10000000000000 + (rounded - 0x10000000000000))).isFinite = true ∧
      (ofMagnitude false (exponent * 0x10000000000000 + (rounded - 0x10000000000000))).toRat =
        rounded * (2 : ℚ) ^ ((exponent : ℤ) - 1075) := by
  generalize assembled : ofMagnitude false (exponent * 0x10000000000000 + (rounded - 0x10000000000000)) = x
  have word : x.word.toNat = exponent * 0x10000000000000 + (rounded - 0x10000000000000) := by
    rw [← assembled, ofMagnitude, if_neg Bool.false_ne_true, Nat.zero_add, UInt64.toNat_ofNat']
    omega
  have positive : x.isNegative = false := by
    rw [isNegative, word]
    exact decide_eq_false (by omega)
  rcases bounds.2.lt_or_eq with below | rfl
  · have field : x.exponentField = exponent := by
      rw [exponentField, word]
      omega
    have significand : x.significand = rounded := by
      rw [significand, field, if_neg normal.1.ne', fraction, word]
      omega
    have scale : x.scale = (exponent : ℤ) - 1075 := by
      rw [scale, field]
      omega
    refine ⟨decide_eq_true (by omega), ?_⟩
    rw [toRat, positive, significand, scale, if_neg Bool.false_ne_true, one_mul]
  · have field : x.exponentField = exponent + 1 := by
      rw [exponentField, word]
      omega
    have significand : x.significand = 0x10000000000000 := by
      rw [significand, field, if_neg exponent.succ_ne_zero, fraction, word]
      omega
    have scale : x.scale = (exponent : ℤ) - 1075 + 1 := by
      rw [scale, field]
      omega
    refine ⟨decide_eq_true (by omega), ?_⟩
    rw [toRat, positive, significand, scale, if_neg Bool.false_ne_true, one_mul, zpow_add_one₀ two_ne_zero]
    push_cast
    ring

/-- An integer above the range is rounded to a finite word that is above the range as well. -/
theorem large_ofInt {z : ℤ} (least : 0x8000000000000000 ≤ z) (most : z < 0x10000000000000000) :
    (ofInt z).isFinite = true ∧ (0x8000000000000000 : ℚ) ≤ (ofInt z).toRat := by
  obtain ⟨n, rfl⟩ := Int.eq_ofNat_of_zero_le (show 0 ≤ z by omega)
  have size : n.log2 = 63 := (Nat.log2_eq_iff (by omega)).mpr (by omega)
  -- The quotient by the estimated power has one bit too many, so the next power is taken.
  have power : ratioScale n 1 = 11 := by
    have estimate : max ((n.log2 : ℤ) - (Nat.log2 1 : ℕ) - 53) (-1074) = 10 := by
      rw [size]
      decide
    have scaled : scaledRatio n 1 10 = (n, 0x400) := rfl
    simp only [ratioScale, estimate, scaled]
    rw [if_pos (by omega)]
    rfl
  have scaled : scaledRatio n 1 11 = (n, 0x800) := rfl
  have bounds := roundQuotient_bounds n 0x800
  have significand : 0x10000000000000 ≤ roundQuotient n 0x800 ∧ roundQuotient n 0x800 ≤ 0x20000000000000 := by
    omega
  have word : ofInt n = ofMagnitude false
      (1086 * 0x10000000000000 + (roundQuotient n 0x800 - 0x10000000000000)) := by
    have positive : decide ((n : ℤ) < 0) = false := decide_eq_false (by omega)
    have magnitude : (11 + 1075 : ℤ).toNat = 1086 := rfl
    have normal : ¬roundQuotient n 0x800 < 0x10000000000000 := by omega
    simp only [ofInt, positive, Int.natAbs_natCast, ofRatio, power, scaled, magnitude, normal, if_false]
    rw [if_neg (by omega), if_neg (by omega)]
  have exponent : 0 < 1086 ∧ 1086 < 2046 := by decide
  obtain ⟨finite, value⟩ := toRat_ofMagnitude exponent significand
  rw [word, value]
  refine ⟨finite, ?_⟩
  have least : (0x10000000000000 : ℚ) ≤ roundQuotient n 0x800 := by exact_mod_cast significand.1
  calc (0x8000000000000000 : ℚ) = 0x10000000000000 * (2 : ℚ) ^ (((1086 : ℕ) : ℤ) - 1075) := by norm_num
    _ ≤ roundQuotient n 0x800 * (2 : ℚ) ^ (((1086 : ℕ) : ℤ) - 1075) := by gcongr

end Binary64

namespace Number

/-- The rational number that a number of a document denotes. -/
def toRat : Number → ℚ
  | integer i _ => i
  | real x _ => x.toRat

/-- A number is read as an integer just if it denotes one that is in range. -/
theorem exactInt64?_iff (n : Number) (z : ℤ) :
    n.exactInt64?.map Int64.toInt = some z ↔ n.toRat = z ∧ InInt64 z := by
  cases n with
  | real x finite => exact Binary64.exactInt64?_iff finite z
  | integer i range =>
    have same : (Number.integer i range).toRat = z ↔ i = z := by
      rw [toRat]
      exact_mod_cast Iff.rfl
    rw [same]
    by_cases small : i < 0x8000000000000000
    · have kept : (Number.integer i range).exactInt64? = some (Int64.ofInt i) := by
        simp [exactInt64?, toInt64?, small]
      rw [kept, Option.map_some, toInt_ofInt ⟨range.1, small⟩, Option.some.injEq]
      constructor
      · rintro rfl
        exact ⟨rfl, range.1, small⟩
      · exact And.left
    · obtain ⟨finite, above⟩ := Binary64.large_ofInt (not_lt.mp small) range.2
      have rounded : (Number.integer i range).exactInt64? = (Binary64.ofInt i).exactInt64? := by
        simp [exactInt64?, toInt64?, toBinary64, small]
      rw [rounded, Binary64.exactInt64?_iff finite]
      constructor
      · rintro ⟨denotes, least, most⟩
        rw [denotes] at above
        exact absurd (by exact_mod_cast above) (not_le.mpr most)
      · rintro ⟨rfl, least, most⟩
        exact absurd most small

end Number

/-! ## Texts of integers -/

/-- Digits, at least one, denote a natural number. -/
def Digits.Denote (digits : List Char) (n : ℕ) : Prop :=
  digits ≠ [] ∧ (∀ c ∈ digits, c.isDigit = true) ∧ Nat.ofDigitChars 10 digits 0 = n

/-- A run of digits is read just if there are digits only, at least one, and as the number that they denote.
-/
theorem Digits.run?_eq_some_iff {digits : List Char} {n : ℕ} : run? digits = some n ↔ Denote digits n := by
  rw [run?, Option.ite_none_right_eq_some, Option.some.injEq, toNat_eq_ofDigitChars, Denote, and_assoc,
    List.all_eq_true]
  simp only [isDigit_eq]

/-- The text of an integer is an optional sign and digits. -/
inductive IntegerText : List Char → ℤ → Prop
  | plain {digits : List Char} {n : ℕ} (denote : Digits.Denote digits n) : IntegerText digits n
  | plus {digits : List Char} {n : ℕ} (denote : Digits.Denote digits n) : IntegerText ('+' :: digits) n
  | minus {digits : List Char} {n : ℕ} (denote : Digits.Denote digits n) : IntegerText ('-' :: digits) (-n)

/-- Digits have no sign in front. -/
theorem Digits.splitSign_of_denote {digits : List Char} {n : ℕ} (denote : Denote digits n) :
    splitSign digits = (false, digits) := by
  obtain ⟨given, all, -⟩ := denote
  obtain ⟨first, rest, rfl⟩ := List.exists_cons_of_ne_nil given
  have digit := all first List.mem_cons_self
  unfold splitSign
  split
  · rename_i same
    cases same
    exact absurd digit (by decide)
  · rename_i same
    cases same
    exact absurd digit (by decide)
  · rfl

/-- A text is an integer just if digits remain once a sign is split off, and it is negative for a minus sign.
-/
theorem integerText_iff {text : List Char} {z : ℤ} :
    IntegerText text z ↔ ∃ n, Digits.Denote (Digits.splitSign text).2 n ∧
      z = if (Digits.splitSign text).1 then -(n : ℤ) else n := by
  constructor
  · intro spelled
    cases spelled with
    | @plain digits n denote => exact ⟨n, by simpa [Digits.splitSign_of_denote denote] using denote⟩
    | @plus digits n denote => exact ⟨n, denote, rfl⟩
    | @minus digits n denote => exact ⟨n, denote, rfl⟩
  · rintro ⟨n, denote, rfl⟩
    unfold Digits.splitSign at denote ⊢
    split at denote
    · exact .minus denote
    · exact .plus denote
    · exact .plain denote

/-- The text of an integer is read just if the integer is in range. -/
theorem Number.integerText?_iff (text : List Char) (z : ℤ) :
    (integerText? text).map Int64.toInt = some z ↔ IntegerText text z ∧ InInt64 z := by
  rw [integerText_iff, integerText?]
  generalize Digits.splitSign text = parts
  obtain ⟨negative, digits⟩ := parts
  constructor
  · intro read
    obtain ⟨i, found, rfl⟩ := Option.map_eq_some_iff.mp read
    obtain ⟨n, run, kept⟩ := Option.bind_eq_some_iff.mp found
    obtain ⟨range, same⟩ := Option.ite_none_right_eq_some.mp kept
    obtain rfl := Option.some.inj same
    rw [toInt_ofInt range]
    exact ⟨⟨n, Digits.run?_eq_some_iff.mp run, rfl⟩, range⟩
  · rintro ⟨⟨n, denote, rfl⟩, range⟩
    refine Option.map_eq_some_iff.mpr ⟨Int64.ofInt _, ?_, toInt_ofInt range⟩
    refine Option.bind_eq_some_iff.mpr ⟨n, Digits.run?_eq_some_iff.mpr denote, ?_⟩
    exact if_pos range

/-- Reading an integer is exact. A number is accepted in either mode just if it denotes an integer in range, and
a text leniently, just if it is that of such an integer between blanks; the result is that integer. -/
theorem Coercion.integer?_exact (z : ℤ) :
    (∀ lenient n, (integer? lenient (.number n)).map Int64.toInt = some z ↔ n.toRat = z ∧ InInt64 z) ∧
      ∀ s, (integer? true (.string s)).map Int64.toInt = some z ↔
        IntegerText (Blank.trimChars s.toList) z ∧ InInt64 z :=
  ⟨fun _ n => n.exactInt64?_iff z, fun s => Number.integerText?_iff (Blank.trimChars s.toList) z⟩

end SettingsForm
