/-!
# 64-bit binary floating-point words

A word is kept as its 64 bits and read through its fields, so every operation below is exact integer
arithmetic. A finite word denotes `± significand * 2 ^ scale`. Rounding goes to the nearest word, a
tie to the word with an even significand; magnitudes beyond the largest finite word become infinity.

Main definitions: `Binary64.ofRatio` rounds a ratio of natural numbers, `Binary64.exactInt64?` is the
signed 64-bit integer that a word denotes, if it denotes one, and `Binary64.equals` is numeric equality,
under which the two zeros agree and a word that is not a number differs from itself.
-/

namespace SettingsForm

/-- A 64-bit floating-point word: one sign bit, eleven exponent bits, fifty-two fraction bits. -/
structure Binary64 where
  word : UInt64
  deriving DecidableEq, Repr

namespace Binary64

/-- The lowest fifty-two bits. -/
def fraction (x : Binary64) : Nat := x.word.toNat % 0x10000000000000

/-- The eleven bits above the fraction. -/
def exponentField (x : Binary64) : Nat := x.word.toNat / 0x10000000000000 % 0x800

/-- The highest bit; it is also set on the negative zero. -/
def isNegative (x : Binary64) : Bool := decide (0x8000000000000000 ≤ x.word.toNat)

/-- Words whose exponent bits are all set are infinities or not numbers; all others are finite. -/
def isFinite (x : Binary64) : Bool := decide (x.exponentField < 2047)

/-- Words whose exponent bits are all set and that have a fraction are not numbers. -/
def isNaN (x : Binary64) : Bool := !x.isFinite && decide (x.fraction ≠ 0)

/-- The integer that is scaled by a power of two. Words with the smallest exponent have no hidden bit. -/
def significand (x : Binary64) : Nat :=
  if x.exponentField = 0 then x.fraction else 0x10000000000000 + x.fraction

/-- The power of two that scales the significand. -/
def scale (x : Binary64) : Int := (max x.exponentField 1 : Nat) - 1075

/-- The word is one of the two zeros. -/
def isZero (x : Binary64) : Bool := x.isFinite && decide (x.significand = 0)

/-- Builds a word from its sign and its lower sixty-three bits. -/
def ofMagnitude (negative : Bool) (magnitude : Nat) : Binary64 :=
  ⟨UInt64.ofNat ((if negative then 0x8000000000000000 else 0) + magnitude)⟩

/-- The zero of a sign. -/
def zero (negative : Bool) : Binary64 := ofMagnitude negative 0

/-- The infinity of a sign. -/
def infinity (negative : Bool) : Binary64 := ofMagnitude negative (2047 * 0x10000000000000)

/-- A quiet word that is not a number. -/
def notANumber : Binary64 := ofMagnitude false (2047 * 0x10000000000000 + 0x8000000000000)

/-- The default word is the positive zero. -/
instance : Inhabited Binary64 := ⟨zero false⟩

/-- Numeric equality: the two zeros agree, and a word that is not a number differs from itself. -/
def equals (x y : Binary64) : Bool :=
  (x.isZero && y.isZero) || (decide (x = y) && !x.isNaN)

/-- Rounds `numerator / denominator` to the nearest integer, a tie to the even one. -/
def roundQuotient (numerator denominator : Nat) : Nat :=
  let whole := numerator / denominator
  let twice := 2 * (numerator % denominator)
  if denominator < twice ∨ (twice = denominator ∧ whole % 2 = 1) then whole + 1 else whole

/-- The pair whose quotient is `numerator / denominator / 2 ^ power`. -/
def scaledRatio (numerator denominator : Nat) (power : Int) : Nat × Nat :=
  if 0 ≤ power then (numerator, denominator * Nat.pow 2 power.toNat)
  else (numerator * Nat.pow 2 (-power).toNat, denominator)

/-- The power of two at which `numerator / denominator` has a significand of at most fifty-three bits. -/
def ratioScale (numerator denominator : Nat) : Int :=
  let estimate := max ((numerator.log2 : Int) - denominator.log2 - 53) (-1074)
  let (n, d) := scaledRatio numerator denominator estimate
  if 0x20000000000000 ≤ n / d then estimate + 1 else estimate

/-- The word nearest to `± numerator / denominator`, for a positive denominator. -/
def ofRatio (negative : Bool) (numerator denominator : Nat) : Binary64 :=
  if numerator = 0 then zero negative
  else
    let power := ratioScale numerator denominator
    let (n, d) := scaledRatio numerator denominator power
    let rounded := roundQuotient n d
    let magnitude :=
      if rounded < 0x10000000000000 then rounded
      else (power + 1075).toNat * 0x10000000000000 + (rounded - 0x10000000000000)
    if 2047 * 0x10000000000000 ≤ magnitude then infinity negative else ofMagnitude negative magnitude

/-- The word nearest to a natural number. -/
def ofNat (n : Nat) : Binary64 := ofRatio false n 1

/-- The word nearest to an integer. -/
def ofInt (i : Int) : Binary64 := ofRatio (decide (i < 0)) i.natAbs 1

/-- The magnitude of a finite word as a ratio of natural numbers. -/
def ratio (x : Binary64) : Nat × Nat :=
  if 0 ≤ x.scale then (x.significand * Nat.pow 2 x.scale.toNat, 1)
  else (x.significand, Nat.pow 2 (-x.scale).toNat)

/-- The rounded product of two finite words. -/
def multiply (x y : Binary64) : Binary64 :=
  ofRatio (x.isNegative != y.isNegative) (x.ratio.1 * y.ratio.1) (x.ratio.2 * y.ratio.2)

/-- The rounded quotient of a finite word by a finite word other than zero. -/
def divide (x y : Binary64) : Binary64 :=
  ofRatio (x.isNegative != y.isNegative) (x.ratio.1 * y.ratio.2) (x.ratio.2 * y.ratio.1)

/-- The word with the other sign. -/
def negate (x : Binary64) : Binary64 := ofMagnitude (!x.isNegative) (x.word.toNat % 0x8000000000000000)

/-- The numerator of the ratio, with the sign of the word. -/
def numerator (x : Binary64) : Int := if x.isNegative then -(x.ratio.1 : Int) else x.ratio.1

/-- Numeric order of finite words. -/
def atMost (x y : Binary64) : Bool := decide (x.numerator * y.ratio.2 ≤ y.numerator * x.ratio.2)

/-- Strict numeric order of finite words. -/
def below (x y : Binary64) : Bool := decide (x.numerator * y.ratio.2 < y.numerator * x.ratio.2)

/-- A finite word has nothing after the point. -/
def isWhole (x : Binary64) : Bool := x.isFinite && decide (x.ratio.1 % x.ratio.2 = 0)

/-- A finite word cut off at the point, and held within the range of signed 64-bit integers. -/
def toInt64 (x : Binary64) : Int64 := Int64.ofIntClamp (x.numerator.tdiv x.ratio.2)

/-- The signed 64-bit integer that a word denotes, absent when it denotes none. The bounds are words too: the
largest integer is none, and is rounded up to the first word out of range. -/
def exactInt64? (x : Binary64) : Option Int64 :=
  if x.isWhole ∧ (ofInt Int64.minValue.toInt).atMost x ∧ x.below (ofInt Int64.maxValue.toInt) then
    some x.toInt64
  else none

end Binary64

end SettingsForm
