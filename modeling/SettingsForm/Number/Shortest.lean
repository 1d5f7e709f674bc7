import SettingsForm.Number.Binary64

/-!
# Shortest decimal digits of a floating-point word

The reals that round to a finite word form an interval around it, with its ends included exactly when
the significand is even. The shortest decimal is found on the coarsest power-of-ten grid that has a
point in that interval: only the two neighbours of the word on each grid need to be tried. Of two
neighbours inside, the nearer one is taken, and a `TieRule` decides between two equally near ones.
-/

namespace SettingsForm

/-- The number `coefficient * 10 ^ exponent`. -/
structure Decimal where
  coefficient : Nat
  exponent : Int
  deriving DecidableEq, Repr

/-- Which of two equally near points of a grid is taken. -/
inductive TieRule where
  | even
  | above
  deriving DecidableEq, Repr

/-- The point taken out of one and the next. -/
def TieRule.choose : TieRule → Nat → Nat
  | even, below => if below % 2 = 0 then below else below + 1
  | above, below => below + 1

namespace Decimal

/-- Four times the significand with both ends of its rounding interval, in quarters of a unit.
Below a power of two the neighbouring word is only half as far away. -/
structure Interval where
  lower : Nat
  middle : Nat
  upper : Nat
  closed : Bool
  deriving Repr

/-- The rounding interval of a word. Its ends belong to it if the significand is even. -/
def intervalOf (x : Binary64) : Interval :=
  let m := x.significand
  { lower := if m = 0x10000000000000 ∧ 1 < x.exponentField then 4 * m - 1 else 4 * m - 2
    middle := 4 * m
    upper := 4 * m + 2
    closed := m % 2 = 0 }

/-- The point of the grid `10 ^ power` in the interval scaled by `2 ^ scale`, if there is one. -/
def pointOnGrid? (tie : TieRule) (i : Interval) (scale power : Int) : Option Nat :=
  let step := Nat.pow 2 (-scale).toNat * Nat.pow 10 power.toNat
  let unit := Nat.pow 2 scale.toNat * Nat.pow 10 (-power).toNat
  let inside (point : Nat) : Bool :=
    if i.closed then i.lower * unit ≤ point * step ∧ point * step ≤ i.upper * unit
    else i.lower * unit < point * step ∧ point * step < i.upper * unit
  let below := i.middle * unit / step
  let above := below + 1
  let toBelow := i.middle * unit - below * step
  let toAbove := above * step - i.middle * unit
  match inside below, inside above with
  | false, false => none
  | true, false => some below
  | false, true => some above
  | true, true =>
    if toBelow < toAbove then some below
    else if toAbove < toBelow then some above
    else some (tie.choose below)

/-- A power of ten that is at least as large as the word's leading digit. -/
def gridEstimate (x : Binary64) : Int :=
  ((x.significand.log2 : Int) + x.scale) * 30103 / 100000 + 1

/-- The shortest decimal that rounds to a finite word other than zero. Twenty grids from the estimate
downwards always suffice, because seventeen digits tell any two words apart. -/
def shortest (tie : TieRule) (x : Binary64) : Decimal :=
  let i := intervalOf x
  let top := gridEstimate x
  let candidate := (List.range 20).findSome? fun (k : Nat) =>
    (pointOnGrid? tie i (x.scale - 2) (top - k)).map fun point => (⟨point, top - k⟩ : Decimal)
  candidate.getD ⟨0, 0⟩

end Decimal

end SettingsForm
