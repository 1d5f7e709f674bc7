import SettingsForm.Number.Shortest
import SettingsForm.Text.Digits

/-!
# Text of floating-point numbers

The digits of a number are always the shortest ones. What differs between formats is which magnitudes
are written positionally, and which of two equally near decimals is taken; a `Layout` records these choices.
A number that is written positionally has at least one digit after the point. In scientific notation the
point follows the first digit when there are more, the exponent has always a sign and is never padded.
-/

namespace SettingsForm

/-- The choices of a format. -/
structure Layout where
  /-- Tells for the exponent of the leading digit whether the number is written positionally. -/
  positional : Int → Bool
  /-- Decides between two shortest decimals that are equally near. -/
  tie : TieRule

namespace Layout

/-- Positional from `0.00001` up to, and without, ten to the sixteenth. Ties go to the even digit. -/
def moderate : Layout := ⟨fun exponent => decide (-5 ≤ exponent ∧ exponent < 16), .even⟩

/-- Always positional. Ties go away from zero. -/
def plain : Layout := ⟨fun _ => true, .above⟩

/-- Digits with the point placed after the `point`th one; a place without a digit holds zero. -/
def positionalText (digits : List Char) (point : Int) : List Char :=
  if point ≤ 0 then '0' :: '.' :: (List.replicate (-point).toNat '0' ++ digits)
  else
    let whole := digits.take point.toNat
    let rest := digits.drop point.toNat
    whole ++ List.replicate (point.toNat - whole.length) '0' ++ '.' :: (if rest = [] then ['0'] else rest)

/-- Digits with the point after the first one, and an exponent. -/
def scientificText (digits : List Char) (exponent : Int) : List Char :=
  let mantissa := match digits with
    | first :: second :: rest => first :: '.' :: second :: rest
    | short => short
  mantissa ++ 'e' :: (if exponent < 0 then '-' else '+') :: Digits.ofNat exponent.natAbs

/-- The text of a finite word. Both zeros keep their sign. -/
def render (layout : Layout) (x : Binary64) : String :=
  let sign := if x.isNegative then ['-'] else []
  if x.isZero then String.ofList (sign ++ ['0', '.', '0'])
  else
    let decimal := Decimal.shortest layout.tie x
    let digits := Digits.ofNat decimal.coefficient
    let exponent := decimal.exponent + digits.length - 1
    String.ofList <| sign ++
      if layout.positional exponent then positionalText digits (exponent + 1)
      else scientificText digits exponent

end Layout

end SettingsForm
