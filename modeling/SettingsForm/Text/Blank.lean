/-!
# Blank characters

The characters that are cut off at the ends of a text before it is read: exactly those with the
Unicode property `White_Space`.
-/

namespace SettingsForm.Blank

/-- Ranges of code points with the property `White_Space`, both ends included. -/
def ranges : List (Nat × Nat) :=
  [(0x09, 0x0D), (0x20, 0x20), (0x85, 0x85), (0xA0, 0xA0), (0x1680, 0x1680), (0x2000, 0x200A),
    (0x2028, 0x2029), (0x202F, 0x202F), (0x205F, 0x205F), (0x3000, 0x3000)]

/-- A character with the property `White_Space`. -/
def isBlank (c : Char) : Bool :=
  ranges.any fun (first, last) => decide (first ≤ c.toNat ∧ c.toNat ≤ last)

/-- Drops the blank characters at the start. -/
def trimStart (text : List Char) : List Char := text.dropWhile isBlank

/-- Drops the blank characters at both ends. -/
def trimChars (text : List Char) : List Char :=
  (trimStart (trimStart text).reverse).reverse

end SettingsForm.Blank
