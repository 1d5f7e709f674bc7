import SettingsForm.Text.Digits

/-!
# Taking texts apart from the left

Small readers that take something off the start of a text and return what follows it.
-/

namespace SettingsForm.Scan

/-- Takes one given character. -/
def char? (c : Char) : List Char → Option (List Char)
  | [] => none
  | d :: rest => if d = c then some rest else none

/-- Takes a given run of characters. -/
def word? : (word text : List Char) → Option (List Char)
  | [], text => some text
  | c :: word, text => (char? c text).bind (word? word)

/-- Takes one digit up to a given number of digits. -/
def upToDigits? (most : Nat) (text : List Char) : Option (Nat × List Char) :=
  let run := (text.take most).takeWhile Digits.isDigit
  if run = [] then none else some (Digits.toNat run, text.drop run.length)

/-- Takes exactly a given number of digits. -/
def fixedDigits? (width : Nat) (text : List Char) : Option (Nat × List Char) :=
  let run := text.take width
  if run.length = width ∧ run.all Digits.isDigit then some (Digits.toNat run, text.drop width) else none

end SettingsForm.Scan
