import SettingsForm.Text.Digits
import SettingsForm.Text.Printable

/-!
# Quoted text

A text between double quotation marks in which every character shows. Marks, backslashes and the common
controls are written with a backslash, other characters that do not show by their code point in hexadecimal
digits.
-/

namespace SettingsForm.Quoted

/-- Writes a character inside quotes. Quotes, backslashes and characters that are not shown are escaped. -/
def escapeChar (c : Char) : List Char :=
  match c with
  | '"' => ['\\', '"']
  | '\\' => ['\\', '\\']
  | '\n' => ['\\', 'n']
  | '\r' => ['\\', 'r']
  | '\t' => ['\\', 't']
  | '\x00' => ['\\', '0']
  | c =>
    if Printable.isHidden c then '\\' :: 'u' :: '\x7b' :: (Digits.hexOf c.toNat ++ ['\x7d'])
    else [c]

/-- A text in quotes, as messages show it. -/
def quote (text : String) : String :=
  String.ofList ('"' :: (text.toList.flatMap escapeChar ++ ['"']))

end SettingsForm.Quoted
