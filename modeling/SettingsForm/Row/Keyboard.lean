import SettingsForm.Value.Basic

/-!
# Keyboards

The keyboard that a presentation should offer for text entry. Documents name it, give its place in the
list of keyboards, or leave it null for the general one.
-/

namespace SettingsForm

/-- The kinds of keyboard that a row can ask for. -/
inductive Keyboard where
  | general
  | ascii
  | numbersAndPunctuation
  | url
  | numberPad
  | phonePad
  | namePhonePad
  | email
  | decimalPad
  | twitter
  | webSearch
  deriving DecidableEq, Repr, Inhabited

namespace Keyboard

/-- All keyboards in the order of their numeric codes. -/
def all : List Keyboard :=
  [general, ascii, numbersAndPunctuation, url, numberPad, phonePad, namePhonePad, email, decimalPad,
    twitter, webSearch]

/-- The name of a keyboard in a document. -/
def name : Keyboard → String
  | general => "default"
  | ascii => "ascii"
  | numbersAndPunctuation => "numbersAndPunctuation"
  | url => "url"
  | numberPad => "numberPad"
  | phonePad => "phonePad"
  | namePhonePad => "namePhonePad"
  | email => "email"
  | decimalPad => "decimalPad"
  | twitter => "twitter"
  | webSearch => "webSearch"

/-- Reads a keyboard from its name, its numeric code or null. -/
def ofValue? : Value → Option Keyboard
  | .string s => all.find? (·.name = s)
  | .number n => n.toNat?.bind (all[·]?)
  | .null => some general
  | _ => none

end Keyboard

end SettingsForm
