import SettingsForm.Text.Digits
import SettingsForm.Toml.Character

/-!
# Writing strings and keys of TOML

A text is written in the plainest style that can hold it. The styles with escape sequences can hold every
text, but are passed over as long as another style does without them.
-/

namespace SettingsForm.Toml

/-- How a string is put between quotation marks. -/
inductive StringStyle where
  | basic
  | literal
  | multilineBasic
  | multilineLiteral
  deriving DecidableEq, Repr

/-- Control characters other than the tab. -/
def isControl (c : Char) : Bool := !isPlain c

/-- The length of the longest run of a character. -/
def longestRun (mark : Char) (text : List Char) : Nat :=
  (text.foldl
    (fun (current, best) c =>
      let current := if c = mark then current + 1 else 0
      (current, max current best))
    (0, 0)).2

namespace StringStyle

/-- The first style that fits, from the plainest on. -/
def ofText (text : List Char) : StringStyle :=
  let hasBreak := text.contains '\n'
  let hasControl := text.any fun c => isControl c && c ≠ '\n'
  let hasBackslash := text.contains '\\'
  let double := longestRun '"' text
  let single := longestRun '\'' text
  if !hasControl ∧ !hasBackslash ∧ double = 0 ∧ !hasBreak then basic
  else if !hasControl ∧ single = 0 ∧ !hasBreak then literal
  else if !hasControl ∧ !hasBackslash ∧ double ≤ 2 then multilineBasic
  else if !hasControl ∧ single ≤ 2 then multilineLiteral
  else if hasBreak then multilineBasic
  else basic

/-- The style of a key that is not written bare; keys stand on one line. -/
def ofKey (key : List Char) : StringStyle :=
  let hasControl := key.any isControl
  if !hasControl ∧ !key.contains '\\' ∧ !key.contains '"' then basic
  else if !hasControl ∧ !key.contains '\'' then literal
  else basic

end StringStyle

/-- The escape of a character other than the quotation mark and the line break, or the character itself. -/
def escapeChar (c : Char) : List Char :=
  if c = '\\' then ['\\', '\\']
  else if c = '\t' then ['\\', 't']
  else if c = '\r' then ['\\', 'r']
  else if c.toNat = 8 then ['\\', 'b']
  else if c.toNat = 12 then ['\\', 'f']
  else if isControl c then '\\' :: 'u' :: Digits.pad 4 ((Digits.hexOf c.toNat).map Char.toUpper)
  else [c]

/-- A text in a style with escape sequences. On one line every quotation mark and every line break is
escaped, over several lines a quotation mark only if two unescaped ones stand right before it. -/
def escape (isMultiline : Bool) (marksBefore : Nat) : List Char → List Char
  | [] => []
  | c :: rest =>
    if c = '"' then
      if (if isMultiline then 2 else 0) ≤ marksBefore then '\\' :: '"' :: escape isMultiline 0 rest
      else '"' :: escape isMultiline (marksBefore + 1) rest
    else if c = '\n' then
      (if isMultiline then ['\n'] else ['\\', 'n']) ++ escape isMultiline 0 rest
    else escapeChar c ++ escape isMultiline 0 rest

/-- A text over several lines starts on a line of its own. -/
def openingBreak (text : List Char) : List Char := if text.contains '\n' then ['\n'] else []

/-- A text in a style of quotation. -/
def StringStyle.write (style : StringStyle) (text : List Char) : List Char :=
  let between (marks body : List Char) : List Char := marks ++ body ++ marks
  match style with
  | basic => between ['"'] (escape false 0 text)
  | literal => between ['\''] text
  | multilineBasic => between ['"', '"', '"'] (openingBreak text ++ escape true 0 text)
  | multilineLiteral => between ['\'', '\'', '\''] (openingBreak text ++ text)

/-- A string, quoted in the style that suits it. -/
def writeString (s : String) : String := String.ofList ((StringStyle.ofText s.toList).write s.toList)

/-- A key is written bare if its characters allow it. -/
def writeKey (key : String) : String :=
  if key ≠ "" ∧ key.toList.all isBareKey then key
  else String.ofList ((StringStyle.ofKey key.toList).write key.toList)

end SettingsForm.Toml
