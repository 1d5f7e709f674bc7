import SettingsForm.Text.Digits
import SettingsForm.Toml.Character

/-!
# Reading string literals of TOML

There are four kinds of literals: written on one line or over several, and with escape sequences or
without. They differ in three facts only, which make up a `Quotation`; one reader serves them all.

A literal over several lines ends at three of its marks. Up to two more marks directly before those belong
to its text, so the reader counts the marks of a run and decides at its end.
-/

namespace SettingsForm.Toml

/-- A kind of string literal. -/
structure Quotation where
  /-- The character that opens and closes the literal. -/
  mark : Char
  /-- A backslash starts an escape sequence. -/
  hasEscapes : Bool
  /-- The text may hold line breaks, and three marks open and close it. -/
  isMultiline : Bool

/-- What the reader has met just before the next character. -/
inductive QuotationMode where
  | text
  /-- A run of so many marks. -/
  | marks (count : Nat)
  | escape
  /-- A code point of which so many digits are still to come. -/
  | code (left : Nat) (total : Nat)
  /-- A backslash that hides the blanks and line breaks after it; at least one line break has to follow. -/
  | hidden (broken : Bool)

namespace Quotation

/-- The least run of marks that closes the literal. -/
def closing (q : Quotation) : Nat := if q.isMultiline then 3 else 1

/-- The longest run of marks that closes the literal. -/
def longest (q : Quotation) : Nat := if q.isMultiline then 5 else 1

/-- Takes a character that no escape sequence claims. The text is kept newest character first. -/
def take? (q : Quotation) (text : List Char) (c : Char) : Option (QuotationMode × List Char) :=
  if c = q.mark then some (.marks 1, text)
  else if c = '\\' ∧ q.hasEscapes then some (.escape, text)
  else if isPlain c ∨ (c = '\n' ∧ q.isMultiline) then some (.text, c :: text)
  else none

/-- The character of a one-letter escape. -/
def simpleEscape? (c : Char) : Option Char :=
  match c with
  | '"' | '\\' => some c
  | 'b' => some (Char.ofNat 8)
  | 't' => some '\t'
  | 'n' => some '\n'
  | 'f' => some (Char.ofNat 12)
  | 'r' => some '\r'
  | _ => none

/-- Takes the character after a backslash. -/
def takeEscape? (q : Quotation) (text : List Char) (c : Char) : Option (QuotationMode × List Char) :=
  if c = 'u' then some (.code 4 0, text)
  else if c = 'U' then some (.code 8 0, text)
  else if q.isMultiline ∧ (isBlank c ∨ c = '\n') then some (.hidden (decide (c = '\n')), text)
  else (simpleEscape? c).map fun plain => (.text, plain :: text)

/-- Takes a digit of a code point; the last one completes the character. -/
def takeCode? (text : List Char) (left total : Nat) (c : Char) : Option (QuotationMode × List Char) := do
  let total := total * 16 + (← Digits.hexValue? c)
  if 1 < left then some (.code (left - 1) total, text)
  else if total.isValidChar then some (.text, Char.ofNat total :: text)
  else none

/-- Takes the next character of the literal. -/
def step? (q : Quotation) (mode : QuotationMode) (text : List Char) (c : Char) :
    Option (QuotationMode × List Char) :=
  match mode with
  | .text => q.take? text c
  | .marks count =>
    if c = q.mark then some (.marks (count + 1), text)
    else q.take? (List.replicate count q.mark ++ text) c
  | .escape => q.takeEscape? text c
  | .code left total => takeCode? text left total c
  | .hidden broken =>
    if isBlank c then some (.hidden broken, text)
    else if c = '\n' then some (.hidden true, text)
    else if broken then q.take? text c
    else none

/-- The literal's text, if it ends before the next character. Marks beyond the closing ones belong to it. -/
def closed? (q : Quotation) (mode : QuotationMode) (text : List Char) (next : Option Char) :
    Option String :=
  match mode with
  | .marks count =>
    if q.closing ≤ count ∧ ¬ (next = some q.mark ∧ count < q.longest) then
      some (String.ofList (List.replicate (count - q.closing) q.mark ++ text).reverse)
    else none
  | _ => none

/-- Reads a literal whose opening marks have been passed, and returns what follows it. -/
def read? (q : Quotation) (mode : QuotationMode) (text : List Char) :
    List Char → Option (String × List Char)
  | [] => (q.closed? mode text none).map (·, [])
  | c :: rest =>
    match q.closed? mode text (some c) with
    | some literal => some (literal, c :: rest)
    | none => do
      let (mode, text) ← q.step? mode text c
      read? q mode text rest

/-- The quotation on one line that a mark opens. -/
def ofMark? (mark : Char) : Option Quotation :=
  if mark = '"' then some ⟨mark, true, false⟩
  else if mark = '\'' then some ⟨mark, false, false⟩
  else none

end Quotation

namespace StringLiteral

/-- Reads a literal on one line. -/
def readLine? : List Char → Option (String × List Char)
  | [] => none
  | mark :: rest => do (← Quotation.ofMark? mark).read? .text [] rest

/-- A line break right after the opening marks is no part of the text. -/
def dropBreak : List Char → List Char
  | '\n' :: rest => rest
  | text => text

/-- Reads a literal of any kind. Three marks open one over several lines. -/
def read? (text : List Char) : Option (String × List Char) := do
  let q ← text.head?.bind Quotation.ofMark?
  if text.take 3 = List.replicate 3 q.mark then
    Quotation.read? { q with isMultiline := true } .text [] (dropBreak (text.drop 3))
  else q.read? .text [] (text.drop 1)

end StringLiteral

end SettingsForm.Toml
