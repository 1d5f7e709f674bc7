/-!
# Characters and lines of TOML text

Which characters stand for what between the tokens of a TOML document, and how blanks, comments and line
breaks are passed over. A line may end in a line feed or in a carriage return and a line feed;
`unifyBreaks` turns every document into one with line feeds only, so that a carriage return which is left
belongs to no line break and is allowed nowhere.
-/

namespace SettingsForm.Toml

/-- Space and tab, which may stand around any token. -/
def isBlank (c : Char) : Bool := c = ' ' || c = '\t'

/-- The characters that comments and strings hold as they are: the tab and all that are no control
characters. -/
def isPlain (c : Char) : Bool := c = '\t' || (decide (32 ≤ c.toNat) && decide (c.toNat ≠ 127))

/-- An ASCII letter. -/
def isLetter (c : Char) : Bool := decide ('a' ≤ c ∧ c ≤ 'z') || decide ('A' ≤ c ∧ c ≤ 'Z')

/-- The characters of a key that is written without quotation marks. -/
def isBareKey (c : Char) : Bool :=
  isLetter c || decide ('0' ≤ c ∧ c ≤ '9') || c = '_' || c = '-'

/-- Writes every line break as one line feed. -/
def unifyBreaks : List Char → List Char
  | '\r' :: '\n' :: rest => '\n' :: unifyBreaks rest
  | c :: rest => c :: unifyBreaks rest
  | [] => []

/-- The text after the blanks in front of it. -/
def skipBlanks (text : List Char) : List Char := text.dropWhile isBlank

/-- Passes over blanks, line breaks and comments. The flag tells that a comment has begun. -/
def skipLines? (inComment : Bool) : List Char → Option (List Char)
  | [] => some []
  | c :: rest =>
    if c = '\n' then skipLines? false rest
    else if inComment then (if isPlain c then skipLines? true rest else none)
    else if isBlank c then skipLines? false rest
    else if c = '#' then skipLines? true rest
    else some (c :: rest)

/-- Passes over the rest of a line, which may hold blanks and a comment. -/
def endLine? (text : List Char) : Option (List Char) :=
  let rest := match skipBlanks text with
    | '#' :: comment => comment.dropWhile isPlain
    | rest => rest
  match rest with
  | [] => some []
  | '\n' :: rest => some rest
  | _ => none

end SettingsForm.Toml
