import SettingsForm.Number.Layout
import SettingsForm.Value.Basic

/-!
# JSON text of values

Two layouts. The compact one has no spaces; the indented one puts each element on a line of its own, two
spaces deeper than its container, and leaves empty containers on one line. In strings only the quote, the
backslash and control characters are escaped.
-/

namespace SettingsForm

namespace Json

/-- The escape of a character inside a quoted string, or the character itself. -/
def escapeChar (c : Char) : List Char :=
  match c with
  | '"' => ['\\', '"']
  | '\\' => ['\\', '\\']
  | '\n' => ['\\', 'n']
  | '\r' => ['\\', 'r']
  | '\t' => ['\\', 't']
  | c =>
    if c.toNat = 8 then ['\\', 'b']
    else if c.toNat = 12 then ['\\', 'f']
    else if c.toNat < 32 then '\\' :: 'u' :: Digits.pad 4 (Digits.hexOf c.toNat)
    else [c]

/-- A string in quotation marks. -/
def quote (s : String) : String :=
  String.ofList ('"' :: (s.toList.flatMap escapeChar ++ ['"']))

end Json

/-- A number as JSON spells it. -/
def Number.text : Number → String
  | .integer i _ => toString i
  | .real x _ => Layout.moderate.render x

mutual

/-- The value as JSON without any space. -/
def Value.compact : Value → String
  | .null => "null"
  | .bool true => "true"
  | .bool false => "false"
  | .number n => n.text
  | .string s => Json.quote s
  | .list items => "[" ++ String.intercalate "," (compactItems items) ++ "]"
  | .mapping entries => "\x7b" ++ String.intercalate "," (compactEntries entries) ++ "\x7d"

/-- The items of a list as compact JSON. -/
def compactItems : List Value → List String
  | [] => []
  | item :: rest => item.compact :: compactItems rest

/-- The entries of a mapping as compact JSON. -/
def compactEntries : List (String × Value) → List String
  | [] => []
  | (key, value) :: rest => (Json.quote key ++ ":" ++ value.compact) :: compactEntries rest

end

namespace Json

/-- The start of a line at a nesting depth. -/
def lineStart (depth : Nat) : String := "\n" ++ String.ofList (List.replicate (2 * depth) ' ')

/-- A container around rendered elements, each on its own line one level deeper. -/
def block (opening closing : String) (depth : Nat) (elements : List String) : String :=
  match elements with
  | [] => opening ++ closing
  | elements =>
    opening ++ String.intercalate "," (elements.map (lineStart (depth + 1) ++ ·)) ++ lineStart depth ++ closing

end Json

mutual

/-- The value as indented JSON, for a container that stands at the given depth. -/
def Value.indented (depth : Nat) : Value → String
  | .list items => Json.block "[" "]" depth (indentedItems (depth + 1) items)
  | .mapping entries => Json.block "\x7b" "\x7d" depth (indentedEntries (depth + 1) entries)
  | scalar => scalar.compact

/-- The items of a list as indented JSON. -/
def indentedItems (depth : Nat) : List Value → List String
  | [] => []
  | item :: rest => item.indented depth :: indentedItems depth rest

/-- The entries of a mapping as indented JSON. -/
def indentedEntries (depth : Nat) : List (String × Value) → List String
  | [] => []
  | (key, value) :: rest =>
    (Json.quote key ++ ": " ++ value.indented depth) :: indentedEntries depth rest

end

/-- The value as indented JSON. -/
def Value.pretty (v : Value) : String := v.indented 0

namespace Json

/-- Indented JSON that is told the depth at which it stands. -/
abbrev Block := (depth : Nat) → String

/-- A value as a block. -/
def valueBlock (v : Value) : Block := fun depth => v.indented depth

/-- A list of blocks, each on lines of its own. -/
def listBlock (items : List Block) : Block := fun depth =>
  block "[" "]" depth (items.map (· (depth + 1)))

/-- An object whose fields stand in the given order, which need not be that of their names. -/
def objectBlock (fields : List (String × Block)) : Block := fun depth =>
  block "\x7b" "\x7d" depth (fields.map fun (name, content) => quote name ++ ": " ++ content (depth + 1))

end Json

end SettingsForm
