import SettingsForm.Number.Layout
import SettingsForm.Toml.Quotation
import SettingsForm.Value.Basic

/-!
# Writing TOML documents

An entry is written under a header if it is a mapping or a list of nothing but mappings, and on a line of
its own otherwise. The lines of a table come before the headers of the tables in it. A table gets a header
if it has lines, if it is empty, or if it is an element of a list; a blank line separates it from what comes
before. Floating-point numbers are always written positionally.

There is no null in TOML, and integers are signed 64-bit integers; `Toml.render` refuses the rest.
-/

namespace SettingsForm

namespace Toml

/-- Why a value cannot be written. -/
inductive Unwritable where
  | null
  /-- An integer beyond the signed 64-bit integers. -/
  | largeInteger
  deriving DecidableEq, Repr

/-- The words for what cannot be written. -/
def Unwritable.message : Unwritable → String
  | null => "unsupported unit type"
  | largeInteger => "out-of-range value for u64 type"

mutual

/-- The first part of a value that cannot be written. -/
def unwritable? : Value → Option Unwritable
  | .null => some .null
  | .number n => if n.toInt64?.isNone ∧ n.toNat?.isSome then some .largeInteger else none
  | .list items => unwritableItem? items
  | .mapping entries => unwritableField? entries
  | _ => none

/-- The first part of some items that cannot be written. -/
def unwritableItem? : List Value → Option Unwritable
  | [] => none
  | item :: rest => (unwritable? item).or (unwritableItem? rest)

/-- The first part of some entries that cannot be written. -/
def unwritableField? : List (String × Value) → Option Unwritable
  | [] => none
  | (_, value) :: rest => (unwritable? value).or (unwritableField? rest)

end

/-- A number as it stands after an equals sign. -/
def numberText : Number → String
  | .integer i _ => toString i
  | .real x _ => Layout.plain.render x

/-- A list of at most one item stands on one line, a longer one has each item on a line of its own. -/
def listText : List String → String
  | [] => "[]"
  | [item] => "[" ++ item ++ "]"
  | items => "[" ++ String.join (items.map ("\n    " ++ · ++ ",")) ++ "\n]"

/-- A table on one line. -/
def tableText (entries : List String) : String :=
  if entries = [] then "\x7b\x7d" else "\x7b " ++ String.intercalate ", " entries ++ " \x7d"

mutual

/-- A value as it stands after an equals sign. -/
def valueText : Value → String
  | .null => ""
  | .bool b => if b then "true" else "false"
  | .number n => numberText n
  | .string s => writeString s
  | .list items => listText (itemTexts items)
  | .mapping entries => tableText (entryTexts entries)

/-- The items of a list, each as it stands in the list. -/
def itemTexts : List Value → List String
  | [] => []
  | item :: rest => valueText item :: itemTexts rest

/-- The entries of a table, each on one line. -/
def entryTexts : List (String × Value) → List String
  | [] => []
  | (key, value) :: rest => (writeKey key ++ " = " ++ valueText value) :: entryTexts rest

end

/-- The value is a mapping. -/
def isMapping : Value → Bool
  | .mapping _ => true
  | _ => false

/-- The value is written under headers: a mapping, or a list of mappings that is not empty. -/
def hasHeader : Value → Bool
  | .mapping _ => true
  | .list items => !items.isEmpty && items.all isMapping
  | _ => false

/-- The lines of a table. -/
def tableLines (entries : Mapping) : List String :=
  entryTexts (entries.filter fun (_, value) => !hasHeader value)

/-- How a table is announced. -/
inductive HeaderStyle where
  | table
  | element

/-- The header of the table at a path. -/
def headerLine (style : HeaderStyle) (path : List String) : String :=
  let name := String.intercalate "." (path.map writeKey)
  match style with
  | .table => "[" ++ name ++ "]"
  | .element => "[[" ++ name ++ "]]"

/-- The lines of a table below its header, unless the table is announced by those of the tables in it. -/
def ownBlock (style : HeaderStyle) (path : List String) (entries : Mapping) : List (List String) :=
  match style, entries, tableLines entries with
  | .table, _ :: _, [] => []
  | _, _, lines => [headerLine style path :: lines]

mutual

/-- The blocks of the tables that are entries of the table at a path. -/
def entryBlocks (path : List String) : List (String × Value) → List (List String)
  | [] => []
  | (key, value) :: rest => blocks (path ++ [key]) value ++ entryBlocks path rest

/-- The blocks of one entry: of the table that it is, or of each table in the list that it is. -/
def blocks (path : List String) : Value → List (List String)
  | .mapping entries => ownBlock .table path entries ++ entryBlocks path entries
  | .list items => if hasHeader (.list items) then elementBlocks path items else []
  | _ => []

/-- The blocks of the tables that are elements of a list at a path. -/
def elementBlocks (path : List String) : List Value → List (List String)
  | [] => []
  | .mapping entries :: rest =>
    ownBlock .element path entries ++ entryBlocks path entries ++ elementBlocks path rest
  | _ :: rest => elementBlocks path rest

end

/-- The blocks of a document: the lines before the first header, if there are any, and the tables. -/
def documentBlocks (document : Mapping) : List (List String) :=
  let lines := tableLines document
  (if lines = [] then [] else [lines]) ++ entryBlocks [] document

/-- Writes a document. -/
def render (document : Mapping) : Except Unwritable String :=
  match unwritableField? document with
  | some defect => .error defect
  | none =>
    .ok (String.intercalate "\n" ((documentBlocks document).map fun lines =>
      String.join (lines.map (· ++ "\n"))))

end Toml

end SettingsForm
