import SettingsForm.Toml.DateTime

/-!
# Tables of a TOML document

The lines of a document build a tree of tables. What a later line may add to a table depends on how the
table came about, so each table records its `Origin`:

* a dotted key goes through tables that no header names, creates the missing ones, and may add entries only
  to tables that dotted keys created;
* a header goes through every table that is not written inline, and creates the missing ones;
* a header in single brackets opens a table that is new or that only headers have passed through;
* a header in double brackets adds an element to an array that such headers made.

Within an array of tables the way leads through its newest element. `Node.toValue?` forgets the origins.
-/

namespace SettingsForm.Toml

/-- How a table came about. -/
inductive Origin where
  /-- Written between braces; nothing can be added to it. -/
  | inline
  /-- Named by a header of its own, or the document itself. -/
  | headed
  /-- Passed through by a longer header. -/
  | implied
  /-- Passed through by a dotted key. -/
  | dotted
  deriving DecidableEq, Repr

/-- A part of a document. Entries stand in the order in which their keys came up. -/
inductive Node where
  | leaf (value : Value)
  | array (items : List Node)
  | table (origin : Origin) (entries : List (String × Node))
  /-- The array that headers in double brackets build, newest element first. -/
  | tables (elements : List Node)

/-- The entries of a table under their keys. -/
abbrev Entries := List (String × Node)

/-- The keys that lead to an entry: those of the tables on the way, and its own. -/
structure KeyPath where
  leading : List String
  last : String

/-- A key, possibly dotted, with what is written for it. -/
structure Entry where
  path : KeyPath
  node : Node

/-- A header, in single brackets for a table or in double brackets for a new element of an array. -/
inductive Header where
  | table (path : KeyPath)
  | element (path : KeyPath)

/-- A header with the entries below it. -/
structure Block where
  header : Header
  entries : List Entry

namespace Entries

/-- Puts another node in the place of the one under a key. -/
def replace (key : String) (node : Node) (entries : Entries) : Entries :=
  entries.map fun (k, n) => if k = key then (k, node) else (k, n)

/-- The entries without those under a key. -/
def remove (key : String) (entries : Entries) : Entries := entries.filter fun (k, _) => k ≠ key

/-- Changes the table at the end of a way through tables, and creates the missing tables on the way. The
flag tells that the way belongs to a dotted key. The change is told the origin of the table. -/
def alter? (isDotted : Bool) (change : Origin → Entries → Option Entries) :
    (way : List String) → Origin → Entries → Option Entries
  | [], origin, entries => change origin entries
  | key :: way, _, entries =>
    match entries.lookup key with
    | none => do
      let origin := if isDotted then Origin.dotted else .implied
      let inner ← alter? isDotted change way origin []
      some (entries ++ [(key, .table origin inner)])
    | some (.table origin inner) => do
      if origin = .inline ∨ (isDotted ∧ origin = .headed) then none
      let inner ← alter? isDotted change way origin inner
      some (replace key (.table origin inner) entries)
    | some (.tables (.table origin inner :: older)) => do
      let inner ← alter? isDotted change way origin inner
      some (replace key (.tables (.table origin inner :: older)) entries)
    | some _ => none

/-- Adds an entry. A dotted key may add only to a table that dotted keys created, and no key comes twice. -/
def define? (entry : Entry) (origin : Origin) (entries : Entries) : Option Entries :=
  let ⟨leading, last⟩ := entry.path
  let add (reached : Origin) (entries : Entries) : Option Entries :=
    if (leading = [] ∨ reached = .dotted) ∧ (entries.lookup last).isNone then
      some (entries ++ [(last, entry.node)])
    else none
  alter? true add leading origin entries

/-- Adds entries to the table of a header. -/
def fill? (added : List Entry) (entries : Entries) : Option Entries :=
  added.foldlM (fun entries entry => define? entry .headed entries) entries

/-- Adds what a header and the entries below it say to a document. -/
def addBlock? (block : Block) (document : Entries) : Option Entries :=
  match block.header with
  | .table ⟨leading, last⟩ =>
    let openTable (_ : Origin) (entries : Entries) : Option Entries :=
      match entries.lookup last with
      | none => (fill? block.entries []).map fun table => entries ++ [(last, .table .headed table)]
      | some (.table .implied table) =>
        (fill? block.entries table).map fun table => remove last entries ++ [(last, .table .headed table)]
      | some _ => none
    alter? false openTable leading .headed document
  | .element ⟨leading, last⟩ =>
    let addElement (_ : Origin) (entries : Entries) : Option Entries :=
      match entries.lookup last with
      | none =>
        (fill? block.entries []).map fun table => entries ++ [(last, .tables [.table .headed table])]
      | some (.tables elements) =>
        (fill? block.entries []).map fun table =>
          replace last (.tables (.table .headed table :: elements)) entries
      | some _ => none
    alter? false addElement leading .headed document

end Entries

mutual

/-- The value of a part of a document. A table whose first key is that of date-times holds one, and nothing
else that is in it counts. -/
def Node.toValue? : Node → Option Value
  | .leaf value => some value
  | .array items => (valuesOf? items).map .list
  | .tables elements => (valuesOf? elements).map fun values => .list values.reverse
  | .table _ entries => tableValue? entries

/-- The values of the items of a list. -/
def valuesOf? : List Node → Option (List Value)
  | [] => some []
  | node :: rest => do
    let value ← node.toValue?
    some (value :: (← valuesOf? rest))

/-- The value of a table, which is a date-time if its first key is that of date-times. -/
def tableValue? : Entries → Option Value
  | (key, .leaf (.string text)) :: rest =>
    if key = DateTime.entryKey then (DateTime.read? text.toList).map DateTime.toValue
    else (entryValues? rest).map fun values => .mapping (Mapping.ofEntries ((key, .string text) :: values))
  | entries =>
    if (entries.head?.map Prod.fst) = some DateTime.entryKey then none
    else (entryValues? entries).map fun values => .mapping (Mapping.ofEntries values)

/-- The values of the entries of a table. -/
def entryValues? : Entries → Option (List (String × Value))
  | [] => some []
  | (key, node) :: rest => do
    let value ← node.toValue?
    some ((key, value) :: (← entryValues? rest))

end

end SettingsForm.Toml
