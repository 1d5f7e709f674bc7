import SettingsForm.Toml.Node
import SettingsForm.Toml.Scalar
import SettingsForm.Toml.StringLiteral

/-!
# Reading TOML documents

A document is a list of entries, followed by blocks of a header and more entries. Arrays and inline tables
may be nested only to a given depth, and dotted keys may have only so many parts; the readers of values and
of keys recurse on these limits. The readers of lists recurse on a bound for the number of their elements,
for which they are given the length of the text.

`Toml.read?` is the public reader.
-/

namespace SettingsForm.Toml

/-- The depth to which arrays and inline tables may be nested. -/
def maxNesting : Nat := 79

/-- The number of parts that a dotted key may have. -/
def maxKeyParts : Nat := 79

/-- One part of a key. -/
def keyPart? (text : List Char) : Option (String × List Char) :=
  match text with
  | '"' :: _ | '\'' :: _ => StringLiteral.readLine? text
  | text =>
    let bare := text.takeWhile isBareKey
    if bare = [] then none else some (String.ofList bare, text.drop bare.length)

/-- A key of at most so many parts, with the blanks around it. -/
def keyPath? : (parts : Nat) → List Char → Option (KeyPath × List Char)
  | 0, _ => none
  | parts + 1, text => do
    let (part, rest) ← keyPart? (skipBlanks text)
    match skipBlanks rest with
    | '.' :: rest =>
      let (path, rest) ← keyPath? parts rest
      some (⟨part :: path.leading, path.last⟩, rest)
    | rest => some (⟨[], part⟩, rest)

/-- A reader of values, which returns what follows the value. -/
abbrev ValueReader := List Char → Option (Node × List Char)

/-- A key, an equals sign and a value. -/
def keyValue? (value : ValueReader) (text : List Char) : Option (Entry × List Char) := do
  let (path, rest) ← keyPath? maxKeyParts text
  let (node, rest) ← value (skipBlanks (← Scan.char? '=' rest))
  some (⟨path, node⟩, rest)

/-- The items of an array after its opening bracket. Items may stand on lines of their own, and a comma may
follow the last one. -/
def items? (value : ValueReader) : (most : Nat) → List Char → Option (List Node × List Char)
  | 0, _ => none
  | most + 1, text => do
    match ← skipLines? false text with
    | ']' :: rest => some ([], rest)
    | text =>
      let (item, rest) ← value text
      match ← skipLines? false rest with
      | ',' :: rest =>
        let (more, rest) ← items? value most rest
        some (item :: more, rest)
      | ']' :: rest => some ([item], rest)
      | _ => none

/-- The entries of an inline table, of which some have been read. No comma may follow the last one. -/
def inlineEntries? (value : ValueReader) :
    (most : Nat) → Entries → List Char → Option (Entries × List Char)
  | 0, _, _ => none
  | most + 1, entries, text => do
    let (entry, rest) ← keyValue? value text
    let entries ← Entries.define? entry .headed entries
    match skipBlanks rest with
    | ',' :: rest => inlineEntries? value most entries rest
    | '\x7d' :: rest => some (entries, rest)
    | _ => none

/-- An inline table after its opening brace. -/
def inlineTable? (value : ValueReader) (text : List Char) : Option (Node × List Char) :=
  match skipBlanks text with
  | '\x7d' :: rest => some (.table .inline [], rest)
  | text => do
    let (entries, rest) ← inlineEntries? value text.length [] text
    some (.table .inline entries, rest)

/-- A string or a scalar without quotation marks. -/
def simpleValue? (text : List Char) : Option (Node × List Char) :=
  match text with
  | '"' :: _ | '\'' :: _ => (StringLiteral.read? text).map fun (s, rest) => (.leaf (.string s), rest)
  | text => (Scalar.read? text).map fun (value, rest) => (.leaf value, rest)

/-- A value in which arrays and inline tables are nested at most to a depth. -/
def value? : (depth : Nat) → List Char → Option (Node × List Char)
  | 0, text => simpleValue? text
  | depth + 1, text =>
    match text with
    | '[' :: rest => (items? (value? depth) rest.length rest).map fun (items, rest) => (.array items, rest)
    | '\x7b' :: rest => inlineTable? (value? depth) rest
    | text => simpleValue? text

/-- The entries up to the next header, which is left, or up to the end. -/
def entries? : (most : Nat) → List Char → Option (List Entry × List Char)
  | 0, _ => none
  | most + 1, text => do
    match ← skipLines? false text with
    | [] => some ([], [])
    | '[' :: rest => some ([], '[' :: rest)
    | text =>
      let (entry, rest) ← keyValue? (value? maxNesting) text
      let (more, rest) ← entries? most (← endLine? rest)
      some (entry :: more, rest)

/-- A header and the end of its line. -/
def header? (text : List Char) : Option (Header × List Char) :=
  match text with
  | '[' :: '[' :: text => do
    let (path, rest) ← keyPath? maxKeyParts text
    some (.element path, ← endLine? (← Scan.word? [']', ']'] rest))
  | '[' :: text => do
    let (path, rest) ← keyPath? maxKeyParts text
    some (.table path, ← endLine? (← Scan.char? ']' rest))
  | _ => none

/-- The blocks of a document from the first header on. -/
def blocks? : (most : Nat) → List Char → Option (List Block)
  | _, [] => some []
  | 0, _ => none
  | most + 1, text => do
    let (header, rest) ← header? text
    let (entries, rest) ← entries? (rest.length + 1) rest
    some (⟨header, entries⟩ :: (← blocks? most rest))

/-- A byte order mark at the start belongs to no line. -/
def dropByteOrderMark : List Char → List Char
  | '\uFEFF' :: text => text
  | text => text

/-- Reads a TOML document; the value is that of its outermost table. -/
def read? (text : String) : Option Value := do
  let text := unifyBreaks (dropByteOrderMark text.toList)
  let (entries, rest) ← entries? (text.length + 1) text
  let blocks ← blocks? rest.length rest
  let start ← Entries.fill? entries []
  let document ← blocks.foldlM (fun document block => Entries.addBlock? block document) start
  (Node.table .headed document).toValue?

end SettingsForm.Toml
