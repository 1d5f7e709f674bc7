import SettingsForm.Contract.Error
import SettingsForm.Wire.Path

/-!
# Malformed forms

Why a document was not read as a form, or why a form was not accepted, with the sentence that reports it.
-/

namespace SettingsForm

/-- The parts of a document that errors name. -/
inductive Field where
  | groups
  | group
  | title
  | rows
  | key
  | header
  | footer
  | row
  | name
  | identifier
  | type
  | edit
  | keyboardHint
  | flags
  | value
  | choice
  deriving DecidableEq, Repr

/-- The field as it is called in a message. -/
def Field.label : Field → String
  | groups => "groups"
  | group => "group"
  | title => "title"
  | rows => "rows"
  | key => "key"
  | header => "header"
  | footer => "footer"
  | row => "row"
  | name => "name"
  | identifier => "identifier"
  | type => "type"
  | edit => "edit"
  | keyboardHint => "keyboardHint"
  | flags => "flags"
  | value => "value"
  | choice => "choice"

/-- What is wrong with the content of a field. -/
inductive Defect where
  | notAnObject
  | notAString (found : Value)
  | notABoolean (found : Value)
  | unknownKeyboard (found : Value)
  | unfitValue (error : CoercionError)
  | duplicateKey (key : String)
  deriving Repr

/-- The words for a defect. -/
def Defect.message : Defect → String
  | notAnObject => "expected an object"
  | notAString found => s!"expected a string, got {found.compact}"
  | notABoolean found => s!"expected a boolean, got {found.compact}"
  | unknownKeyboard found => s!"unknown keyboard {found.compact}"
  | unfitValue error => error.message
  | duplicateKey key => s!"duplicate group key `{key}`"

/-- Why a form was refused. -/
inductive SchemaError where
  /-- A group or row lacks a field. -/
  | missingField (path : Path) (field : Field)
  /-- A field is present with a content that does not fit. -/
  | invalidField (path : Path) (field : Field) (defect : Defect)
  /-- The type of a row is neither a known name nor a known code. -/
  | unknownRowType (path : Path) (found : Value)
  /-- Two rows that hold values share an identifier. -/
  | duplicateIdentifier (identifier : String) (level : Nat) (first second : Position)
  /-- A set of choices has no entries. -/
  | emptyChoiceSet (path : Path)
  /-- No group has the key. -/
  | unknownGroup (key : String)
  /-- A list was expected. -/
  | notAList (path : Path)
  deriving Repr

/-- The words for an error. -/
def SchemaError.message : SchemaError → String
  | missingField path field => s!"{path.render}: missing required field `{field.label}`"
  | invalidField path field defect => s!"{path.render}: invalid `{field.label}`: {defect.message}"
  | unknownRowType path found => s!"{path.render}: unknown row type {found.compact}"
  | duplicateIdentifier identifier level first second =>
    let places := s!"({(Path.ofPosition first).render} and {(Path.ofPosition second).render})"
    s!"duplicate identifier `{identifier}` at nesting level {level} {places}"
  | emptyChoiceSet path => s!"{path.render}: choice set has no entries"
  | unknownGroup key => s!"no group with key `{key}`"
  | notAList path => s!"{path.render}: expected a list"

end SettingsForm
