import SettingsForm.Text.Digits
import SettingsForm.Text.Split

/-!
# Paths of files

A path is a text whose parts are separated by slashes. Its file name is the last part that is neither empty
nor a single point, unless that is a double point. The extension of a file name is what follows its last
point, except that a point at the start begins no extension.

`FilePath.backup` names the copy that is kept of a file before it is overwritten: it has the extension of
the file and lies beside it.
-/

namespace SettingsForm.FilePath

/-- A path up to its file name. -/
structure Named where
  directory : List (List Char)
  name : List Char

/-- Drops the parts at the end of a path that add nothing to it, given last part first. A single point that
is the whole path stays. -/
def dropIdle : List (List Char) → List (List Char)
  | [] => []
  | [part] => if part = [] then [] else [part]
  | part :: rest => if part = [] ∨ part = ['.'] then dropIdle rest else part :: rest

/-- The file name of a path and the parts before it. -/
def named? (path : List Char) : Option Named :=
  match dropIdle (Split.parts '/' path).reverse with
  | [] => none
  | name :: rest =>
    if name = ['.'] ∨ name = ['.', '.'] then none else some ⟨rest.reverse, name⟩

/-- Splits a file name at its last point into a stem and an extension. -/
def splitName (name : List Char) : List Char × Option (List Char) :=
  let extension := (name.reverse.takeWhile (· ≠ '.')).reverse
  let stem := name.take (name.length - extension.length - 1)
  if stem = [] then (name, none) else (stem, some extension)

/-- The extension of the file that a path names. -/
def extension? (path : List Char) : Option (List Char) := do (splitName (← named? path).name).2

/-- Joins parts by slashes. -/
def join (parts : List (List Char)) : List Char := ['/'].intercalate parts

/-- The path with another extension. As many characters as the old extension has are cut off the end of the
path; the new extension then follows the stem of what it names. A path that names no file stays. -/
def withExtension (path extension : List Char) : List Char :=
  let kept := path.take (path.length - ((extension? path).getD []).length)
  match named? kept with
  | none => kept
  | some ⟨directory, name⟩ => join (directory ++ [(splitName name).1 ++ '.' :: extension])

/-- The path of the copy of a file that was made a number of seconds after the start of 1970. -/
def backup (path : String) (seconds : Nat) : String :=
  let extension := (extension? path.toList).getD []
  String.ofList (withExtension path.toList ("bk-".toList ++ Digits.ofNat seconds ++ '.' :: extension))

end SettingsForm.FilePath
