/-!
# Columns

Texts that are filled up to a common width, so that what follows them on each line starts in one column.
-/

namespace SettingsForm.Columns

/-- Puts spaces after a text until it has at least `width` characters. -/
def padRight (width : Nat) (text : String) : String :=
  text ++ String.ofList (List.replicate (width - text.length) ' ')

/-- Puts spaces before a text until it has at least `width` characters. -/
def padLeft (width : Nat) (text : String) : String :=
  String.ofList (List.replicate (width - text.length) ' ') ++ text

end SettingsForm.Columns
