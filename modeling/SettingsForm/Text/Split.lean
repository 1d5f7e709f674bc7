/-!
# Splitting texts

A text with separators is one more part than it has separators; parts may be empty.
-/

namespace SettingsForm.Split

/-- The parts of a text between the occurrences of a separator. -/
def parts (separator : Char) : List Char → List (List Char)
  | [] => [[]]
  | c :: rest =>
    if c = separator then [] :: parts separator rest
    else match parts separator rest with
      | first :: others => (c :: first) :: others
      | [] => [[c]]

end SettingsForm.Split
