/-!
# Positions

Where a row stands in a form: the index of its group, then its index within the group.
-/

namespace SettingsForm

/-- The place of a row: the number of its group, and its number in the group. -/
structure Position where
  group : Nat
  row : Nat
  deriving DecidableEq, Repr, Inhabited

end SettingsForm
