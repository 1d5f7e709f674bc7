import SettingsForm.Schema.Basic

/-!
# What an accepted form consists of

A schema is built from groups at a level and keeps both. Replacing rows or groups keeps the level; the new
rows are indexed beside what is left of the index once the rows of their group are forgotten. The index of
the group keys is made when the schema is built and stays as it is when rows are replaced.
-/

namespace SettingsForm

namespace Schema

/-- A built schema holds the groups and the level that it was built from, the index of the rows of those
groups and that of their keys. -/
theorem build_cases {groups : List Group} {level : Nat} {schema : Schema}
    (built : build groups level = .ok schema) :
    indexGroupKeys [] 0 groups = .ok schema.groupKeys ∧
      indexGroups level 0 .empty groups = .ok schema.index ∧
      schema.level = level ∧ schema.groups = groups := by
  cases keys : indexGroupKeys [] 0 groups with
  | error error => simp [build, keys, bind, Except.bind] at built
  | ok places =>
    cases indexed : indexGroups level 0 .empty groups with
    | error error => simp [build, keys, indexed, bind, Except.bind] at built
    | ok index =>
      simp only [build, keys, indexed, bind, Except.bind, Except.ok.injEq] at built
      subst built
      exact ⟨rfl, rfl, rfl, rfl⟩

/-- Replaced rows belong to the group with the key. They were indexed on their own, after the former rows
of that group were forgotten. -/
theorem replaceRows_cases {schema after : Schema} {key : String} {rows : List Row}
    (replaced : schema.replaceRows key rows = .ok after) :
    ∃ g index, schema.groupIndex? key = some g ∧
      indexRows schema.level ⟨g, 0⟩ (schema.index.withoutGroup g) rows = .ok index ∧
      after = { schema with
        index
        groups := schema.groups.modify g fun group => { group with rows } } := by
  cases place : schema.groupIndex? key with
  | none => simp [replaceRows, place] at replaced
  | some g =>
    cases indexed : indexRows schema.level ⟨g, 0⟩ (schema.index.withoutGroup g) rows with
    | error error => simp [replaceRows, place, indexed, bind, Except.bind] at replaced
    | ok index =>
      simp only [replaceRows, place, indexed, bind, Except.bind, Except.ok.injEq] at replaced
      exact ⟨g, index, rfl, indexed, replaced.symm⟩

end Schema

end SettingsForm
