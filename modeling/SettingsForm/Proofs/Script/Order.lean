import SettingsForm.Proofs.Script.Course
import SettingsForm.Proofs.Script.Grouping

/-!
# The order of assignments

Assignments to different paths may be given in any order, for each path is written at its own key of its own
form. Paths may share parts, one may lead on from another, and keys may be indexed or shared by rows; only
the order of assignments to the same path counts.
-/

namespace SettingsForm

namespace Script

/-- Two lists that hold the same assignments to each path, in the same order for each path, succeed together
and return the same edits. Such lists are those permutations of one another that keep the order of
assignments to the same path. -/
theorem run_reordered (groups : List Group) (values fallback : Mapping) (config : Config)
    {assignments others : List Assignment}
    (same : ∀ path, assignments.filter (·.path = path) = others.filter (·.path = path)) (diff : Mapping) :
    run groups values fallback config assignments = .ok diff ↔
      run groups values fallback config others = .ok diff := by
  have values : ∀ path, Assignment.values path assignments = Assignment.values path others := by
    intro path
    rw [Assignment.values, same, Assignment.values]
  rw [run_ok_iff, run_ok_iff, Visit.effect_reordered config values]

/-- A form of an age and of a nested form with a host and a port. -/
def serverForm : List Group :=
  [⟨"Server", none, none, none, [.ofInteger "Age" "age" 0, .ofPayload "Net" "net" (.multiLevel (some
    [⟨"Address", none, none, none, [.ofPayload "Host" "host" (.string ""), .ofInteger "Port" "port" 0]⟩]))]⟩]

/-- The host, the age and the port of a server. -/
def serverScript : List Assignment :=
  [⟨["net", "host"], .string "a"⟩, ⟨["age"], .number (.ofInt64 41)⟩, ⟨["net", "port"], .number (.ofInt64 80)⟩]

/-- The port may be assigned first. -/
theorem run_reordered_server :
    (∀ path, [⟨["net", "port"], .number (.ofInt64 80)⟩, ⟨["net", "host"], .string "a"⟩,
        ⟨["age"], .number (.ofInt64 41)⟩].filter (·.path = path) = serverScript.filter (·.path = path)) ∧
      run serverForm [] [] .standard serverScript = .ok [("age", .number (.ofInt64 41)),
        ("net", .mapping [("host", .string "a"), ("port", .number (.ofInt64 80))])] := by
  have same : ∀ path, [⟨["net", "port"], .number (.ofInt64 80)⟩, ⟨["net", "host"], .string "a"⟩,
      ⟨["age"], .number (.ofInt64 41)⟩].filter (·.path = path) = serverScript.filter (·.path = path) := by
    intro path
    simp only [serverScript, List.filter_cons, List.filter_nil, decide_eq_true_eq]
    by_cases port : ["net", "port"] = path
    · subst port
      rfl
    · simp [port]
  exact ⟨same, (run_reordered serverForm [] [] .standard same _).mp (run_ok_iff.mpr ⟨_, _, by rfl, by rfl, by rfl⟩)⟩

end Script

end SettingsForm
