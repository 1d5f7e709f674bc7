import SettingsForm.Proofs.Session.Finish
import SettingsForm.Proofs.Session.Lineage

/-!
# Opening a nested session again

A host that supplies no values for nested sessions leaves them to the parent: a nested session starts from
the parent's nested mapping for its row. Its edits take the place of that mapping when it is dismissed, so
the session opened next from the same row starts from the edits alone, or from the same values as before if
there are none. Values that were only inherited are lost once anything else is edited; what counts for them
then is the fallback and the declaration of the row.
-/

namespace SettingsForm

namespace Session

/-- The session starts from its parent's values for the row from which it was opened. -/
structure Inherits (parent child : Session) (position : Position) (row : Row) : Prop where
  there : parent.schema.rowAt? position = some row
  origin : child.origin = some { parent := parent.id, position, mergeKey := row.mergeKey }
  input : child.store.input = (parent.store.nestedEffective? row.mergeKey).getD []
  fallback : child.store.fallback = (parent.store.nestedFallback? row.mergeKey).getD []
  /-- The form that a row carries is the one that is opened. -/
  carried : ∀ groups, row.childGroups? = some groups → child.schema.groups = groups
  built : Schema.build child.schema.groups (parent.level + 1) = .ok child.schema

end Session

namespace Store

/-- What the next session starts from is what this one was edited to, or what this one started from. -/
def reopened (store : Store) : Store :=
  .ofValues (if store.edits = [] then store.input else store.edits) store.fallback

/-- A key has the same value then if nothing was edited, if it was edited itself, or if no value was
inherited for it. -/
theorem get?_reopened {store : Store} {key : String}
    (kept : store.edits = [] ∨ (Mapping.get? key store.edits).isSome = true ∨
      Mapping.get? key store.input = none) : store.reopened.get? key = store.get? key := by
  rw [get?_eq, get?_eq, reopened, ofValues]
  by_cases blank : store.edits = []
  · simp [blank, Mapping.get?]
  · simp only [blank, if_false, Mapping.get?, Option.none_or]
    rcases kept with none | edited | bare
    · exact absurd none blank
    · obtain ⟨value, found⟩ := Option.isSome_iff_exists.mp edited
      simp only [found, Option.some_or]
    · rw [bare, Option.or_none]

end Store

namespace Controller

open Operation

variable {σ : Type}

/-- The value in effect depends on the schema and on what the store holds for the key. -/
theorem effective?_congr {c after : Controller σ} {session again : Session} {key : String}
    (top : c.top? = some session) (topAfter : after.top? = some again)
    (schema : again.schema = session.schema) (values : again.store.get? key = session.store.get? key) :
    after.effective? key = c.effective? key := by
  simp only [effective?, top, topAfter, Option.bind_eq_bind, Option.bind_some, schema, Store.effective,
    values]

variable [Host σ]

/-- The host leaves every schema alone and supplies no values for nested sessions. -/
structure Reticent (σ : Type) [Host σ] : Prop where
  schemas : ∀ (groups : List Group) (row : Row) (host : σ),
    (Host.refreshSchema groups row host).1 = .unchanged
  values : ∀ (row : Row) (host : σ), (Host.childValues row host).1 = none

/-- A host of fixed values refreshes no schema and supplies no nested values. -/
theorem reticent_static : Reticent StaticHost := ⟨fun _ _ _ => rfl, fun _ _ => rfl⟩

/-- With such a host a nested session starts from its parent's values, which do not change while it is open. -/
theorem handed_inherits (reticent : Reticent σ) (config : Config) :
    Handed σ (fun _ => True) config (fun _ => True)
      fun parent child => ∃ position row, parent.Inherits child position row where
  steady := reticent.schemas
  busy := fun _ _ _ => trivial
  related := by
    rintro parent child state active edits ⟨position, row, inherits⟩
    exact ⟨position, row, inherits.there, inherits.origin, inherits.input, inherits.fallback,
      inherits.carried, inherits.built⟩
  stored := fun _ _ _ _ _ _ => trivial
  opened := by
    intro c asked top position row groups schema id _ _ found supplied built _
    obtain ⟨-, -, there, -⟩ := nestingRow_cases found
    have same : schema.groups = groups := (Schema.build_cases built).2.2.2
    refine ⟨trivial, position, row, there, rfl, ?_, rfl, ?_, ?_⟩
    · change (((Host.childValues row asked.host).1.or (top.store.nestedEffective? row.mergeKey)).getD []) = _
      rw [reticent.values, Option.none_or]
      rfl
    · exact fun own carried => same.trans (supplied.carried carried)
    · change Schema.build schema.groups (top.level + 1) = .ok schema
      rw [same, built]
  merged := fun _ _ _ _ => trivial

/-- A session that was opened lies above the one that it was opened from. -/
theorem push_opens {c last : Controller σ} (linked : c.stack.Linked) {top : Session} {rest : List Session}
    (live : c.stack.sessions = top :: rest) {parent id : SessionId} (named : top.id = parent)
    {position : Position} {row : Row} (there : top.schema.rowAt? position = some row)
    (pushed : perform (push parent position) c = (.ok id, last)) :
    ∃ groups schema asked, Supplies c row groups asked ∧ Schema.build groups (top.level + 1) = .ok schema ∧
      last.top? = some (.ofRow id top.id position row schema (asked.childStore top row)) := by
  subst named
  have run := push_run c top.id position
  rw [pushed] at run
  cases run with
  | @opened session declared groups schema asked _ stack found supplied built opened =>
    obtain ⟨present, free, declares, -⟩ := nestingRow_cases found
    obtain ⟨-, others, first⟩ := Stack.top_of_get? linked present free
    obtain ⟨rfl, rfl⟩ := List.cons.inj (live.symm.trans first)
    obtain rfl := Option.some.inj (there.symm.trans declares)
    obtain ⟨-, -, -, -, -, rfl, rfl⟩ := Stack.push?_cases linked opened
    exact ⟨groups, schema, asked, supplied, built, rfl⟩

/-- Once the edits of the nested session are handed back, the store of the next one is the one it would be
reopened with. -/
theorem childStore_resume (reticent : Reticent σ) {parent child : Session} {position : Position} {row : Row}
    (inherits : parent.Inherits child position row) (c : Controller σ) :
    c.childStore (parent.resume row.mergeKey child.edits) row = child.store.reopened := by
  simp only [childStore, reticent.values, Option.none_or, Session.resume, Store.nestedEffective?_mergeChild,
    Store.nestedFallback?, Store.fallback_mergeChild, Store.reopened, inherits.input, inherits.fallback,
    Session.edits]
  split <;> rfl

/-- A nested session is dismissed, and then a session is opened again from the same row. It starts from the
edits of the dismissed one, or from the same values as that one if there are none; its form is the same if
the row carries it. Where the form is the same, a key has the same value in effect as before the dismissal,
unless its value was only inherited and other keys were edited. -/
theorem reopened_runs (reticent : Reticent σ) {groups : List Group} {host : σ} {config : Config}
    {started : Controller σ} (start : start groups host config = .ok started) (requests : List (Request σ))
    {c : Controller σ} (reached : runs requests started = c) {child parent : Session} {below : List Session}
    (live : c.stack.sessions = child :: parent :: below) {origin : Origin}
    (opened : child.origin = some origin) :
    ∃ row after, parent.schema.rowAt? origin.position = some row ∧
      perform (pop child.id) c = (.ok (.merged parent.id origin.mergeKey child.edits), after) ∧
      ∀ id last, perform (push parent.id origin.position) after = (.ok id, last) →
        ∃ again, last.top? = some again ∧ again.store = child.store.reopened ∧
          ((row.childGroups?).isSome = true → again.schema.groups = child.schema.groups) ∧
          (again.schema.groups = child.schema.groups → again.schema = child.schema ∧
            ∀ key, child.edits = [] ∨ (Mapping.get? key child.edits).isSome = true ∨
                Mapping.get? key child.store.input = none →
              last.effective? key = c.effective? key) := by
  have lineage := (handed_inherits reticent config).runs start trivial (fun _ => trivial) requests
    fun _ _ => trivial
  rw [reached] at lineage
  have linked := lineage.nested.toLinked
  have chain := lineage.chain
  rw [live] at chain
  cases chain with
  | nested related _ =>
    obtain ⟨-, position, row, inherits⟩ := related
    obtain rfl := Option.some.inj (inherits.origin.symm.trans opened)
    obtain ⟨same, host, named, dismissed⟩ := dismiss_nested linked live
    obtain rfl := Option.some.inj (opened.symm.trans named)
    rw [dismiss_live live] at dismissed
    refine ⟨row, _, inherits.there, dismissed, ?_⟩
    intro id last pushed
    have resumed := linked.resume live row.mergeKey child.edits
    have there : (parent.resume row.mergeKey child.edits).schema.rowAt? position = some row := inherits.there
    obtain ⟨forms, schema, asked, supplied, built, top⟩ := push_opens resumed rfl rfl there pushed
    have same : schema.groups = forms := (Schema.build_cases built).2.2.2
    have values := childStore_resume reticent inherits asked
    refine ⟨_, top, values, ?_, ?_⟩
    · intro carries
      obtain ⟨own, carried⟩ := Option.isSome_iff_exists.mp carries
      rw [inherits.carried own carried]
      exact same.trans (supplied.carried carried)
    · intro unchanged
      change schema.groups = child.schema.groups at unchanged
      have rebuilt : schema = child.schema := by
        rw [← same, unchanged] at built
        exact Except.ok.inj (built.symm.trans inherits.built)
      refine ⟨rebuilt, ?_⟩
      intro key kept
      have before : c.top? = some child := top?_eq_some_iff.mpr ⟨_, live⟩
      refine effective?_congr before top rebuilt ?_
      exact (congrArg (Store.get? · key) values).trans (Store.get?_reopened kept)

/-- A street is entered, and shown when the address is opened again. -/
theorem reopened_runs_person :
    ∃ after last, perform (pop 1) (runs [.push 0 ⟨0, 1⟩, .commit "street" (.string "Elm")] personStarted) =
        (.ok (.merged 0 "home" [("street", .string "Elm")]), after) ∧
      perform (push 0 ⟨0, 1⟩) after = (.ok 2, last) ∧ last.effective? "street" = some (.string "Elm") := by
  obtain ⟨row, after, there, popped, opens⟩ := reopened_runs reticent_static start_person
    [.push 0 ⟨0, 1⟩, .commit "street" (.string "Elm")] rfl rfl rfl
  have pushed : (perform (push 0 ⟨0, 1⟩) after).1 = .ok 2 := by
    rw [← (Prod.mk.inj popped).2]
    rfl
  obtain ⟨again, top, values, same, kept⟩ := opens 2 _ (Prod.ext pushed rfl)
  obtain rfl := Option.some.inj there
  exact ⟨after, _, popped, Prod.ext pushed rfl, (kept (same rfl)).2 "street" (Or.inr (Or.inl rfl))⟩

/-- A form of one row that opens a form of two numbers. -/
def pairForm : List Group :=
  [⟨"T", none, none, none, [.ofPayload "Net" "net" (.multiLevel (some
    [⟨"In", none, none, none, [.ofInteger "A" "a" 0, .ofInteger "B" "b" 0]⟩]))]⟩]

/-- Two inherited numbers. -/
def pairHost : StaticHost :=
  .ofValues [("net", .mapping [("a", .number (.ofInt64 1)), ("b", .number (.ofInt64 2))])] []

/-- The second number is shown until the session is dismissed, and not when it is opened again, for the
first number was edited. -/
theorem reopened_runs_inherited :
    ∃ started after last, start pairForm pairHost .standard = .ok started ∧
      (runs [.push 0 ⟨0, 0⟩, .commit "a" (.number (.ofInt64 5))] started).effective? "b" =
        some (.number (.ofInt64 2)) ∧
      (perform (pop 1) (runs [.push 0 ⟨0, 0⟩, .commit "a" (.number (.ofInt64 5))] started)).2 = after ∧
      perform (push 0 ⟨0, 0⟩) after = (.ok 2, last) ∧ last.effective? "b" = some (.number (.ofInt64 0)) :=
  ⟨_, _, _, rfl, rfl, rfl, rfl, rfl⟩

end Controller

end SettingsForm
