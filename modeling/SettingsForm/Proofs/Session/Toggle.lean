import Mathlib.Logic.Function.Iterate
import SettingsForm.Proofs.Session.Steady
import SettingsForm.Proofs.Store.Effect

/-!
# Flipping booleans

Activating a boolean row commits the opposite of the boolean that is in effect. That boolean is read twice, in
different ways: the activation knows native booleans only and takes anything else for false, while the commit
also reads numbers and words, and writes nothing if the value in effect stands for the committed one. For false
the two agree, and so they do for the native true. A number or a word for true is taken for false by the
activation, which commits true, and for true by the commit, which leaves it in effect; such a row is stuck,
however often it is activated (`activate_flips`).

Once a row has flipped, its value is native, and it flips with every further activation.
-/

namespace SettingsForm

/-- A value that is read as a boolean is native, or no boolean is taken from it without conversion. -/
theorem Coercion.native_or_foreign {value : Value} {b : Bool} (reads : boolean? true value = some b) :
    value = .bool b ∨ value.asBool? = none := by
  cases value with
  | bool native =>
    obtain rfl := Option.some.inj reads
    exact Or.inl rfl
  | _ => exact Or.inr rfl

/-- The native boolean of such a value, or false, is the boolean it stands for, unless the value stands for true
without being native. -/
theorem Coercion.taken_iff {value : Value} {b : Bool} (reads : boolean? true value = some b) :
    value.asBool?.getD false = b ↔ (b = true → value = .bool true) := by
  rcases native_or_foreign reads with rfl | foreign
  · simp [Value.asBool?]
  · rw [foreign, Option.getD_none]
    constructor
    · rintro rfl
      simp
    · intro native
      cases b with
      | false => rfl
      | true =>
        rw [native rfl] at foreign
        cases foreign

/-- A boolean counts as in effect just if the value in effect stands for it. -/
theorem Store.isInEffect_boolean {store : Store} {key : String} {row : Row} {value : Value} {b : Bool}
    (current : store.effective key row.declaredValue = value) (reads : Coercion.boolean? true value = some b)
    (other : Bool) : store.isInEffect key row (.builtin .boolean) (.bool other) = (b == other) := by
  have converted : (Contract.builtin .boolean).coerce key row value true = .ok (.bool b) := by
    simp only [Contract.coerce, Contract.builtin, Contract.storing, Coercion.apply, reads, Option.map_some,
      Option.elim_some]
  have same : (Value.bool b == Value.bool other) = (b == other) := rfl
  rw [isInEffect, current, converted]
  rcases Coercion.native_or_foreign reads with rfl | foreign
  · exact Bool.or_self _
  · have differs : (value == .bool other) = false := by
      cases value with
      | bool native => cases foreign
      | _ => rfl
    rw [differs, Bool.false_or]
    exact same

namespace Controller

open Operation

variable {σ : Type}

/-- The innermost session shows an editable boolean row, with the built-in contract. -/
structure Switch (c : Controller σ) (position : Position) (row : Row) : Prop where
  shown : ∃ session, c.top? = some session ∧ session.schema.rowAt? position = some row ∧
    session.schema.resolve? row.identifier = some row
  boolean : row.rowType = .boolean
  editable : row.editable = true
  named : row.identifier ≠ ""
  plain : c.registry.override? .boolean = none

/-- The row stays a switch if the innermost session holds another store. -/
theorem Switch.kept {c after : Controller σ} {position : Position} {row : Row} {store : Store}
    (switch : c.Switch position row) (stores : Stores c after store) : after.Switch position row := by
  obtain ⟨session, top, there, resolved⟩ := switch.shown
  refine ⟨⟨_, stores.top top, there, resolved⟩, switch.boolean, switch.editable, switch.named, ?_⟩
  rw [stores.registry]
  exact switch.plain

variable [Host σ]

/-- An activation turns the value in effect for a key, which was another one, into a boolean. -/
def Turns (c after : Controller σ) (position : Position) (key : String) (b : Bool) : Prop :=
  perform (activate position) c = (.ok (.committed ⟨key, .bool b, true, false⟩), after) ∧
    after.effective? key = some (.bool b)

/-- An activation commits true and leaves the value in effect for a key as it is. -/
def Sticks (c after : Controller σ) (position : Position) (key : String) (value : Value) : Prop :=
  perform (activate position) c = (.ok (.committed ⟨key, .bool true, false, false⟩), after) ∧
    after.effective? key = some value

namespace Switch

variable {c : Controller σ} {position : Position} {row : Row} {value : Value} {b : Bool}

/-- A switch is converted by the contract of booleans. -/
theorem contract (switch : c.Switch position row) : c.contractFor row = .builtin .boolean := by
  simp [contractFor, Registry.contractFor, switch.boolean, switch.plain]

/-- A switch can be written to. -/
theorem writable (switch : c.Switch position row) :
    c.writableRow row.identifier = .ok (row, .builtin .boolean) := by
  obtain ⟨session, top, -, resolved⟩ := switch.shown
  have persisted : (c.contractFor row).persisted = true := by
    rw [switch.contract]
    rfl
  rw [writableRow_of_resolve top resolved switch.editable persisted, switch.contract]
  cases row
  rfl

/-- Activating a switch commits the opposite of the native boolean in effect, or of false. -/
theorem activate_eq (switch : c.Switch position row) (effective : c.effective? row.identifier = some value) :
    perform (activate position) c =
      perform (do return .committed (← commit row.identifier (.bool !(value.asBool?.getD false)))) c := by
  obtain ⟨session, top, there, -⟩ := switch.shown
  have live : c.current = .ok session := current_of_top top
  have found : c.rowAt position = .ok row := by
    rw [rowAt, live]
    simp only [bind, Except.bind, there]
  have writes : ¬((!row.editable) = true ∨ row.identifier = "") := by
    simp [switch.editable, switch.named]
  rw [activate, perform_query_ok live, perform_query_ok found, perform_get_bind]
  simp only [switch.contract, Contract.builtin, Contract.storing, Bool.false_eq_true, if_false, writes, effective,
    Option.bind_some]

/-- A boolean is committed to a switch. It is written unless the value in effect stands for it. -/
theorem committed (steady : Host.Steady σ) (switch : c.Switch position row)
    (effective : c.effective? row.identifier = some value) (reads : Coercion.boolean? true value = some b)
    (other : Bool) : ∃ after,
      perform (commit row.identifier (.bool other)) c =
          (.ok ⟨row.identifier, .bool other, !(b == other), false⟩, after) ∧
        after.effective? row.identifier = some (if b = other then value else .bool other) ∧
        after.Switch position row := by
  obtain ⟨session, top, there, resolved⟩ := switch.shown
  have current : session.store.effective row.identifier row.declaredValue = value := by
    rw [effective?_declared top resolved] at effective
    exact Option.some.inj effective
  have counts := Store.isInEffect_boolean current reads other
  have converted : (Contract.builtin .boolean).coerce row.identifier row (.bool other) c.config.lenientStrings =
      .ok (.bool other) := rfl
  by_cases same : b = other
  · have stored := Store.commit_of_inEffect converted (counts.trans (beq_iff_eq.mpr same))
    obtain ⟨after, committing, stores⟩ := commit_of_stored steady top switch.writable stored
    refine ⟨after, ?_, ?_, switch.kept stores⟩
    · rw [committing, beq_iff_eq.mpr same]
      rfl
    · rw [effective?_declared (stores.top top) resolved, if_pos same, current]
  · have stored := Store.commit_of_not_inEffect converted (counts.trans (beq_eq_false_iff_ne.mpr same))
    obtain ⟨after, committing, stores⟩ := commit_of_stored steady top switch.writable stored
    refine ⟨after, ?_, ?_, switch.kept stores⟩
    · rw [committing, beq_eq_false_iff_ne.mpr same]
      rfl
    · rw [effective?_declared (stores.top top) resolved, if_neg same, Store.effective_write]

/-- A switch turns if it is taken for what it stands for. -/
theorem turns (steady : Host.Steady σ) (switch : c.Switch position row)
    (effective : c.effective? row.identifier = some value) (reads : Coercion.boolean? true value = some b)
    (agrees : value.asBool?.getD false = b) :
    ∃ after, Turns c after position row.identifier (!b) ∧ after.Switch position row := by
  obtain ⟨after, committing, shows, kept⟩ := switch.committed steady effective reads (!b)
  have apart : b ≠ !b := by cases b <;> decide
  rw [if_neg apart] at shows
  rw [beq_eq_false_iff_ne.mpr apart] at committing
  refine ⟨after, ⟨?_, shows⟩, kept⟩
  rw [switch.activate_eq effective, agrees, perform_bind_ok committing, perform_pure]
  rfl

/-- A switch sticks if it stands for true without being native. -/
theorem sticks (steady : Host.Steady σ) (switch : c.Switch position row)
    (effective : c.effective? row.identifier = some value) (reads : Coercion.boolean? true value = some true)
    (foreign : value.asBool? = none) :
    ∃ after, Sticks c after position row.identifier value ∧ after.Switch position row := by
  obtain ⟨after, committing, shows, kept⟩ := switch.committed steady effective reads true
  refine ⟨after, ⟨?_, shows⟩, kept⟩
  rw [switch.activate_eq effective, foreign, Option.getD_none, Bool.not_false, perform_bind_ok committing,
    perform_pure]
  rfl

/-- With every activation a native boolean becomes its opposite. -/
theorem runs_native (steady : Host.Steady σ) (times : Nat) (switch : c.Switch position row)
    (effective : c.effective? row.identifier = some (.bool b)) :
    (runs (List.replicate times (.activate position)) c).effective? row.identifier =
      some (.bool (Bool.not^[times] b)) := by
  induction times generalizing c b with
  | zero => exact effective
  | succ times inductionHypothesis =>
    obtain ⟨after, ⟨activated, shows⟩, kept⟩ := switch.turns steady effective rfl rfl
    have reached : Request.run (.activate position) c = after := congrArg Prod.snd activated
    rw [List.replicate_succ, runs_cons, reached, Function.iterate_succ_apply]
    exact inductionHypothesis kept shows

/-- A stuck switch stays stuck. -/
theorem runs_stuck (steady : Host.Steady σ) (times : Nat) (switch : c.Switch position row)
    (effective : c.effective? row.identifier = some value) (reads : Coercion.boolean? true value = some true)
    (foreign : value.asBool? = none) :
    (runs (List.replicate times (.activate position)) c).effective? row.identifier = some value := by
  induction times generalizing c with
  | zero => exact effective
  | succ times inductionHypothesis =>
    obtain ⟨after, ⟨activated, shows⟩, kept⟩ := switch.sticks steady effective reads foreign
    have reached : Request.run (.activate position) c = after := congrArg Prod.snd activated
    rw [List.replicate_succ, runs_cons, reached]
    exact inductionHypothesis kept shows

end Switch

/-- A row that holds booleans is a switch, in a reachable controller. -/
theorem switch_of_reachable {c : Controller σ} (reachable : Reachable c) {top : Session} (first : c.top? = some top)
    {position : Position} {row : Row} (there : top.schema.rowAt? position = some row)
    (boolean : row.rowType = .boolean) (editable : row.editable = true) (named : row.identifier ≠ "")
    (plain : c.registry.override? .boolean = none) : c.Switch position row := by
  have persisted : row.isPersisted = true := by
    rw [Row.isPersisted, boolean]
    rfl
  have consistent := reachable.formed top (mem_of_top? first)
  exact ⟨⟨top, first, there, consistent.resolve?_persisted there persisted named⟩, boolean, editable, named, plain⟩

/-- The value in effect for a boolean row is read as a boolean. Unless it stands for true without being native,
an activation turns it into the opposite and a second one back, and so on with every further one. Otherwise
each activation commits true, which does not count as a change, and the value stays as it is. -/
theorem activate_flips (steady : Host.Steady σ) {c : Controller σ} (reachable : Reachable c) {top : Session}
    (first : c.top? = some top) {position : Position} {row : Row} (there : top.schema.rowAt? position = some row)
    (boolean : row.rowType = .boolean) (editable : row.editable = true) (named : row.identifier ≠ "")
    (plain : c.registry.override? .boolean = none) {value : Value}
    (effective : c.effective? row.identifier = some value) {b : Bool}
    (reads : Coercion.boolean? true value = some b) :
    ((b = true → value = .bool true) →
        (∃ after last, Turns c after position row.identifier (!b) ∧ Turns after last position row.identifier b) ∧
          ∀ times, (runs (List.replicate (times + 1) (.activate position)) c).effective? row.identifier =
            some (.bool (Bool.not^[times + 1] b))) ∧
      (b = true ∧ value ≠ .bool true →
        (∃ after, Sticks c after position row.identifier value) ∧
          ∀ times, (runs (List.replicate times (.activate position)) c).effective? row.identifier = some value) := by
  have switch := switch_of_reachable reachable first there boolean editable named plain
  constructor
  · intro native
    obtain ⟨after, turned, kept⟩ := switch.turns steady effective reads ((Coercion.taken_iff reads).mpr native)
    constructor
    · obtain ⟨last, back, -⟩ := kept.turns steady turned.2 rfl rfl
      rw [Bool.not_not] at back
      exact ⟨after, last, turned, back⟩
    · intro times
      have reached : Request.run (.activate position) c = after := congrArg Prod.snd turned.1
      rw [List.replicate_succ, runs_cons, reached, Function.iterate_succ_apply]
      exact kept.runs_native steady times turned.2
  · rintro ⟨rfl, other⟩
    have foreign : value.asBool? = none := (Coercion.native_or_foreign reads).resolve_left other
    obtain ⟨after, stuck, -⟩ := switch.sticks steady effective reads foreign
    exact ⟨⟨after, stuck⟩, fun times => switch.runs_stuck steady times effective reads foreign⟩

/-- A form with one switch. -/
def soundForm : List Group := [⟨"Settings", none, none, none, [.ofPayload "Sound" "sound" (.boolean false)]⟩]

/-- That form, started with a host that supplies a value for the switch. -/
def soundStarted (value : Value) : Controller StaticHost :=
  { host := .ofValues [("sound", value)] []
    registry := .empty
    config := .standard
    stack := .ofRoot "Settings"
      { level := 0, groups := soundForm, index := ⟨[("sound", ⟨0, 0⟩)], []⟩, groupKeys := [] }
      (.ofValues [("sound", value)] []) 8
    calls := [.initialValues, .defaultValues] }

/-- The form with the sound switch starts with any host value. -/
theorem start_sound (value : Value) :
    start soundForm (StaticHost.ofValues [("sound", value)] []) .standard = .ok (soundStarted value) := rfl

/-- The host says that the sound is off, in a word. It is switched on and off again. -/
theorem activate_flips_sound :
    ∃ after last, Turns (soundStarted (.string "off")) after ⟨0, 0⟩ "sound" true ∧
      Turns after last ⟨0, 0⟩ "sound" false := by
  have reachable : Reachable (soundStarted (.string "off")) := ⟨_, _, _, _, [], start_sound (.string "off"), rfl⟩
  have there : (Schema.mk 0 soundForm ⟨[("sound", ⟨0, 0⟩)], []⟩ []).rowAt? ⟨0, 0⟩ =
      some (.ofPayload "Sound" "sound" (.boolean false)) := rfl
  have effective : (soundStarted (.string "off")).effective? "sound" = some (.string "off") := rfl
  have off : Coercion.boolean? true (.string "off") = some false := by rfl
  have flips := activate_flips StaticHost.steady reachable rfl there rfl rfl (by decide) rfl effective off
  exact (flips.1 nofun).1

/-- The host says that the sound is on, in a word. It cannot be switched off. -/
theorem sound_stuck :
    ∃ after, (soundStarted (.string "on")).effective? "sound" = some (.string "on") ∧
      Coercion.boolean? true (.string "on") = some true ∧
      Sticks (soundStarted (.string "on")) after ⟨0, 0⟩ "sound" (.string "on") :=
  ⟨_, rfl, by rfl, rfl, rfl⟩

end Controller

end SettingsForm
