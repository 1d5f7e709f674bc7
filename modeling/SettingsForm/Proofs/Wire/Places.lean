import SettingsForm.Proofs.Text.Digits
import SettingsForm.Value.Basic
import SettingsForm.Wire.Path

/-!
# Places in a document

A place leads from a document to a node by its steps (`Path.node?`). No two places are written alike, so the text
of a place tells the steps as well as the place itself does (`Path.render_injective`).
-/

namespace SettingsForm

namespace Path

/-! ## Places as steps -/

/-- The node that a place leads to in a document. -/
def node? (document : Value) : Path → Option Value
  | .document | .rows => some document
  | groups =>
    match document with
    | .mapping fields => Mapping.get? "groups" fields
    | list => some list
  | element list index => do
    let items ← (← list.node? document).asList?
    items[index]?
  | rowsOf group => do Mapping.get? "rows" (← (← group.node? document).asMapping?)
  | valueOf row => do Mapping.get? "value" (← (← row.node? document).asMapping?)

/-! ## Places as texts -/

/-- The text of a place, from its end to its start: the last step comes first. -/
def backward (path : Path) : List Char := path.render.toList.reverse

/-- An element of a list ends in its index in brackets. -/
@[simp]
theorem backward_element (list : Path) (index : Nat) : (element list index).backward =
    ']' :: ((Digits.ofNat index).reverse ++ '[' :: list.backward) := by
  rw [backward, backward, render]
  simp [toString, Nat.repr, Digits.ofNat]

/-- The rows of a group end in a name of their own. -/
@[simp]
theorem backward_rowsOf (group : Path) :
    (rowsOf group).backward = 's' :: 'w' :: 'o' :: 'r' :: '.' :: group.backward := by
  rw [backward, backward, render]
  simp [toString]

/-- The value of a row ends in a name of its own, which the rows of a group do not have. -/
@[simp]
theorem backward_valueOf (row : Path) :
    (valueOf row).backward = 'e' :: 'u' :: 'l' :: 'a' :: 'v' :: '.' :: row.backward := by
  rw [backward, backward, render]
  simp [toString]

/-- The whole document is written as a word. -/
@[simp]
theorem backward_document : document.backward = ['t', 'n', 'e', 'm', 'u', 'c', 'o', 'd'] := by rfl

/-- The list of groups is written as a word. -/
@[simp]
theorem backward_groups : groups.backward = ['s', 'p', 'u', 'o', 'r', 'g'] := by rfl

/-- A list of rows that stands for itself is written as a word. -/
@[simp]
theorem backward_rows : rows.backward = ['s', 'w', 'o', 'r'] := by rfl

/-- The digits of an index end where its bracket opens. -/
theorem index_of_backward {list other : Path} {index position : Nat}
    (same : (element list index).backward = (element other position).backward) :
    list.backward = other.backward ∧ index = position := by
  have run : ∀ n rest,
      ((Digits.ofNat n).reverse ++ '[' :: rest).takeWhile Digits.isDigit = (Digits.ofNat n).reverse := by
    intro n rest
    have all : ∀ c ∈ (Digits.ofNat n).reverse, Digits.isDigit c = true := fun c member =>
      List.all_eq_true.mp (Digits.all_ofNat n) c (List.mem_reverse.mp member)
    have bracket : Digits.isDigit '[' = false := by decide
    rw [List.takeWhile_append_of_pos all, List.takeWhile_cons, bracket, if_neg Bool.false_ne_true, List.append_nil]
  rw [backward_element, backward_element] at same
  have texts := List.tail_eq_of_cons_eq same
  have digits : (Digits.ofNat index).reverse = (Digits.ofNat position).reverse := by
    rw [← run index list.backward, texts, run]
  rw [digits] at texts
  refine ⟨List.tail_eq_of_cons_eq (List.append_cancel_left texts), ?_⟩
  rw [← Digits.toNat_ofNat index, List.reverse_inj.mp digits, Digits.toNat_ofNat]

/-- A path is told by its text read backwards, one step at a time. -/
theorem backward_injective : Function.Injective backward := by
  -- The last step is told from the end of the text, and what stands before it is the text of a place again.
  intro path
  induction path with
  | document | groups | rows =>
    intro other same
    cases other <;> simp at same ⊢
  | element list index inductionHypothesis =>
    intro other same
    cases other with
    | element other position =>
      obtain ⟨lists, rfl⟩ := index_of_backward same
      rw [inductionHypothesis lists]
    | _ => simp at same
  | rowsOf group inductionHypothesis =>
    intro other same
    cases other with
    | rowsOf other => rw [inductionHypothesis (by simpa using same)]
    | _ => simp at same
  | valueOf row inductionHypothesis =>
    intro other same
    cases other with
    | valueOf other => rw [inductionHypothesis (by simpa using same)]
    | _ => simp at same

/-- No two places are written alike. -/
theorem render_injective : Function.Injective render := fun _ _ same =>
  backward_injective (congrArg (fun text => text.toList.reverse) same)

end Path

end SettingsForm
