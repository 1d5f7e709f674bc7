import SettingsForm.Value.Basic

/-!
# Equality of values

Values compare equal when they differ at most in the sign of zeros. That is an equivalence, because a
document holds no number that differs from itself: whatever is kept as a floating-point word is finite.
Equal values need not be the same value, so the laws of equality are what replaces rewriting.
-/

namespace SettingsForm

namespace Binary64

/-- A finite word equals itself, as only the words that are no numbers do not. -/
theorem equals_self {x : Binary64} (finite : x.isFinite = true) : x.equals x = true := by
  simp [equals, isNaN, finite]

/-- Equality of words does not depend on the order of the two. -/
theorem equals_symm {x y : Binary64} (same : x.equals y = true) : y.equals x = true := by
  simp only [equals, Bool.or_eq_true, Bool.and_eq_true, decide_eq_true_eq] at same ⊢
  rcases same with ⟨first, second⟩ | ⟨rfl, number⟩
  · exact Or.inl ⟨second, first⟩
  · exact Or.inr ⟨rfl, number⟩

/-- Words that equal one word equal each other, also when some of them are zeros of different sign. -/
theorem equals_trans {x y z : Binary64} (first : x.equals y = true) (second : y.equals z = true) :
    x.equals z = true := by
  simp only [equals, Bool.or_eq_true, Bool.and_eq_true, decide_eq_true_eq] at first second ⊢
  rcases first with ⟨zero, middle⟩ | ⟨rfl, number⟩
  · rcases second with ⟨-, last⟩ | ⟨rfl, -⟩
    · exact Or.inl ⟨zero, last⟩
    · exact Or.inl ⟨zero, middle⟩
  · exact second

end Binary64

namespace Number

/-- A number of a document equals itself, for its word is finite. -/
theorem equals_self (n : Number) : n.equals n = true := by
  cases n with
  | integer i inRange => simp [equals]
  | real x finite => exact Binary64.equals_self finite

/-- Equality of numbers does not depend on the order of the two. -/
theorem equals_symm {m n : Number} (same : m.equals n = true) : n.equals m = true := by
  cases m with
  | integer i inRange =>
    cases n with
    | integer j alsoInRange => simpa [equals, eq_comm] using same
    | real y finite => simp [equals] at same
  | real x finite =>
    cases n with
    | integer j inRange => simp [equals] at same
    | real y alsoFinite => exact Binary64.equals_symm same

/-- Numbers that equal one number equal each other. An integer never equals a word, so all three are of one
kind. -/
theorem equals_trans {l m n : Number} (first : l.equals m = true) (second : m.equals n = true) :
    l.equals n = true := by
  cases m with
  | integer j inRange =>
    cases l with
    | integer i alsoInRange =>
      have same : i = j := of_decide_eq_true first
      subst same
      exact second
    | real x finite => simp [equals] at first
  | real y finite =>
    cases l with
    | integer i inRange => simp [equals] at first
    | real x alsoFinite =>
      cases n with
      | integer k inRange => simp [equals] at second
      | real z lastFinite => exact Binary64.equals_trans first second

end Number

namespace Value

mutual

/-- A value equals itself. -/
theorem equals_self : ∀ v : Value, v.equals v = true
  | .null => rfl
  | .bool b => by simp [equals]
  | .number n => n.equals_self
  | .string s => by simp [equals]
  | .list items => equalsItems_self items
  | .mapping entries => equalsEntries_self entries

/-- Equality of lists is that of their elements one by one. -/
theorem equalsItems_self : ∀ items : List Value, equalsItems items items = true
  | [] => rfl
  | item :: rest => by
    rw [equalsItems, equals_self item, equalsItems_self rest]
    rfl

/-- Equality of mappings is that of their keys and values one by one. -/
theorem equalsEntries_self : ∀ entries : List (String × Value), equalsEntries entries entries = true
  | [] => rfl
  | (key, value) :: rest => by
    rw [equalsEntries, equals_self value, equalsEntries_self rest, beq_self_eq_true]
    rfl

end

mutual

/-- Equality of values does not depend on the order of the two. -/
theorem equals_symm : ∀ {v w : Value}, v.equals w = true → w.equals v = true
  | .null, w, same => by cases w <;> first | rfl | simp [equals] at same
  | .bool a, w, same => by
    cases w with
    | bool b =>
      rw [equals, beq_iff_eq] at same ⊢
      exact same.symm
    | _ => simp [equals] at same
  | .number m, w, same => by
    cases w with
    | number n => exact Number.equals_symm same
    | _ => simp [equals] at same
  | .string s, w, same => by
    cases w with
    | string t =>
      rw [equals, beq_iff_eq] at same ⊢
      exact same.symm
    | _ => simp [equals] at same
  | .list items, w, same => by
    cases w with
    | list others => exact equalsItems_symm same
    | _ => simp [equals] at same
  | .mapping entries, w, same => by
    cases w with
    | mapping others => exact equalsEntries_symm same
    | _ => simp [equals] at same

/-- Equality of lists of values does not depend on the order of the two. -/
theorem equalsItems_symm : ∀ {items others : List Value}, equalsItems items others = true →
    equalsItems others items = true
  | [], others, same => by cases others <;> first | rfl | simp [equalsItems] at same
  | item :: rest, others, same => by
    cases others with
    | nil => simp [equalsItems] at same
    | cons other remaining =>
      rw [equalsItems, Bool.and_eq_true] at same ⊢
      exact ⟨equals_symm same.1, equalsItems_symm same.2⟩

/-- Equality of mappings does not depend on the order of the two, which have the same keys in the same order.
-/
theorem equalsEntries_symm : ∀ {entries others : List (String × Value)},
    equalsEntries entries others = true → equalsEntries others entries = true
  | [], others, same => by cases others <;> first | rfl | simp [equalsEntries] at same
  | (key, value) :: rest, others, same => by
    cases others with
    | nil => simp [equalsEntries] at same
    | cons other remaining =>
      obtain ⟨present, compared⟩ := other
      simp only [equalsEntries, Bool.and_eq_true, beq_iff_eq] at same ⊢
      exact ⟨⟨same.1.1.symm, equals_symm same.1.2⟩, equalsEntries_symm same.2⟩

end

mutual

/-- Values that equal one value equal each other. -/
theorem equals_trans : ∀ {u v w : Value}, u.equals v = true → v.equals w = true → u.equals w = true
  | .null, v, w, first, second => by
    cases v with
    | null => exact second
    | _ => simp [equals] at first
  | .bool a, v, w, first, second => by
    cases v with
    | bool b =>
      obtain rfl : a = b := by simpa [equals] using first
      exact second
    | _ => simp [equals] at first
  | .number l, v, w, first, second => by
    cases v with
    | number m =>
      cases w with
      | number n => exact Number.equals_trans first second
      | _ => simp [equals] at second
    | _ => simp [equals] at first
  | .string s, v, w, first, second => by
    cases v with
    | string t =>
      obtain rfl : s = t := by simpa [equals] using first
      exact second
    | _ => simp [equals] at first
  | .list items, v, w, first, second => by
    cases v with
    | list middle =>
      cases w with
      | list others => exact equalsItems_trans first second
      | _ => simp [equals] at second
    | _ => simp [equals] at first
  | .mapping entries, v, w, first, second => by
    cases v with
    | mapping middle =>
      cases w with
      | mapping others => exact equalsEntries_trans first second
      | _ => simp [equals] at second
    | _ => simp [equals] at first

/-- Lists of values that equal one list equal each other, element by element. -/
theorem equalsItems_trans : ∀ {items middle others : List Value}, equalsItems items middle = true →
    equalsItems middle others = true → equalsItems items others = true
  | [], middle, others, first, second => by
    cases middle with
    | nil => exact second
    | cons item rest => simp [equalsItems] at first
  | item :: rest, middle, others, first, second => by
    cases middle with
    | nil => simp [equalsItems] at first
    | cons between remaining =>
      cases others with
      | nil => simp [equalsItems] at second
      | cons last left =>
        rw [equalsItems, Bool.and_eq_true] at first second ⊢
        exact ⟨equals_trans first.1 second.1, equalsItems_trans first.2 second.2⟩

/-- Mappings that equal one mapping equal each other, entry by entry. -/
theorem equalsEntries_trans : ∀ {entries middle others : List (String × Value)},
    equalsEntries entries middle = true → equalsEntries middle others = true →
      equalsEntries entries others = true
  | [], middle, others, first, second => by
    cases middle with
    | nil => exact second
    | cons item rest => simp [equalsEntries] at first
  | (key, value) :: rest, middle, others, first, second => by
    cases middle with
    | nil => simp [equalsEntries] at first
    | cons between remaining =>
      cases others with
      | nil => simp [equalsEntries] at second
      | cons last left =>
        simp only [equalsEntries, Bool.and_eq_true, beq_iff_eq] at first second ⊢
        exact ⟨⟨first.1.1.trans second.1.1, equals_trans first.1.2 second.1.2⟩,
          equalsEntries_trans first.2 second.2⟩

end

/-- Equality of values is an equivalence, though equal values need not be printed alike. -/
instance : EquivBEq Value where
  rfl := equals_self _
  symm := equals_symm
  trans := equals_trans

end Value

end SettingsForm
