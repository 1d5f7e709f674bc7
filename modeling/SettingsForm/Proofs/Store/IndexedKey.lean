import Mathlib.Logic.ExistsUnique
import SettingsForm.Proofs.Text.Digits
import SettingsForm.Store.IndexedKey

/-!
# Keys that carry an index

The digits of an index stop where the name starts, since a name does not end in a digit; so the key of a name
and an index is read as these (`IndexedKey.decode?_of_encode?`). Conversely a key that is read has no superfluous
zero in front of its digits, and so it is put together again from what was read (`IndexedKey.encode?_of_decode?`).
Names and indexes therefore correspond to keys one to one (`IndexedKey.unambiguous`).

Only the ten ASCII digits count. A name may end in any other character, digits of other scripts included.
-/

namespace SettingsForm

namespace IndexedKey

/-- The largest index that a key can carry. -/
def largest : Nat := 0xFFFFFFFFFFFFFFFF

/-- A name ends in a character that is not a digit. -/
theorem ends_of_isName {name : List Char} (named : isName name = true) :
    ∃ start c, name = start ++ [c] ∧ Digits.isDigit c = false := by
  rw [isName] at named
  split at named
  · rename_i c last
    obtain ⟨start, rfl⟩ := List.getLast?_eq_some_iff.mp last
    exact ⟨start, c, rfl, by simpa using named⟩
  · cases named

/-- The digits after a name are taken off it as a whole. -/
theorem splitTrailing_append {name digits : List Char} (named : isName name = true)
    (all : digits.all Digits.isDigit = true) : splitTrailing (name ++ digits) = (name, digits) := by
  obtain ⟨start, c, rfl, stops⟩ := ends_of_isName named
  have run : ∀ d ∈ digits.reverse, Digits.isDigit d = true := fun d member =>
    List.all_eq_true.mp all d (List.mem_reverse.mp member)
  have reversed : (start ++ [c] ++ digits).reverse = digits.reverse ++ c :: start.reverse := by simp
  simp only [splitTrailing, reversed, List.dropWhile_append_of_pos run, List.takeWhile_append_of_pos run,
    List.dropWhile_cons, List.takeWhile_cons, stops, Bool.false_eq_true, if_false, List.append_nil,
    List.reverse_cons, List.reverse_reverse]

/-- The key of a name and an index is read as these. -/
theorem decode?_of_encode? {name key : String} {index : Nat} (bounded : index ≤ largest)
    (encoded : encode? name index = some key) : decode? key = some ⟨name, index⟩ := by
  obtain ⟨named, written⟩ := Option.ite_none_right_eq_some.mp encoded
  obtain rfl := Option.some.inj written
  have split := splitTrailing_append named (Digits.all_ofNat index)
  obtain ⟨start, c, ends, -⟩ := ends_of_isName named
  have some_ : name.toList ≠ [] := by simp [ends]
  have digits : Digits.ofNat index ≠ [] := Nat.toDigits_ne_nil
  have canonical : ¬(1 < (Digits.ofNat index).length ∧ (Digits.ofNat index).head? = some '0') :=
    fun zeros => Digits.head?_ofNat zeros.1 zeros.2
  have fits : ¬ 0x10000000000000000 ≤ index := Nat.not_le.mpr (Nat.lt_succ_of_le bounded)
  simp only [decode?, String.toList_ofList, split, Digits.toNat_ofNat, some_, digits, canonical, fits, false_or,
    if_false, String.ofList_toList]

/-- An index that is read is not too large. -/
theorem le_largest_of_decode? {key : String} {parts : IndexedKey} (decoded : decode? key = some parts) :
    parts.index ≤ largest := by
  simp only [decode?] at decoded
  obtain ⟨sound, read⟩ := Option.ite_none_left_eq_some.mp decoded
  obtain rfl := Option.some.inj read
  simp only [not_or, Nat.not_le] at sound
  exact Nat.le_of_lt_succ sound.2.2.2

/-- A name is not empty and its last character is not a digit. -/
theorem isName_iff {name : List Char} :
    isName name = true ↔ name ≠ [] ∧ ∀ c, name.getLast? = some c → c.isDigit = false := by
  rw [isName]
  cases last : name.getLast? with
  | none => simpa using List.getLast?_eq_none_iff.mp last
  | some c =>
    have given : name ≠ [] := fun empty => by simp [empty] at last
    simp [given, Digits.isDigit_eq]

/-- The key of a name and an index is the name with the digits of the index after it. -/
theorem encode?_eq_some_iff {name key : String} {index : Nat} : encode? name index = some key ↔
    (name ≠ "" ∧ ∀ c, name.toList.getLast? = some c → c.isDigit = false) ∧ key = name ++ toString index := by
  have text : name ++ toString index = String.ofList (name.toList ++ Digits.ofNat index) := by
    rw [String.ofList_append, String.ofList_toList, Nat.toString_eq_ofList_toDigits, Digits.ofNat]
  rw [encode?, Option.ite_none_right_eq_some, isName_iff, Option.some.injEq, text, eq_comm (a := key),
    ne_eq, ne_eq, String.toList_eq_nil_iff]

/-- What is taken off the end of a text are its last digits, and what stays does not end in a digit. -/
theorem splitTrailing_parts {text name digits : List Char} (split : splitTrailing text = (name, digits)) :
    name ++ digits = text ∧ digits.all Digits.isDigit = true ∧ (name ≠ [] → isName name = true) := by
  obtain ⟨rfl, rfl⟩ := Prod.mk.inj split
  refine ⟨?_, ?_, ?_⟩
  · rw [← List.reverse_append, List.takeWhile_append_dropWhile, List.reverse_reverse]
  · rw [List.all_reverse]
    exact List.all_takeWhile
  · intro given
    have stops := List.head?_dropWhile_not Digits.isDigit text.reverse
    rw [isName, List.getLast?_reverse]
    cases first : (text.reverse.dropWhile Digits.isDigit).head? with
    | none => exact absurd (List.reverse_eq_nil_iff.mpr (List.head?_eq_none_iff.mp first)) given
    | some c =>
      rw [first] at stops
      simpa using stops

/-- A key that is read as a name and an index is the key of these. -/
theorem encode?_of_decode? {key : String} {parts : IndexedKey} (decoded : decode? key = some parts) :
    encode? parts.name parts.index = some key := by
  cases split : splitTrailing key.toList with
  | mk name digits =>
    simp only [decode?, split] at decoded
    obtain ⟨sound, read⟩ := Option.ite_none_left_eq_some.mp decoded
    obtain rfl := Option.some.inj read
    simp only [not_or] at sound
    obtain ⟨given, several, canonical, -⟩ := sound
    obtain ⟨whole, all, named⟩ := splitTrailing_parts split
    rw [encode?, String.toList_ofList, if_pos (named given), Digits.ofNat_toNat several all canonical, whole,
      String.ofList_toList]

/-- A key is read as a name and an index just if it is the key of these. -/
theorem decode?_eq_some_iff {key : String} {parts : IndexedKey} :
    decode? key = some parts ↔ parts.index ≤ largest ∧ encode? parts.name parts.index = some key := by
  constructor
  · intro decoded
    exact ⟨le_largest_of_decode? decoded, encode?_of_decode? decoded⟩
  · rintro ⟨bounded, encoded⟩
    exact decode?_of_encode? bounded encoded

/-- Names and indexes correspond to keys one to one. Just the names that are not empty and do not end in a digit
have keys; a key is read as a name and an index just if it is the key of these; and a key that is read at all is
the key of no other name and index. -/
theorem unambiguous :
    (∀ name index key, encode? name index = some key ↔
      (name ≠ "" ∧ ∀ c, name.toList.getLast? = some c → c.isDigit = false) ∧ key = name ++ toString index) ∧
      (∀ name index key, decode? key = some ⟨name, index⟩ ↔
        index ≤ largest ∧ encode? name index = some key) ∧
      ∀ key, (decode? key).isSome = true ↔
        ∃! parts : IndexedKey, parts.index ≤ largest ∧ encode? parts.name parts.index = some key := by
  refine ⟨fun _ _ _ => encode?_eq_some_iff, fun _ _ _ => decode?_eq_some_iff, ?_⟩
  intro key
  constructor
  · intro read
    obtain ⟨parts, decoded⟩ := Option.isSome_iff_exists.mp read
    refine ⟨parts, decode?_eq_some_iff.mp decoded, ?_⟩
    intro other reading
    have also := decode?_eq_some_iff.mpr reading
    rw [decoded] at also
    exact (Option.some.inj also).symm
  · rintro ⟨parts, reading, -⟩
    rw [decode?_eq_some_iff.mpr reading, Option.isSome_some]

/-- All digits at the end belong to the index. A superfluous zero, a missing name and a number that is too large
leave a key without a reading. -/
example : decode? "phone10" = some ⟨"phone", 10⟩ ∧ decode? "phone010" = none ∧ decode? "10" = none ∧
    decode? "phone18446744073709551616" = none := by decide

end IndexedKey

end SettingsForm
