import SettingsForm.Proofs.Store.IndexedKey
import SettingsForm.Proofs.Store.Layers

/-!
# Indexes in use

An index of a name is in use in a store if some layer holds its key. Since the key of a name and an index is read
as these, the keys that a store holds tell which indexes are in use. They are listed in ascending order, each with
the value in effect for its key (`mem_indexed_iff`), and the next index lies above all of them unless the largest
one is taken (`indexed_exact`). This holds of every store, whatever commits and dismissals made it what it is.
-/

namespace SettingsForm

namespace Mapping

/-- A mapping has a key just if it has a value for it. -/
theorem mem_keys_iff {key : String} {m : Mapping} : key ∈ keys m ↔ (get? key m).isSome = true := by
  induction m with
  | nil => simp [keys, get?]
  | cons entry rest inductionHypothesis =>
    obtain ⟨present, stored⟩ := entry
    have later : key ∈ rest.map Prod.fst ↔ (get? key rest).isSome = true := inductionHypothesis
    by_cases same : present = key
    · simp [keys, get?, same]
    · simp [keys, get?, same, later, Ne.symm same]

end Mapping

namespace Store

variable {store : Store} {name : String}

/-- Inserting an entry adds it, if no entry with its index has another value. -/
theorem mem_insertEntry {new entry : Nat × Value} {found : List (Nat × Value)}
    (agree : ∀ other ∈ found, other.1 = new.1 → other = new) :
    entry ∈ insertEntry new found ↔ entry = new ∨ entry ∈ found := by
  induction found with
  | nil => simp [insertEntry]
  | cons first rest inductionHypothesis =>
    obtain ⟨here, later⟩ := List.forall_mem_cons.mp agree
    rw [insertEntry]
    split
    · exact List.mem_cons
    · split
      · rename_i same
        obtain rfl := here same.symm
        simp
      · simp only [List.mem_cons, inductionHypothesis later]
        exact or_left_comm

/-- Whatever is listed after an insertion is the new entry or was listed before. -/
theorem of_mem_insertEntry {new entry : Nat × Value} {found : List (Nat × Value)}
    (member : entry ∈ insertEntry new found) : entry = new ∨ entry ∈ found := by
  induction found with
  | nil => exact Or.inl (List.mem_singleton.mp member)
  | cons first rest inductionHypothesis =>
    rw [insertEntry] at member
    split at member
    · exact List.mem_cons.mp member
    · split at member
      · exact (List.mem_cons.mp member).imp_right (List.mem_cons_of_mem first)
      · rcases List.mem_cons.mp member with rfl | listed
        · exact Or.inr List.mem_cons_self
        · exact (inductionHypothesis listed).imp_right (List.mem_cons_of_mem first)

/-- Inserting an entry keeps the indexes ascending. -/
theorem ascending_insertEntry {new : Nat × Value} {found : List (Nat × Value)}
    (ascending : found.Pairwise fun entry later => entry.1 < later.1) :
    (insertEntry new found).Pairwise fun entry later => entry.1 < later.1 := by
  induction found with
  | nil => exact List.pairwise_singleton _ new
  | cons first rest inductionHypothesis =>
    obtain ⟨least, others⟩ := List.pairwise_cons.mp ascending
    rw [insertEntry]
    split
    · rename_i below
      refine List.pairwise_cons.mpr ⟨?_, ascending⟩
      exact List.forall_mem_cons.mpr ⟨below, fun entry member => Nat.lt_trans below (least entry member)⟩
    · split
      · rename_i same
        exact List.pairwise_cons.mpr ⟨fun entry member => same ▸ least entry member, others⟩
      · refine List.pairwise_cons.mpr ⟨?_, inductionHypothesis others⟩
        intro entry member
        rcases of_mem_insertEntry member with rfl | later
        · omega
        · exact least entry later

/-- Collecting entries lists them all, if entries with the same index have the same value. -/
theorem mem_collected {entry : Nat × Value} {entries found : List (Nat × Value)}
    (agree : ∀ first ∈ found ++ entries, ∀ second ∈ found ++ entries, first.1 = second.1 → first = second) :
    entry ∈ entries.foldl (fun found entry => insertEntry entry found) found ↔
      entry ∈ found ∨ entry ∈ entries := by
  induction entries generalizing found with
  | nil => simp
  | cons new rest inductionHypothesis =>
    have own : ∀ other ∈ found, other.1 = new.1 → other = new := fun other member same =>
      agree other (List.mem_append_left _ member) new (List.mem_append_right _ List.mem_cons_self) same
    have among : ∀ other ∈ insertEntry new found ++ rest, other ∈ found ++ new :: rest := by
      intro other member
      rcases List.mem_append.mp member with inserted | later
      · rcases (mem_insertEntry own).mp inserted with rfl | earlier
        · exact List.mem_append_right _ List.mem_cons_self
        · exact List.mem_append_left _ earlier
      · exact List.mem_append_right _ (List.mem_cons_of_mem new later)
    rw [List.foldl_cons, inductionHypothesis fun first member second alsoMember =>
      agree first (among first member) second (among second alsoMember), mem_insertEntry own, List.mem_cons,
      or_assoc]
    exact or_left_comm

/-- Collected entries have ascending indexes. -/
theorem ascending_collected (entries : List (Nat × Value)) {found : List (Nat × Value)}
    (ascending : found.Pairwise fun entry later => entry.1 < later.1) :
    (entries.foldl (fun found entry => insertEntry entry found) found).Pairwise
      fun entry later => entry.1 < later.1 := by
  induction entries generalizing found with
  | nil => exact ascending
  | cons new rest inductionHypothesis => exact inductionHypothesis (ascending_insertEntry ascending)

/-- A key has a value in effect just if one of the layers holds it. -/
theorem isSome_get?_iff {key : String} : (store.get? key).isSome = true ↔
    key ∈ Mapping.keys store.fallback ++ Mapping.keys store.input ++ Mapping.keys store.edits := by
  simp only [get?_eq, List.mem_append, Mapping.mem_keys_iff, Option.isSome_or, Bool.or_eq_true]
  rw [or_comm, or_comm (a := (Mapping.get? key store.edits).isSome = true), or_assoc]

/-- A key contributes an entry just if it is the key of the name and the index, and has the value. -/
theorem contribution?_eq_some_iff {key : String} {index : Nat} {value : Value} :
    store.contribution? name key = some (index, value) ↔
      IndexedKey.decode? key = some ⟨name, index⟩ ∧ store.get? key = some value := by
  rw [contribution?, Option.bind_eq_bind, Option.bind_eq_some_iff]
  constructor
  · rintro ⟨decoded, read, named⟩
    obtain ⟨rfl, entered⟩ := Option.ite_none_right_eq_some.mp named
    obtain ⟨_, held, same⟩ := Option.bind_eq_some_iff.mp entered
    obtain ⟨rfl, rfl⟩ := Prod.mk.inj (Option.some.inj same)
    exact ⟨read, held⟩
  · rintro ⟨read, held⟩
    exact ⟨_, read, by simp [held]⟩

/-- Two keys that contribute an entry with the same index are the same key, since the index and the name spell
it. So they contribute the same entry. -/
theorem contribution?_unique {key other : String} {first second : Nat × Value}
    (entered : store.contribution? name key = some first)
    (alsoEntered : store.contribution? name other = some second) (same : first.1 = second.1) :
    first = second := by
  obtain ⟨read, held⟩ := contribution?_eq_some_iff.mp entered
  obtain ⟨alsoRead, alsoHeld⟩ := contribution?_eq_some_iff.mp alsoEntered
  have encoded := IndexedKey.encode?_of_decode? read
  have alsoEncoded := IndexedKey.encode?_of_decode? alsoRead
  rw [same, alsoEncoded] at encoded
  obtain rfl := Option.some.inj encoded
  rw [held] at alsoHeld
  exact Prod.ext same (Option.some.inj alsoHeld)

/-- An index is listed with a value just if that value is in effect for the key of the name and the index. -/
theorem mem_indexed_iff {index : Nat} {value : Value} : (index, value) ∈ store.indexed name ↔
    ∃ key, IndexedKey.encode? name index = some key ∧ index ≤ IndexedKey.largest ∧ store.get? key = some value := by
  have agree (keys : List String) : ∀ first ∈ keys.filterMap (store.contribution? name),
      ∀ second ∈ keys.filterMap (store.contribution? name), first.1 = second.1 → first = second := by
    intro first member second alsoMember
    obtain ⟨key, -, entered⟩ := List.mem_filterMap.mp member
    obtain ⟨other, -, alsoEntered⟩ := List.mem_filterMap.mp alsoMember
    exact contribution?_unique entered alsoEntered
  rw [indexed, mem_collected (agree _), List.mem_filterMap]
  simp only [List.not_mem_nil, false_or, contribution?_eq_some_iff]
  constructor
  · rintro ⟨key, -, read, held⟩
    exact ⟨key, IndexedKey.encode?_of_decode? read, IndexedKey.le_largest_of_decode? read, held⟩
  · rintro ⟨key, encoded, bounded, held⟩
    have present : (store.get? key).isSome = true := by rw [held]; rfl
    exact ⟨key, isSome_get?_iff.mp present, IndexedKey.decode?_of_encode? bounded encoded, held⟩

/-- Entries are listed by ascending index. -/
theorem ascending_indexed (store : Store) (name : String) :
    (store.indexed name).Pairwise (fun entry later => entry.1 < later.1) :=
  ascending_collected _ .nil

/-- The index that is listed last is the largest one in use. -/
theorem le_of_getLast?_indexed {index highest : Nat} {value last : Value}
    (final : (store.indexed name).getLast? = some (highest, last)) (listed : (index, value) ∈ store.indexed name) :
    index ≤ highest := by
  obtain ⟨earlier, split⟩ := List.getLast?_eq_some_iff.mp final
  have ascending := ascending_indexed store name
  rw [split] at listed ascending
  rcases List.mem_append.mp listed with before | same
  · exact Nat.le_of_lt ((List.pairwise_append.mp ascending).2.2 _ before _ List.mem_cons_self)
  · obtain ⟨rfl, -⟩ := Prod.mk.inj (List.mem_singleton.mp same)
    exact Nat.le_refl index

/-- The next index lies above every index that is listed, unless the largest one is. -/
theorem beyond_of_mem_indexed {index : Nat} {value : Value} (listed : (index, value) ∈ store.indexed name) :
    match store.nextIndex? name with
    | some next => index < next
    | none => ∃ last, (IndexedKey.largest, last) ∈ store.indexed name := by
  cases final : (store.indexed name).getLast? with
  | none =>
    rw [List.getLast?_eq_none_iff.mp final] at listed
    cases listed
  | some entry =>
    obtain ⟨highest, last⟩ := entry
    have most := le_of_getLast?_indexed final listed
    have present := List.mem_of_getLast? final
    obtain ⟨-, -, bounded, -⟩ := mem_indexed_iff.mp present
    rw [nextIndex?, final]
    by_cases room : highest + 1 < 0x10000000000000000
    · simp only [room, if_true]
      exact Nat.lt_succ_of_le most
    · have taken : highest = IndexedKey.largest := by
        rw [IndexedKey.largest] at bounded ⊢
        omega
      simp only [room, if_false]
      exact ⟨last, taken ▸ present⟩

/-- An index is in use for a name if some layer holds the key of the two. -/
def InUse (store : Store) (name : String) (index : Nat) : Prop :=
  index ≤ IndexedKey.largest ∧ ∃ key, IndexedKey.encode? name index = some key ∧
    (key ∈ Mapping.keys store.edits ∨ key ∈ Mapping.keys store.input ∨ key ∈ Mapping.keys store.fallback)

/-- The indexes in use are those that are listed. -/
theorem inUse_iff {index : Nat} : store.InUse name index ↔ ∃ value, (index, value) ∈ store.indexed name := by
  have held : ∀ key, (key ∈ Mapping.keys store.edits ∨ key ∈ Mapping.keys store.input ∨
      key ∈ Mapping.keys store.fallback) ↔ ∃ value, store.get? key = some value := by
    intro key
    rw [← Option.isSome_iff_exists, isSome_get?_iff, List.mem_append, List.mem_append]
    tauto
  simp only [InUse, held, mem_indexed_iff]
  constructor
  · rintro ⟨bounded, key, encoded, value, present⟩
    exact ⟨value, key, encoded, bounded, present⟩
  · rintro ⟨value, key, encoded, bounded, present⟩
    exact ⟨bounded, key, encoded, value, present⟩

/-- The next index is one that a key can spell. -/
theorem nextIndex?_le_largest {next : Nat} (found : store.nextIndex? name = some next) :
    next ≤ IndexedKey.largest := by
  rw [nextIndex?] at found
  split at found
  · rw [← Option.some.inj found]
    exact Nat.zero_le _
  · obtain ⟨room, same⟩ := Option.ite_none_right_eq_some.mp found
    rw [← Option.some.inj same]
    exact Nat.le_of_lt_succ room

/-- The next index lies above every index in use. -/
theorem lt_nextIndex? {next index : Nat} (found : store.nextIndex? name = some next)
    (used : store.InUse name index) : index < next := by
  obtain ⟨value, listed⟩ := inUse_iff.mp used
  have beyond := beyond_of_mem_indexed listed
  rwa [found] at beyond

/-- There is no next index just if the largest one is in use. -/
theorem nextIndex?_eq_none_iff : store.nextIndex? name = none ↔ store.InUse name IndexedKey.largest := by
  constructor
  · intro exhausted
    cases final : (store.indexed name).getLast? with
    | none =>
      rw [nextIndex?, final] at exhausted
      cases exhausted
    | some entry =>
      have beyond := beyond_of_mem_indexed (List.mem_of_getLast? final)
      rw [exhausted] at beyond
      exact inUse_iff.mpr beyond
  · intro used
    cases found : store.nextIndex? name with
    | none => rfl
    | some next => exact absurd (lt_nextIndex? found used) (Nat.not_lt.mpr (nextIndex?_le_largest found))

/-- The entries of a name are those of its keys that have a value in effect, once each and by ascending index. The
next index is above all indexes in use, and no layer holds its key; there is none just if the largest index is in
use. -/
theorem indexed_exact (store : Store) (name : String) :
    (store.indexed name).Pairwise (fun entry later => entry.1 < later.1) ∧
      (∀ index value, (index, value) ∈ store.indexed name ↔
        index ≤ IndexedKey.largest ∧ ∃ key, IndexedKey.encode? name index = some key ∧ store.get? key = some value) ∧
      (store.nextIndex? name = none ↔ store.InUse name IndexedKey.largest) ∧
      ∀ next, store.nextIndex? name = some next → next ≤ IndexedKey.largest ∧
        (∀ index, store.InUse name index → index < next) ∧
        ∀ key, IndexedKey.encode? name next = some key → key ∉ Mapping.keys store.edits ∧
          key ∉ Mapping.keys store.input ∧ key ∉ Mapping.keys store.fallback := by
  refine ⟨ascending_indexed store name, ?_, nextIndex?_eq_none_iff, ?_⟩
  · intro index value
    rw [mem_indexed_iff]
    exact ⟨fun ⟨key, encoded, bounded, held⟩ => ⟨bounded, key, encoded, held⟩,
      fun ⟨bounded, key, encoded, held⟩ => ⟨key, encoded, bounded, held⟩⟩
  · intro next found
    have bounded := nextIndex?_le_largest found
    refine ⟨bounded, fun index used => lt_nextIndex? found used, ?_⟩
    intro key encoded
    -- Were the key held by some layer, the next index would be in use and so lie above itself.
    have fresh : ¬ (key ∈ Mapping.keys store.edits ∨ key ∈ Mapping.keys store.input ∨
        key ∈ Mapping.keys store.fallback) := fun held =>
      Nat.lt_irrefl next (lt_nextIndex? found ⟨bounded, key, encoded, held⟩)
    rwa [not_or, not_or] at fresh

/-- Keys are listed by number and not as texts, and the next index comes after the largest of them. -/
example :
    let store := Store.ofValues [("phone10", .bool true), ("phone2", .null)] [("phone2", .bool false)]
    store.indexed "phone" = [(2, .null), (10, .bool true)] ∧ store.nextIndex? "phone" = some 11 :=
  ⟨by rfl, by rfl⟩

end Store

end SettingsForm
