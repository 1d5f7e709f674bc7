import SettingsForm.Files.Store
import SettingsForm.Proofs.Files.Path
import SettingsForm.Proofs.Result

/-!
# Files that are replaced

Where a path leads depends on the directories only, and writing changes no directory. So the places of paths stay
the same while files are written, and a file that was located once can be written until the end.

A path that leads to a file ends in the name of the file (`exists_dotted`), and another name at its end leads to
the same directory (`locate_eq_ok_iff`). This makes it safe to copy a file before it is written: the copy comes
to another place (`locate_backup`, `replaced_old`).
-/

namespace SettingsForm

namespace FileStore

open FilePath

variable {store after : FileStore} {path : String} {directory : List (List Char)}

/-- The places of a store form a tree with files as leaves. -/
structure WellFormed (store : FileStore) : Prop where
  /-- No place is both a directory and a file. -/
  apart : ∀ place, store.isDirectory place → store.content? place = none
  /-- A directory lies in a directory. -/
  closed : ∀ place, store.isDirectory place → store.isDirectory place.dropLast

/-- A file is no directory. -/
theorem WellFormed.isDirectory_eq_false (wellFormed : store.WellFormed) {place : Place} {content : String}
    (stored : store.content? place = some content) : store.isDirectory place = false := by
  refine Bool.eq_false_iff.mpr fun isDirectory => ?_
  rw [wellFormed.apart place isDirectory] at stored
  cases stored

/-! ## Places -/

/-- One can go on from directories, and from nothing else. -/
theorem obstacle?_eq_none_iff {place : Place} : store.obstacle? place = none ↔ store.isDirectory place := by
  rw [obstacle?]
  split
  · simp_all
  · split <;> simp_all

/-- Going along a path in two stretches is going along the first and from there along the second. -/
theorem walk_append (place : Place) (first second : List String) :
    store.walk place (first ++ second) = store.walk place first >>= fun reached => store.walk reached second := by
  induction first generalizing place with
  | nil => rfl
  | cons part rest inductionHypothesis =>
    rw [List.cons_append, walk, walk]
    cases store.obstacle? place with
    | some error => rfl
    | none =>
      simp only [inductionHypothesis]
      split
      · rfl
      · split <;> rfl

/-- One leads to the same place in stores with the same directories. -/
theorem walk_eq_ok_congr (same : ∀ place, after.isDirectory place = store.isDirectory place)
    {start place : Place} {parts : List String} :
    after.walk start parts = .ok place ↔ store.walk start parts = .ok place := by
  induction parts generalizing start with
  | nil => rfl
  | cons part rest inductionHypothesis =>
    have free : after.obstacle? start = none ↔ store.obstacle? start = none := by
      rw [obstacle?_eq_none_iff, obstacle?_eq_none_iff, same]
    rw [walk, walk]
    cases before : store.obstacle? start with
    | some error =>
      obtain ⟨other, stopped⟩ := Option.ne_none_iff_exists'.mp (mt free.mp (by simp [before]))
      simp [stopped]
    | none =>
      simp only [free.mpr before]
      split <;> [skip; split] <;> exact inductionHypothesis

/-- The directory that the first parts of a path lead to. -/
def enter (store : FileStore) (directory : List (List Char)) : Except FileError Place :=
  store.walk (if directory.head? = some [] then [] else store.workingDirectory) (directory.map String.ofList)

/-- A path leads to its directory first, and on from there by its last part. -/
theorem locate_eq {last : List Char} (parts : Split.parts '/' path.toList = directory ++ [last]) :
    store.locate path = store.enter directory >>= fun above => store.walk above [String.ofList last] := by
  have path_eq : path.toList = join (directory ++ [last]) := by rw [← parts, join_parts]
  have plain : ∀ part ∈ directory ++ [last], '/' ∉ part := by
    intro part member
    rw [← parts] at member
    exact Split.not_mem_of_mem_parts member
  have start : path.toList.head? = some '/' ↔ directory.head? = some [] := by
    rw [path_eq]
    exact head?_join plain
  rw [locate, parts, List.map_append, walk_append, enter]
  simp only [start, List.map_cons, List.map_nil]

/-- Where the last part of a path leads from its directory. -/
def step (above : Place) (last : List Char) : Place :=
  if last = [] ∨ last = ['.'] then above
  else if last = ['.', '.'] then above.dropLast
  else above ++ [String.ofList last]

/-- A file name leads one step down. -/
theorem step_regular {name : List Char} (regular : Regular name) (above : Place) :
    step above name = above ++ [String.ofList name] := by
  obtain ⟨given, noPoint, noPoints⟩ := regular
  rw [step, if_neg (not_or.mpr ⟨given, noPoint⟩), if_neg noPoints]

/-- The last part of a path leads to a place if the part before leads to a directory, whether there is
anything at the place or not. -/
theorem walk_last (above : Place) (last : List Char) {place : Place} :
    store.walk above [String.ofList last] = .ok place ↔ store.isDirectory above ∧ place = step above last := by
  have same (text : List Char) : String.ofList last = String.ofList text ↔ last = text := String.ofList_inj
  have stays : (String.ofList last = "" ∨ String.ofList last = ".") ↔ (last = [] ∨ last = ['.']) :=
    or_congr (same []) (same ['.'])
  have returns : String.ofList last = ".." ↔ last = ['.', '.'] := same ['.', '.']
  rw [walk, ← obstacle?_eq_none_iff]
  cases store.obstacle? above with
  | some error => simp
  | none =>
    simp only [stays, returns, walk, step, true_and]
    split <;> [skip; split] <;> rw [Except.ok.injEq, eq_comm]

/-- A path means the place that its last part names in the directory that its other parts lead to. -/
theorem locate_eq_ok_iff {last : List Char} (parts : Split.parts '/' path.toList = directory ++ [last])
    {place : Place} : store.locate path = .ok place ↔
      ∃ above, store.enter directory = .ok above ∧ store.isDirectory above ∧ place = step above last := by
  rw [locate_eq parts, Result.bind_eq_ok_iff]
  exact exists_congr fun above => and_congr_right fun _ => walk_last above last

/-- A path with an extension that leads to no directory ends in a file name. -/
theorem exists_dotted {place : Place} {extension : List Char} (located : store.locate path = .ok place)
    (isFile : store.isDirectory place = false) (found : extension? path.toList = some extension) :
    ∃ directory stem, Dotted path.toList directory stem extension := by
  obtain ⟨directory, last, parts⟩ : ∃ directory last, Split.parts '/' path.toList = directory ++ [last] :=
    ⟨_, _, (List.dropLast_concat_getLast (Split.parts_ne_nil '/' path.toList)).symm⟩
  have regular : Regular last := by
    -- The other last parts stay in the directory before them, or name no file.
    obtain ⟨above, -, isDirectory, reached⟩ := (locate_eq_ok_iff parts).mp located
    have moves : step above last ≠ above := by
      intro stays
      rw [reached, stays, isDirectory] at isFile
      cases isFile
    refine ⟨?_, ?_, ?_⟩ <;> rintro rfl
    · exact moves rfl
    · exact moves rfl
    · rw [extension?, named?_upwards parts] at found
      cases found
  have names : Names path.toList directory last := ⟨parts, regular⟩
  rw [names.extension?_eq] at found
  have split : splitName last = ((splitName last).1, some extension) := by rw [← found]
  obtain ⟨last_eq, given, pointless⟩ := splitName_eq_some_iff.mp split
  exact ⟨directory, (splitName last).1, last_eq ▸ names, given, pointless⟩

/-! ## Operations -/

/-- A path is read just if it means the place of a file, and then that is what is read. -/
theorem read_eq_ok_iff {content : String} : store.read path = .ok content ↔
    ∃ place, store.locate path = .ok place ∧ store.content? place = some content := by
  rw [read, Result.bind_eq_ok_iff]
  refine exists_congr fun place => and_congr_right fun _ => ?_
  cases store.content? place <;> simp

/-- What is read is the content of the place that the path means. -/
theorem content?_of_read {place : Place} {content : String} (located : store.locate path = .ok place)
    (read : store.read path = .ok content) : store.content? place = some content := by
  obtain ⟨same, again, stored⟩ := read_eq_ok_iff.mp read
  rwa [Except.ok.inj (located.symm.trans again)]

/-- A path is written just if it means a place that is no directory, and then the content is put there. -/
theorem write_eq_ok_iff {content : String} : store.write path content = .ok after ↔
    ∃ place, store.locate path = .ok place ∧ store.isDirectory place = false ∧
      store.put place content = after := by
  rw [write, Result.bind_eq_ok_iff]
  refine exists_congr fun place => and_congr_right fun _ => ?_
  cases store.isDirectory place <;> simp

/-- Dropping files by their place does not touch those at other places. -/
theorem lookup_filter_place (keeps : Place → Bool) (files : List (Place × String)) (place : Place) :
    (files.filter fun entry => keeps entry.1).lookup place = if keeps place then files.lookup place else none := by
  induction files with
  | nil => simp
  | cons entry rest inductionHypothesis =>
    obtain ⟨other, content⟩ := entry
    rw [List.filter_cons, List.lookup_cons]
    by_cases same : place = other
    · subst same
      cases kept : keeps place <;> simp [kept, inductionHypothesis]
    · have different : (place == other) = false := beq_eq_false_iff_ne.mpr same
      cases keeps other <;> simp [List.lookup_cons, different, inductionHypothesis]

/-- A place has the content that was put there, and every other place has what it had. -/
theorem content?_put (store : FileStore) (place other : Place) (content : String) :
    (store.put place content).content? other = if other = place then some content else store.content? other := by
  have kept := lookup_filter_place (fun other => other ≠ place) store.files other
  rw [put, content?, List.lookup_cons]
  by_cases same : other = place
  · simp [same]
  · have different : (other == place) = false := beq_eq_false_iff_ne.mpr same
    rw [different, if_neg same]
    exact kept.trans (if_pos (decide_eq_true same))

/-- Putting a content somewhere does not change what paths mean, since directories stay. -/
theorem locate_put (place : Place) (content : String) {reached : Place} :
    (store.put place content).locate path = .ok reached ↔ store.locate path = .ok reached := by
  have same : ∀ other, (store.put place content).isDirectory other = store.isDirectory other := fun _ => rfl
  exact walk_eq_ok_congr same

/-- Writing a file leaves the store well-formed. -/
theorem WellFormed.put (wellFormed : store.WellFormed) {place : Place} (isFile : store.isDirectory place = false)
    (content : String) : (store.put place content).WellFormed where
  apart := by
    intro other isDirectory
    have different : other ≠ place := by
      rintro rfl
      exact Bool.eq_false_iff.mp isFile isDirectory
    rw [content?_put, if_neg different]
    exact wellFormed.apart other isDirectory
  closed := wellFormed.closed

/-- Where a path means a place, nothing is present there just if it is neither a directory nor a file. -/
theorem isPresent_eq_false {located : Place} (found : store.locate path = .ok located) :
    store.isPresent path = .ok false ↔ store.isDirectory located = false ∧ store.content? located = none := by
  simp [isPresent, found]

/-! ## Copies -/

section Copies

variable {place : Place} {stem extension : List Char}

/-- The copy of a file lies in the same directory, at another place. -/
theorem locate_backup (located : store.locate path = .ok place)
    (dotted : Dotted path.toList directory stem extension) (ordinary : stem ≠ ['.']) (seconds : Nat) :
    ∃ above name copyName, place = above ++ [name] ∧
      store.locate (backup path seconds) = .ok (above ++ [copyName]) ∧ copyName ≠ name := by
  have copies := dotted.dotted_backup ordinary seconds
  obtain ⟨above, entered, isDirectory, reached⟩ := (locate_eq_ok_iff dotted.parts).mp located
  rw [step_regular dotted.regular] at reached
  refine ⟨above, _, String.ofList (copyStem stem seconds ++ '.' :: extension), reached, ?_, ?_⟩
  · refine (locate_eq_ok_iff copies.parts).mpr ⟨above, entered, isDirectory, ?_⟩
    rw [step_regular copies.regular]
  · intro same
    exact copyStem_ne stem seconds (List.append_cancel_right (String.ofList_inj.mp same))

/-- The path of the copy of a file whose stem is a single point leads to a directory. -/
theorem isDirectory_backup (wellFormed : store.WellFormed) (dotted : Dotted path.toList directory ['.'] extension)
    {seconds : Nat} (located : store.locate (backup path seconds) = .ok place) : store.isDirectory place := by
  obtain ⟨above, -, isDirectory, rfl⟩ := (locate_eq_ok_iff (dotted.backup_pointed seconds)).mp located
  exact wellFormed.closed above isDirectory

end Copies

/-! ## Replacing a file -/

/-- A text was written to a path, and what was there before was kept under another path. Everything else is as it
was before. -/
structure Replaced (store after : FileStore) (path copy text : String) : Prop where
  written : after.read path = .ok text
  kept : ∀ content, store.read path = .ok content → after.read copy = .ok content
  /-- The copy's place counts as another one if there was nothing to keep. -/
  spared : ∀ place, store.locate path ≠ .ok place →
    ((∃ content, store.read path = .ok content) → store.locate copy ≠ .ok place) →
      after.content? place = store.content? place
  directories : after.directories = store.directories
  workingDirectory : after.workingDirectory = store.workingDirectory

section Replaced

variable {place other : Place} {content : String}

/-- Nothing has to be kept where nothing was. -/
theorem replaced_new (located : store.locate path = .ok place) (nothing : store.content? place = none)
    (copy text : String) : Replaced store (store.put place text) path copy text where
  written := read_eq_ok_iff.mpr ⟨place, (locate_put place text).mpr located, by rw [content?_put, if_pos rfl]⟩
  kept := by
    intro content read
    have stored := content?_of_read located read
    rw [nothing] at stored
    cases stored
  spared := by
    intro elsewhere apart _
    rw [content?_put, if_neg]
    rintro rfl
    exact apart located
  directories := rfl
  workingDirectory := rfl

/-- What was there is kept at another place. -/
theorem replaced_old (located : store.locate path = .ok place) (found : store.content? place = some content)
    {copy : String} (beside : store.locate copy = .ok other) (different : other ≠ place) (text : String) :
    Replaced store ((store.put other content).put place text) path copy text where
  written := by
    refine read_eq_ok_iff.mpr ⟨place, ?_, by rw [content?_put, if_pos rfl]⟩
    rwa [locate_put, locate_put]
  kept := by
    intro previous read
    obtain rfl := Option.some.inj (found.symm.trans (content?_of_read located read))
    refine read_eq_ok_iff.mpr ⟨other, ?_, ?_⟩
    · rwa [locate_put, locate_put]
    · rw [content?_put, if_neg different, content?_put, if_pos rfl]
  spared := by
    intro elsewhere apart alsoApart
    have read : ∃ content, store.read path = .ok content := ⟨content, read_eq_ok_iff.mpr ⟨place, located, found⟩⟩
    rw [content?_put, if_neg, content?_put, if_neg]
    · rintro rfl
      exact alsoApart read beside
    · rintro rfl
      exact apart located
  directories := rfl
  workingDirectory := rfl

end Replaced

end FileStore

end SettingsForm
