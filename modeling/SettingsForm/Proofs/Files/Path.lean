import SettingsForm.Files.Path
import SettingsForm.Proofs.Text.Digits

/-!
# The path of a copy

A path that ends in a file name is the join of its parts, the last of which is the name (`Names`). The extension
is what follows the last point of the name (`Dotted`), and the copy's name only puts something between the stem
and the extension. So the copy lies in the same directory, has the same extension and a longer name, and tells the
seconds (`Dotted.dotted_backup`).

One kind of name is different. If the stem is a single point, cutting the extension off leaves a double point,
which names no file any more; then no extension is put to it, and the path of the copy leads to the directory
above (`Dotted.backup_pointed`).
-/

namespace SettingsForm

namespace Split

variable {separator : Char} {text : List Char}

/-- Parts are those of the standard library, which allows its lemmas on joining to be used. -/
theorem parts_eq_splitOn (separator : Char) (text : List Char) :
    parts separator text = text.splitOn separator := by
  induction text with
  | nil => rfl
  | cons c rest inductionHypothesis =>
    rw [parts, inductionHypothesis, List.splitOn_eq_splitOnP, List.splitOn_eq_splitOnP,
      List.splitOnP_cons_eq_if_modifyHead]
    simp only [beq_iff_eq]
    split
    · rfl
    · cases split : List.splitOnP (· == separator) rest with
      | nil => exact absurd split (List.splitOnP_ne_nil _ _)
      | cons first others => rfl

/-- Even the empty text has one part. -/
theorem parts_ne_nil (separator : Char) (text : List Char) : parts separator text ≠ [] := by
  rw [parts_eq_splitOn]
  exact List.splitOn_ne_nil separator text

/-- No part has the separator in it. -/
theorem not_mem_of_mem_parts {part : List Char} (member : part ∈ parts separator text) : separator ∉ part := by
  induction text generalizing part with
  | nil =>
    obtain rfl := List.mem_singleton.mp member
    exact List.not_mem_nil
  | cons c rest inductionHypothesis =>
    rw [parts] at member
    split at member
    · rcases List.mem_cons.mp member with rfl | later
      · exact List.not_mem_nil
      · exact inductionHypothesis later
    · rename_i other
      split at member
      · rename_i first others split
        rcases List.mem_cons.mp member with rfl | later
        · have plain : separator ∉ first := inductionHypothesis (split ▸ List.mem_cons_self)
          exact List.not_mem_cons_of_ne_of_not_mem (Ne.symm other) plain
        · exact inductionHypothesis (split ▸ List.mem_cons_of_mem first later)
      · rename_i split
        exact absurd split (parts_ne_nil separator rest)

end Split

namespace FilePath

/-! ## Parts -/

/-- Joining puts a slash after each part but the last. -/
theorem join_cons (part : List Char) {rest : List (List Char)} (more : rest ≠ []) :
    join (part :: rest) = part ++ '/' :: join rest := by
  obtain ⟨next, others, rfl⟩ := List.exists_cons_of_ne_nil more
  rw [join, List.intercalate_cons_cons, List.append_assoc]
  rfl

/-- Only the last part of joined parts ends the path. -/
theorem join_append (directory : List (List Char)) (first second : List Char) :
    join (directory ++ [first ++ second]) = join (directory ++ [first]) ++ second := by
  induction directory with
  | nil => simp [join]
  | cons part rest inductionHypothesis =>
    rw [List.cons_append, join_cons part (by simp), inductionHypothesis, List.cons_append,
      join_cons part (by simp), List.append_assoc, List.cons_append]

/-- A path is its parts, joined. -/
theorem join_parts (path : List Char) : join (Split.parts '/' path) = path := by
  rw [Split.parts_eq_splitOn]
  exact List.intercalate_splitOn '/'

/-- Joined parts are the parts of the path, as long as no slash stands in them and there is at least one. -/
theorem parts_join {parts : List (List Char)} (plain : ∀ part ∈ parts, '/' ∉ part) (given : parts ≠ []) :
    Split.parts '/' (join parts) = parts := by
  rw [Split.parts_eq_splitOn]
  exact List.splitOn_intercalate '/' plain given

/-- A path starts at the top just if its first part is empty and not the only one. -/
theorem head?_join {directory : List (List Char)} {last : List Char}
    (plain : ∀ part ∈ directory ++ [last], '/' ∉ part) :
    (join (directory ++ [last])).head? = some '/' ↔ directory.head? = some [] := by
  have other : ∀ {part : List Char}, '/' ∉ part → part.head? ≠ some '/' :=
    fun plain starts => plain (List.mem_of_mem_head? starts)
  cases directory with
  | nil =>
    have start : last.head? ≠ some '/' := other (plain last (by simp))
    simpa [join] using start
  | cons first rest =>
    rw [List.cons_append, join_cons first (by simp)]
    cases first with
    | nil => simp
    | cons c others =>
      have start : (c :: others).head? ≠ some '/' := other (plain (c :: others) (by simp))
      simpa using start

/-! ## Names -/

/-- The part neither stays in a directory nor leads upwards. -/
def Regular (part : List Char) : Prop := part ≠ [] ∧ part ≠ ['.'] ∧ part ≠ ['.', '.']

/-- The path ends in a file name. -/
structure Names (path : List Char) (directory : List (List Char)) (name : List Char) : Prop where
  parts : Split.parts '/' path = directory ++ [name]
  regular : Regular name

/-- The path ends in a file name that is a stem and an extension. -/
structure Dotted (path : List Char) (directory : List (List Char)) (stem extension : List Char) : Prop
    extends Names path directory (stem ++ '.' :: extension) where
  given : stem ≠ []
  pointless : '.' ∉ extension

/-- Another extension for the path follows the stem of the file that the path names, as one expects of replacing an
extension. -/
def KeepsStem (path : List Char) : Prop :=
  ∀ named ∈ named? path, ∀ extension,
    withExtension path extension = join (named.directory ++ [(splitName named.name).1 ++ '.' :: extension])

/-- What follows the last point of a name is its extension, unless the name starts with that point. -/
theorem splitName_point (stem : List Char) {extension : List Char} (plain : '.' ∉ extension) :
    splitName (stem ++ '.' :: extension) =
      if stem = [] then (stem ++ '.' :: extension, none) else (stem, some extension) := by
  have pointless : ∀ c ∈ extension.reverse, decide (c ≠ '.') = true := by
    intro c member
    refine decide_eq_true fun point => plain ?_
    rwa [← point, ← List.mem_reverse]
  have taken : ((stem ++ '.' :: extension).reverse.takeWhile (· ≠ '.')).reverse = extension := by
    rw [List.reverse_append, List.reverse_cons, List.append_assoc, List.takeWhile_append_of_pos pointless,
      List.singleton_append, List.takeWhile_cons_of_neg (by simp), List.append_nil, List.reverse_reverse]
  have length : (stem ++ '.' :: extension).length - extension.length - 1 = stem.length := by
    rw [List.length_append, List.length_cons]
    omega
  simp only [splitName, taken, length, List.take_left]

/-- A name without a point has no extension. -/
theorem splitName_pointless {name : List Char} (plain : '.' ∉ name) : splitName name = (name, none) := by
  have whole : name.reverse.takeWhile (· ≠ '.') = name.reverse := by
    refine List.takeWhile_eq_self_iff.mpr fun c member => decide_eq_true fun point => plain ?_
    rwa [← point, ← List.mem_reverse]
  simp only [splitName, whole, List.reverse_reverse, Nat.sub_self, Nat.zero_sub, List.take_zero, if_pos]

/-- A name with an extension is its stem, a point and the extension. -/
theorem splitName_eq_some_iff {name stem extension : List Char} :
    splitName name = (stem, some extension) ↔
      name = stem ++ '.' :: extension ∧ stem ≠ [] ∧ '.' ∉ extension := by
  constructor
  · intro split
    by_cases point : '.' ∈ name
    · -- The last point is the first one from behind.
      obtain ⟨after, before, reversed, plain⟩ := List.eq_append_cons_of_mem (List.mem_reverse.mpr point)
      have name_eq : name = before.reverse ++ '.' :: after.reverse := by
        rw [← List.reverse_reverse name, reversed]
        simp
      rw [name_eq, splitName_point _ (mt List.mem_reverse.mp plain)] at split
      split at split
      · cases split
      · rename_i given
        obtain ⟨rfl, rfl⟩ : before.reverse = stem ∧ after.reverse = extension := by simpa using split
        exact ⟨name_eq, given, mt List.mem_reverse.mp plain⟩
    · rw [splitName_pointless point] at split
      cases split
  · rintro ⟨rfl, given, plain⟩
    rw [splitName_point stem plain, if_neg given]

/-- A path that ends in a double point names no file. -/
theorem named?_upwards {path : List Char} {directory : List (List Char)}
    (parts : Split.parts '/' path = directory ++ [['.', '.']]) : named? path = none := by
  have dropped : dropIdle (directory ++ [['.', '.']]).reverse = ['.', '.'] :: directory.reverse := by
    rw [List.reverse_append, List.reverse_singleton, List.singleton_append]
    cases directory.reverse <;> rfl
  rw [named?, parts, dropped]
  rfl

namespace Names

variable {path : List Char} {directory : List (List Char)} {name : List Char}

/-- No slash stands in the parts of a path. -/
theorem plain (names : Names path directory name) : ∀ part ∈ directory ++ [name], '/' ∉ part := by
  intro part member
  rw [← names.parts] at member
  exact Split.not_mem_of_mem_parts member

/-- A path that ends in a file name is its directory and that name, joined. -/
theorem path_eq (names : Names path directory name) : path = join (directory ++ [name]) := by
  rw [← names.parts, join_parts]

/-- Another last part in the directory of a file. -/
theorem parts_beside (names : Names path directory name) {other : List Char} (plain : '/' ∉ other) :
    Split.parts '/' (join (directory ++ [other])) = directory ++ [other] := by
  refine parts_join ?_ (by simp)
  intro part member
  rcases List.mem_append.mp member with above | last
  · exact names.plain part (List.mem_append_left _ above)
  · rwa [List.mem_singleton.mp last]

/-- The file name at the end of a path is the one that the path names. -/
theorem named?_eq (names : Names path directory name) : named? path = some ⟨directory, name⟩ := by
  obtain ⟨given, noPoint, noPoints⟩ := names.regular
  have dropped : dropIdle (directory ++ [name]).reverse = name :: directory.reverse := by
    rw [List.reverse_append, List.reverse_singleton, List.singleton_append]
    cases directory.reverse with
    | nil => rw [dropIdle, if_neg given]
    | cons part rest => rw [dropIdle, if_neg (not_or.mpr ⟨given, noPoint⟩)]; exact List.cons_ne_nil _ _
  rw [named?, names.parts, dropped]
  simp only [if_neg (not_or.mpr ⟨noPoint, noPoints⟩), List.reverse_reverse]

/-- The extension of a path is that of the name at its end. -/
theorem extension?_eq (names : Names path directory name) : extension? path = (splitName name).2 := by
  rw [extension?, names.named?_eq]
  rfl

end Names

namespace Dotted

variable {path : List Char} {directory : List (List Char)} {stem extension : List Char}

/-- A stem and an extension are told apart at the point between them. -/
theorem splitName_eq (dotted : Dotted path directory stem extension) :
    splitName (stem ++ '.' :: extension) = (stem, some extension) :=
  splitName_eq_some_iff.mpr ⟨rfl, dotted.given, dotted.pointless⟩

/-- A path that ends in a stem and an extension has that extension. -/
theorem extension?_eq (dotted : Dotted path directory stem extension) : extension? path = some extension := by
  rw [dotted.toNames.extension?_eq, dotted.splitName_eq]

/-- Beside one extension a path can have only one stem. -/
theorem stem_unique (dotted : Dotted path directory stem extension) {other : List Char}
    (again : Dotted path directory other extension) : stem = other := by
  have names : directory ++ [stem ++ '.' :: extension] = directory ++ [other ++ '.' :: extension] :=
    dotted.parts.symm.trans again.parts
  exact List.append_cancel_right (List.cons.inj (List.append_cancel_left names)).1

/-! ## Another extension -/

/-- What is left of a path without its extension: the stem and its point. -/
theorem take_eq (dotted : Dotted path directory stem extension) :
    path.take (path.length - ((extension? path).getD []).length) = join (directory ++ [stem ++ ['.']]) := by
  have path_eq : path = join (directory ++ [stem ++ ['.']]) ++ extension := by
    rw [← join_append, List.append_assoc, List.singleton_append]
    exact dotted.path_eq
  rw [dotted.extension?_eq, Option.getD_some, path_eq, List.length_append, Nat.add_sub_cancel, List.take_left]

/-- Another extension takes the place of the first, unless the stem is a single point: then the name without
extension would be that of the directory above. -/
theorem withExtension_eq (dotted : Dotted path directory stem extension) (ordinary : stem ≠ ['.'])
    (other : List Char) : withExtension path other = join (directory ++ [stem ++ '.' :: other]) := by
  have plain : '/' ∉ stem ++ ['.'] := by
    have together : '/' ∉ stem ++ '.' :: extension := dotted.plain _ (by simp)
    simp only [List.mem_append, List.mem_cons, not_or] at together ⊢
    exact ⟨together.1, together.2.1, List.not_mem_nil⟩
  have regular : Regular (stem ++ ['.']) := by
    refine ⟨by simp, fun single => dotted.given ?_, fun double => ordinary ?_⟩
    · exact List.append_cancel_right (single : stem ++ ['.'] = [] ++ ['.'])
    · exact List.append_cancel_right (double : stem ++ ['.'] = ['.'] ++ ['.'])
  have kept : Dotted (join (directory ++ [stem ++ ['.']])) directory stem [] :=
    ⟨⟨dotted.parts_beside plain, regular⟩, dotted.given, List.not_mem_nil⟩
  rw [withExtension, dotted.take_eq, kept.named?_eq]
  simp only [kept.splitName_eq]

/-- A double point names no file, so nothing is put to it. -/
theorem withExtension_pointed (dotted : Dotted path directory ['.'] extension) (other : List Char) :
    withExtension path other = join (directory ++ [['.', '.']]) := by
  have nameless := named?_upwards (dotted.parts_beside (by decide : '/' ∉ ['.', '.']))
  rw [withExtension, dotted.take_eq]
  simp only [List.singleton_append, nameless]

/-- The stem is kept except if it is a single point. -/
theorem keepsStem_iff (dotted : Dotted path directory stem extension) : KeepsStem path ↔ stem ≠ ['.'] := by
  constructor
  · rintro keeps rfl
    have kept := keeps _ dotted.named?_eq extension
    rw [dotted.withExtension_pointed, dotted.splitName_eq] at kept
    -- The directory is the same, but a name with an extension is no double point.
    have parts := congrArg (Split.parts '/') kept
    rw [dotted.parts_beside (by decide), dotted.parts_beside (dotted.plain _ (by simp))] at parts
    have name_eq := (List.cons.inj (List.append_cancel_left parts)).1
    exact dotted.regular.2.2 name_eq.symm
  · intro ordinary named found other
    obtain rfl := Option.some.inj (dotted.named?_eq.symm.trans found)
    rw [dotted.withExtension_eq ordinary, dotted.splitName_eq]

end Dotted

/-! ## Copies -/

/-- The stem of the copy of a file. -/
def copyStem (stem : List Char) (seconds : Nat) : List Char :=
  stem ++ '.' :: ("bk-".toList ++ Digits.ofNat seconds)

/-- Copies of one file made at different seconds have different stems. -/
theorem copyStem_injective {stem : List Char} {seconds others : Nat}
    (same : copyStem stem seconds = copyStem stem others) : seconds = others := by
  have texts := (List.cons.inj (List.append_cancel_left same)).2
  calc seconds = Digits.toNat (Digits.ofNat seconds) := (Digits.toNat_ofNat seconds).symm
    _ = Digits.toNat (Digits.ofNat others) := by rw [List.append_cancel_left texts]
    _ = others := Digits.toNat_ofNat others

/-- A copy has another stem than its file. -/
theorem copyStem_ne (stem : List Char) (seconds : Nat) : copyStem stem seconds ≠ stem := by
  intro same
  have lengths := congrArg List.length same
  simp only [copyStem, List.length_append, List.length_cons] at lengths
  omega

namespace Dotted

variable {path : String} {directory : List (List Char)} {stem extension : List Char}

/-- The path of a copy is that of its file with another extension, which ends in the extension of the file. -/
theorem backup_eq (dotted : Dotted path.toList directory stem extension) (seconds : Nat) :
    (backup path seconds).toList =
      withExtension path.toList ("bk-".toList ++ Digits.ofNat seconds ++ '.' :: extension) := by
  rw [backup, dotted.extension?_eq, Option.getD_some, String.toList_ofList]

/-- The copy lies beside the file and has its extension. -/
theorem dotted_backup (dotted : Dotted path.toList directory stem extension) (ordinary : stem ≠ ['.'])
    (seconds : Nat) : Dotted (backup path seconds).toList directory (copyStem stem seconds) extension := by
  have name_eq : stem ++ '.' :: ("bk-".toList ++ Digits.ofNat seconds ++ '.' :: extension) =
      copyStem stem seconds ++ '.' :: extension := by simp [copyStem]
  have plain : '/' ∉ copyStem stem seconds ++ '.' :: extension := by
    have together : '/' ∉ stem ++ '.' :: extension := dotted.plain _ (by simp)
    have digits : '/' ∉ Digits.ofNat seconds := by
      intro member
      have digit := List.all_eq_true.mp (Digits.all_ofNat seconds) '/' member
      exact absurd digit (by decide)
    simp only [copyStem, List.mem_append, List.mem_cons, not_or] at together ⊢
    exact ⟨⟨together.1, by decide, by decide, digits⟩, together.2⟩
  have regular : Regular (copyStem stem seconds ++ '.' :: extension) := by
    have member : 'b' ∈ copyStem stem seconds ++ '.' :: extension := by simp [copyStem]
    refine ⟨?_, ?_, ?_⟩ <;> intro same <;> rw [same] at member <;> revert member <;> decide
  refine ⟨⟨?_, regular⟩, by simp [copyStem], dotted.pointless⟩
  rw [dotted.backup_eq, dotted.withExtension_eq ordinary, name_eq]
  exact dotted.parts_beside plain

/-- The copy of a file whose stem is a single point would have to be the directory above. -/
theorem backup_pointed (dotted : Dotted path.toList directory ['.'] extension) (seconds : Nat) :
    Split.parts '/' (backup path seconds).toList = directory ++ [['.', '.']] := by
  rw [dotted.backup_eq, dotted.withExtension_pointed]
  exact dotted.parts_beside (by decide)

example : backup "conf/..json" 42 = "conf/.." := by decide +kernel

/-- A copy lies under another path than its file. -/
theorem backup_ne (dotted : Dotted path.toList directory stem extension) (ordinary : stem ≠ ['.'])
    (seconds : Nat) : backup path seconds ≠ path := by
  intro same
  have copies := dotted.dotted_backup ordinary seconds
  rw [same] at copies
  exact copyStem_ne stem seconds (copies.stem_unique dotted)

/-- Copies that are made in different seconds have different paths. -/
theorem backup_injective (dotted : Dotted path.toList directory stem extension) (ordinary : stem ≠ ['.'])
    {seconds others : Nat} (same : backup path others = backup path seconds) : others = seconds := by
  have copies := dotted.dotted_backup ordinary others
  rw [same] at copies
  exact copyStem_injective (copies.stem_unique (dotted.dotted_backup ordinary seconds))

end Dotted

end FilePath

end SettingsForm
