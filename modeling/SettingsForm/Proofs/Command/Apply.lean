import SettingsForm.Command.Run
import SettingsForm.Proofs.Command.Documents
import SettingsForm.Proofs.Files.Store

/-!
# Assignments are applied without losing a file

Everything up to the edits only reads files. Saving the edits checks first that they can be written, then copies the
file that is there, and writes last. The copy comes to another place, so that once it is made, the file itself can
be written. So no run loses a file (`Command.apply_safe`).

Some paths do not keep the stem when they are given another extension (`FilePath.KeepsStem`). Then the path of the
copy leads to a directory, which cannot be written. So the file there is not replaced, and edits are saved under
such a path only if there is nothing yet.
-/

namespace SettingsForm

open Attempt

namespace Command

variable {store : FileStore} {form : String} {files : ValueFiles} {config : Option String}
  {assignments : List Assignment}

/-- The documents of a form hold what a script with the assignments turns into edits. -/
def Computes (store : FileStore) (form : String) (files : ValueFiles) (config : Option String)
    (assignments : List Assignment) (edits : Mapping) : Prop :=
  ∃ settings groups values fallback,
    Yields store (Documents.loadConfig config) settings ∧ Yields store (Documents.loadForm form) groups ∧
      Yields store (Documents.loadValues files.values) values ∧
        Yields store (Documents.loadValues files.defaults) fallback ∧
          Script.run groups values fallback settings assignments = .ok edits

/-- Computing the edits only reads: the form, the values and the configuration are loaded, and then the script
is run in memory. -/
theorem reads_computeEdits (form : String) (files : ValueFiles) (config : Option String)
    (assignments : List Assignment) : Reads (computeEdits form files config assignments) := by
  refine (Documents.reads_loadConfig config).bind fun settings => ?_
  refine (Documents.reads_loadForm form).bind fun groups => ?_
  refine (Documents.reads_loadValues files.values).bind fun values => ?_
  refine (Documents.reads_loadValues files.defaults).bind fun fallback => ?_
  exact (reads_ofResult _ _).bind fun edits => reads_pure _

/-- What is computed are the edits of the script, as a mapping. -/
theorem yields_computeEdits {value : Value} (yields : Yields store (computeEdits form files config assignments) value) :
    ∃ edits, Computes store form files config assignments edits ∧ value = .mapping edits := by
  rw [computeEdits, (Documents.reads_loadConfig config).yields_bind_iff] at yields
  obtain ⟨settings, configured, yields⟩ := yields
  rw [(Documents.reads_loadForm form).yields_bind_iff] at yields
  obtain ⟨groups, shown, yields⟩ := yields
  rw [(Documents.reads_loadValues files.values).yields_bind_iff] at yields
  obtain ⟨values, given, yields⟩ := yields
  rw [(Documents.reads_loadValues files.defaults).yields_bind_iff] at yields
  obtain ⟨fallback, standing, yields⟩ := yields
  rw [(reads_ofResult _ _).yields_bind_iff] at yields
  obtain ⟨edits, ran, same⟩ := yields
  rw [yields_ofResult] at ran
  exact ⟨edits, ⟨settings, groups, values, fallback, configured, shown, given, standing, ran⟩,
    (Except.ok.inj same).symm⟩

end Command

/-! ## Saving edits -/

open FilePath

/-- The path that the copy of a file has. -/
structure Beside (store : FileStore) (path : String) (seconds : Nat) : Prop where
  differs : backup path seconds ≠ path
  directory : (named? (backup path seconds).toList).map Named.directory = (named? path.toList).map Named.directory
  format : Format.ofPath (backup path seconds) = Format.ofPath path
  /-- Both paths lead to the same directory, and there to different names. -/
  located : ∃ above name copyName, store.locate path = .ok (above ++ [name]) ∧
    store.locate (backup path seconds) = .ok (above ++ [copyName]) ∧ copyName ≠ name
  injective : ∀ others, backup path others = backup path seconds → others = seconds

/-- What saving a value under a path does. -/
structure Saved (store after : FileStore) (path : String) (seconds : Nat) (value : Value) : Prop where
  /-- The value is written in the format of the path, and what was there before is kept. -/
  replaced : ∃ format text, Format.ofPath path = .ok format ∧ Document.render format value = .ok text ∧
    store.Replaced after path (backup path seconds) text
  /-- What is kept is kept beside the file. If nothing has to be kept, the path for copies lies beside the file as
  well, provided that another extension follows the stem of the path. -/
  beside : (∃ content, store.read path = .ok content) ∨ KeepsStem path.toList → Beside store path seconds
  wellFormed : after.WellFormed

/-- A path whose format is known has an extension, since the format is told by it. -/
theorem extension?_of_format {path : String} {format : Format} (formatted : Format.ofPath path = .ok format) :
    ∃ extension, extension? path.toList = some extension := by
  cases found : extension? path.toList with
  | some extension => exact ⟨extension, rfl⟩
  | none =>
    rw [Format.ofPath, found] at formatted
    cases formatted

/-- The copy of a file with an extension lies beside it, in the same format and under another name for every
second. -/
theorem beside_backup {store : FileStore} {path : String} {place : Place} {directory : List (List Char)}
    {stem extension : List Char} (located : store.locate path = .ok place)
    (dotted : Dotted path.toList directory stem extension) (ordinary : stem ≠ ['.']) (seconds : Nat) :
    Beside store path seconds := by
  obtain ⟨above, name, copyName, rfl, copied, different⟩ :=
    FileStore.locate_backup located dotted ordinary seconds
  have copies := dotted.dotted_backup ordinary seconds
  exact {
    differs := dotted.backup_ne ordinary seconds
    directory := by rw [copies.named?_eq, dotted.named?_eq]; rfl
    format := by rw [Format.ofPath, Format.ofPath, copies.extension?_eq, dotted.extension?_eq]
    located := ⟨above, name, copyName, located, copied, different⟩
    injective := fun others => dotted.backup_injective ordinary }

/-- Saving is safe. Everything that can fail is done before the file is written, and what was there is copied
before. -/
theorem Documents.save_safe {store : FileStore} (wellFormed : store.WellFormed) (path : String) (seconds : Nat)
    (value : Value) : Safe store (save path seconds value) fun _ after => Saved store after path seconds value := by
  refine (reads_ofResult _ _).safe_bind fun format formatted => ?_
  refine (reads_ofResult _ _).safe_bind fun text rendered => ?_
  refine (reads_perform _ fun _ => rfl).safe_bind fun present presence => ?_
  rw [yields_ofResult] at formatted rendered
  rw [yields_perform] at presence
  obtain ⟨extension, found⟩ := extension?_of_format formatted
  cases present with
  | false =>
    refine (safe_commit _ ?_).map _ fun _ _ saved => saved
    intro after written
    obtain ⟨place, located, isFile, rfl⟩ := FileStore.write_eq_ok_iff.mp written
    obtain ⟨-, empty⟩ := (FileStore.isPresent_eq_false located).mp presence
    obtain ⟨directory, stem, dotted⟩ := FileStore.exists_dotted located isFile found
    have replaced := FileStore.replaced_new located empty (backup path seconds) text
    refine ⟨⟨format, text, formatted, rendered, replaced⟩, ?_, wellFormed.put isFile text⟩
    rintro (⟨content, read⟩ | keeps)
    · have stored := FileStore.content?_of_read located read
      rw [empty] at stored
      cases stored
    · exact beside_backup located dotted (dotted.keepsStem_iff.mp keeps) seconds
  | true =>
    refine safe_commit_bind _ fun middle copied => ?_
    obtain ⟨content, read, kept⟩ := Result.bind_eq_ok_iff.mp copied
    obtain ⟨place, located, stored⟩ := FileStore.read_eq_ok_iff.mp read
    obtain ⟨other, copyLocated, copyIsFile, rfl⟩ := FileStore.write_eq_ok_iff.mp kept
    have isFile := wellFormed.isDirectory_eq_false stored
    obtain ⟨directory, stem, dotted⟩ := FileStore.exists_dotted located isFile found
    -- Otherwise the copy would be a directory.
    have ordinary : stem ≠ ['.'] := by
      rintro rfl
      rw [FileStore.isDirectory_backup wellFormed dotted copyLocated] at copyIsFile
      cases copyIsFile
    have beside := beside_backup located dotted ordinary seconds
    have different : other ≠ place := by
      obtain ⟨above, name, copyName, here, there, different⟩ := beside.located
      obtain rfl := Except.ok.inj (located.symm.trans here)
      obtain rfl := Except.ok.inj (copyLocated.symm.trans there)
      simpa using different
    have written : (store.put other content).write path text = .ok ((store.put other content).put place text) :=
      FileStore.write_eq_ok_iff.mpr ⟨place, (FileStore.locate_put other content).mpr located, isFile, rfl⟩
    have replaced := FileStore.replaced_old located stored copyLocated different text
    have further : ((store.put other content).put place text).WellFormed :=
      (wellFormed.put copyIsFile content).put isFile text
    exact ⟨_, _, Result.run_bind_ok (run_commit _ written), ⟨format, text, formatted, rendered, replaced⟩,
      fun _ => beside, further⟩

/-- A run that fails changes no file. A run that succeeds has computed the edits, and changes files only to save
them where it is told to. -/
theorem Command.apply_safe {store : FileStore} (wellFormed : store.WellFormed) (form : String) (files : ValueFiles)
    (config : Option String) (assignments : List Assignment) (output : Option String) (seconds : Nat) :
    Safe store ((Command.apply form files config assignments output).run seconds) fun _ after =>
      ∃ edits, Computes store form files config assignments edits ∧
        match output with
        | none => after = store
        | some path => Saved store after path seconds (.mapping edits) := by
  refine (reads_computeEdits form files config assignments).safe_bind fun value yields => ?_
  obtain ⟨edits, computed, rfl⟩ := yields_computeEdits yields
  cases output with
  | none => exact .of_ok rfl ⟨edits, computed, rfl⟩
  | some path => exact (Documents.save_safe wellFormed path seconds _).map _ fun _ _ saved => ⟨edits, computed, saved⟩

/-- A directory with a form that has one row, and with a file of earlier edits. -/
def nameStore : FileStore where
  files := [(["work", "form.json"], "[\x7b\"title\":\"T\",\"rows\":[\x7b\"name\":\"N\",\"type\":\"string\"," ++
    "\"identifier\":\"n\",\"edit\":true,\"value\":\"a\"\x7d]\x7d]"), (["work", "out.json"], "\x7b\x7d")]
  directories := [["work"]]
  workingDirectory := ["work"]

/-- The store that holds one form is one that can exist. -/
theorem nameStore_wellFormed : nameStore.WellFormed where
  apart := by
    intro place isDirectory
    have known : place = [] ∨ place = ["work"] := by simpa [FileStore.isDirectory, nameStore] using isDirectory
    rcases known with rfl | rfl <;> simp [FileStore.content?, nameStore, List.lookup_cons]
  closed := by
    intro place isDirectory
    have known : place = [] ∨ place = ["work"] := by simpa [FileStore.isDirectory, nameStore] using isDirectory
    rcases known with rfl | rfl <;> rfl

/-- The form asks for a name, and there is an output file already. It is kept under a path of its own, and
both are reported. -/
theorem Command.apply_safe_name : nameStore.WellFormed ∧
    Safe nameStore ((Command.apply "form.json" ⟨none, none⟩ none [⟨["n"], .string "b"⟩] (some "out.json")).run 42)
      (fun _ after =>
        ∃ edits, Computes nameStore "form.json" ⟨none, none⟩ none [⟨["n"], .string "b"⟩] edits ∧
          Saved nameStore after "out.json" 42 (.mapping edits)) ∧
      (((Command.apply "form.json" ⟨none, none⟩ none [⟨["n"], .string "b"⟩] (some "out.json")).run 42 :
        Attempt (StateM FileStore) (List String)).run nameStore).1.toOption =
          some ["previous content kept in out.bk-42.json", "changes written to out.json"] :=
  ⟨nameStore_wellFormed,
    apply_safe nameStore_wellFormed "form.json" ⟨none, none⟩ none [⟨["n"], .string "b"⟩] (some "out.json") 42,
    by decide +kernel⟩

end SettingsForm
