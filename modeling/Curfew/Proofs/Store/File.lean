import Curfew.Proofs.Disk.Step
import Curfew.Proofs.SavedState
import Curfew.Store.Codec
import Curfew.Store.File

namespace Curfew

/-! What is on a disk after a value has been written to a file, or could not be. -/

theorem Path.isName_append_tmp {name : String} (usable : IsName name) :
    IsName (name ++ ".tmp") := by
  have longer {short : String} (few : short.toList.length < 4) : name ++ ".tmp" ≠ short := by
    intro same
    rw [← same, String.toList_append, List.length_append] at few
    exact absurd few (Nat.not_lt.mpr (Nat.le_add_left 4 _))
  refine ⟨?_, ?_, longer (by decide)⟩
  · simpa using usable.1
  · have some : name ++ ".tmp" ≠ "" := longer (by decide)
    have notDot : name ++ ".tmp" ≠ "." := longer (by decide)
    simp [isIdle, some, notDot]

namespace FileStore

variable {α ε : Type} {store : FileStore α ε} {disk before after : Disk} {location : Location}
  {directory name : String} {fault : Option Disk.Fault} {value : α}

/-- The path of the store is that name below a directory. -/
structure IsIn (store : FileStore α ε) (directory name : String) : Prop where
  path : store.path = Path.join directory name
  usable : Path.IsName name
  short : name.utf8ByteSize + 4 ≤ Path.maxNameWidth

/-- The directory of the store as it is written in its path. -/
def above (store : FileStore α ε) : String := (Path.parent? store.path).getD ""

theorem draftPath_of_named (named : Path.fileName? store.path = some name) :
    store.draftPath = Path.join store.above (name ++ ".tmp") := by
  simp only [FileStore.draftPath, Path.withFileName, named, Option.getD_some, above]

theorem draftPath_eq (path : store.path = Path.join directory name) (usable : Path.IsName name) :
    store.draftPath = Path.join store.above (name ++ ".tmp") :=
  draftPath_of_named (by rw [path, Path.fileName?_join directory usable])

theorem IsIn.reaches_above (isIn : store.IsIn directory name)
    (reaches : disk.Reaches directory location) : disk.Reaches store.above location := by
  obtain ⟨above, parent, names, absolute, empty⟩ := Path.parent?_join directory isIn.usable
  rw [FileStore.above, isIn.path, parent, Option.getD_some]
  exact reaches.of_names names absolute empty

theorem IsIn.locate_path_iff (isIn : store.IsIn directory name)
    (reaches : disk.Reaches directory location) {found : Location} :
    disk.locate store.path = .ok found ↔
      Path.Followable store.path ∧ found = location ++ [name] := by
  rw [isIn.path]
  exact reaches.locate_join_iff isIn.usable (Nat.le_trans (Nat.le_add_right ..) isIn.short)

theorem IsIn.locate_draftPath_iff (isIn : store.IsIn directory name)
    (reaches : disk.Reaches directory location) {found : Location} :
    disk.locate store.draftPath = .ok found ↔
      Path.Followable store.draftPath ∧ found = location ++ [name ++ ".tmp"] := by
  rw [draftPath_eq isIn.path isIn.usable]
  refine (isIn.reaches_above reaches).locate_join_iff (Path.isName_append_tmp isIn.usable) ?_
  rw [String.utf8ByteSize_append]
  exact isIn.short

theorem draft_ne_target (location : Location) (name : String) :
    Location.text (location ++ [name ++ ".tmp"]) ≠ Location.text (location ++ [name]) := by
  rw [← Location.beside_concat]
  exact Location.text_beside_ne (by simp) (by decide)

/-- What a write that fails may have changed: the draft beside the file, and nothing else. -/
structure Kept (location : Location) (name : String) (before after : Disk) : Prop where
  others (key : String) (different : key ≠ Location.text (location ++ [name ++ ".tmp"])) :
    after.entries.get? key = before.entries.get? key
  directories : Disk.SameDirectories before after

/-- What a write that succeeds has changed. -/
structure Written (location : Location) (name text : String) (before after : Disk) : Prop where
  target : ∃ number, after.entries.get? (Location.text (location ++ [name])) =
    some (.file number (.text text))
  draft : after.entries.get? (Location.text (location ++ [name ++ ".tmp"])) = none
  others (key : String) (notDraft : key ≠ Location.text (location ++ [name ++ ".tmp"]))
    (notTarget : key ≠ Location.text (location ++ [name])) :
    after.entries.get? key = before.entries.get? key
  directories : Disk.SameDirectories before after

/-- Both paths lead somewhere, and no directory is in the way. -/
structure Ready (store : FileStore α ε) (location : Location) (name : String) (disk : Disk) :
    Prop where
  above : Path.ancestors store.above = [] ∨ Path.Followable store.above
  draftPath : Path.Followable store.draftPath
  path : Path.Followable store.path
  draft : disk.entry? (location ++ [name ++ ".tmp"]) ≠ some .directory
  target : disk.entry? (location ++ [name]) ≠ some .directory

theorem ready_congr (same : Disk.SameDirectories before after) :
    store.Ready location name after ↔ store.Ready location name before := by
  have draft := not_congr (same.entry? (location ++ [name ++ ".tmp"]))
  have target := not_congr (same.entry? (location ++ [name]))
  constructor
  · rintro ⟨above, draftPath, path, freeDraft, freeTarget⟩
    exact ⟨above, draftPath, path, draft.mp freeDraft, target.mp freeTarget⟩
  · rintro ⟨above, draftPath, path, freeDraft, freeTarget⟩
    exact ⟨above, draftPath, path, draft.mpr freeDraft, target.mpr freeTarget⟩

theorem kept_putFile (isIn : store.IsIn directory name)
    (reaches : disk.Reaches directory location) {content : Content}
    (put : disk.putFile store.draftPath content = .ok after) :
    Kept location name disk after ∧ ∃ number,
      after.entries.get? (Location.text (location ++ [name ++ ".tmp"])) =
        some (.file number content) := by
  obtain ⟨draft, number, located, directories, entries⟩ := Disk.putFile_eq_ok put
  obtain ⟨_, rfl⟩ := (isIn.locate_draftPath_iff reaches).mp located
  refine ⟨⟨fun key different => ?_, directories⟩, number, ?_⟩
  · rw [entries, if_neg different.symm]
  · rw [entries, if_pos rfl]

theorem Kept.trans {between : Disk} (first : Kept location name before between)
    (second : Kept location name between after) : Kept location name before after :=
  ⟨fun key different => (second.others key different).trans (first.others key different),
    first.directories.trans second.directories⟩

/-- All steps of `write` but the last leave everything but the draft. -/
theorem kept_runSteps (fault : Option Disk.Fault) (isIn : store.IsIn directory name)
    (reaches : disk.Reaches directory location) (text : String) :
    Kept location name disk (Disk.runSteps fault disk
      (disk.directorySteps store.above ++
        [(store.draftPath, .writeText store.draftPath text)])).1 := by
  have here {between : Disk} (kept : Kept location name disk between) :
      between.Reaches directory location := reaches.of_sameDirectories kept.directories
  have steps {entry : String × Disk.Step}
      (member : entry ∈ disk.directorySteps store.above ++
        [(store.draftPath, .writeText store.draftPath text)]) :
      (entry = (store.above, .makeDirectory store.above) ∧ store.above ≠ "") ∨
        entry = (store.draftPath, .writeText store.draftPath text) := by
    rw [Disk.directorySteps_of_reaches (isIn.reaches_above reaches)] at member
    split at member
    · exact .inr (by simpa using member)
    · rename_i some
      have named : store.above ≠ "" := fun empty => some (empty ▸ Path.ancestors_empty)
      simpa [named] using member
  refine Disk.runSteps_keeps (Kept location name disk) ?_ ?_ ⟨fun _ _ => rfl, .refl disk⟩
  · intro entry member between next kept done
    rcases steps member with ⟨rfl, named⟩ | rfl
    · rcases Disk.makeDirectory_of_reaches (isIn.reaches_above (here kept)) named with
        ⟨made, _⟩ | ⟨refused, _⟩
      · cases made.symm.trans done
        exact kept
      · cases refused.symm.trans done
    · exact kept.trans (kept_putFile isIn (here kept) done).1
  · intro entry member between written kept
    rcases steps member with ⟨rfl, _⟩ | rfl
    · exact kept
    · simp only [Disk.Step.interrupted]
      cases written with
      | none => exact kept
      | some content =>
          simp only [Option.map_some]
          cases put : between.putFile store.draftPath content with
          | error reason => exact kept
          | ok next => exact kept.trans (kept_putFile isIn (here kept) put).1

theorem rename_draft_iff (isIn : store.IsIn directory name)
    (reaches : disk.Reaches directory location) (kept : Kept location name disk before)
    (followable : Path.Followable store.draftPath) {number : Nat} {content : Content}
    (written : before.entries.get? (Location.text (location ++ [name ++ ".tmp"])) =
      some (.file number content)) :
    before.rename store.draftPath store.path = .ok after ↔
      Path.Followable store.path ∧ disk.entry? (location ++ [name]) ≠ some .directory ∧
        after = ((before.vacated (location ++ [name ++ ".tmp"])).detach (location ++ [name])).put
          (location ++ [name]) (.file number content) := by
  have reachesBefore := reaches.of_sameDirectories kept.directories
  have found : before.entry? (location ++ [name ++ ".tmp"]) = some (.file number content) := by
    rwa [Disk.entry?_of_ne_nil _ (by simp)]
  have located : before.locate store.draftPath = .ok (location ++ [name ++ ".tmp"]) :=
    (isIn.locate_draftPath_iff reachesBefore).mpr ⟨followable, rfl⟩
  have vacated := Disk.sameDirectories_vacated found
  have free := not_congr (Disk.SameDirectories.entry? (kept.directories.trans vacated) (location ++ [name]))
  rw [Disk.rename_eq_ok_iff located found]
  constructor
  · rintro ⟨target, atTarget, notDirectory, rfl⟩
    obtain ⟨followable, rfl⟩ :=
      (isIn.locate_path_iff (reachesBefore.of_sameDirectories vacated)).mp atTarget
    exact ⟨followable, free.mp notDirectory, rfl⟩
  · rintro ⟨followable, notDirectory, rfl⟩
    exact ⟨_, (isIn.locate_path_iff (reachesBefore.of_sameDirectories vacated)).mpr
      ⟨followable, rfl⟩, free.mpr notDirectory, rfl⟩

theorem draft_and_rename_iff (isIn : store.IsIn directory name)
    (reaches : disk.Reaches directory location) (text : String) :
    (∃ before after, disk.putFile store.draftPath (.text text) = .ok before ∧
        before.rename store.draftPath store.path = .ok after) ↔
      Path.Followable store.draftPath ∧ Path.Followable store.path ∧
        disk.entry? (location ++ [name ++ ".tmp"]) ≠ some .directory ∧
        disk.entry? (location ++ [name]) ≠ some .directory := by
  constructor
  · rintro ⟨before, after, put, renamed⟩
    obtain ⟨draft, located, freeDraft, _⟩ := Disk.putFile_eq_ok_iff.mp put
    obtain ⟨draftPath, rfl⟩ := (isIn.locate_draftPath_iff reaches).mp located
    obtain ⟨kept, number, written⟩ := kept_putFile isIn reaches put
    obtain ⟨path, freeTarget, _⟩ :=
      (rename_draft_iff isIn reaches kept draftPath written).mp renamed
    exact ⟨draftPath, path, freeDraft, freeTarget⟩
  · rintro ⟨draftPath, path, freeDraft, freeTarget⟩
    have put : disk.putFile store.draftPath (.text text) = .ok _ :=
      Disk.putFile_eq_ok_iff.mpr
        ⟨_, (isIn.locate_draftPath_iff reaches).mpr ⟨draftPath, rfl⟩, freeDraft, rfl⟩
    obtain ⟨kept, number, written⟩ := kept_putFile isIn reaches put
    exact ⟨_, _, put, (rename_draft_iff isIn reaches kept draftPath written).mpr
      ⟨path, freeTarget, rfl⟩⟩

theorem written_rename (isIn : store.IsIn directory name)
    (reaches : disk.Reaches directory location) {text : String}
    (put : disk.putFile store.draftPath (.text text) = .ok before)
    (renamed : before.rename store.draftPath store.path = .ok after) :
    Written location name text disk after := by
  obtain ⟨draft, located, _⟩ := Disk.putFile_eq_ok_iff.mp put
  obtain ⟨followable, _⟩ := (isIn.locate_draftPath_iff reaches).mp located
  obtain ⟨kept, number, written⟩ := kept_putFile isIn reaches put
  have reachesBefore := reaches.of_sameDirectories kept.directories
  have atDraft : before.locate store.draftPath = .ok (location ++ [name ++ ".tmp"]) :=
    (isIn.locate_draftPath_iff reachesBefore).mpr ⟨followable, rfl⟩
  rw [← Disk.entry?_of_ne_nil _ (by simp)] at written
  obtain ⟨target, atTarget, directories, entries⟩ := Disk.rename_eq_ok atDraft written renamed
  obtain ⟨_, rfl⟩ := (isIn.locate_path_iff reachesBefore).mp atTarget
  have apart := draft_ne_target location name
  refine ⟨⟨number, ?_⟩, ?_, fun key notDraft notTarget => ?_, kept.directories.trans directories⟩
  · rw [entries, if_pos rfl]
  · rw [entries, if_neg apart.symm, if_pos rfl]
  · rw [entries, if_neg notTarget.symm, if_neg notDraft.symm]
    exact kept.others key notDraft

theorem writeSteps_eq (store : FileStore α ε) (value : α) (disk : Disk) :
    store.writeSteps value disk = (disk.directorySteps store.above ++
      [(store.draftPath, .writeText store.draftPath (store.codec.encode value))]) ++
        [(store.path, .rename store.draftPath store.path)] := by
  rw [writeSteps, List.append_assoc]
  rfl

theorem length_writeSteps (isIn : store.IsIn directory name)
    (reaches : disk.Reaches directory location) :
    (store.writeSteps value disk).length = if Path.ancestors store.above = [] then 2 else 3 := by
  rw [writeSteps_eq, Disk.directorySteps_of_reaches (isIn.reaches_above reaches)]
  split <;> rfl

theorem runSteps_writeSteps_iff (isIn : store.IsIn directory name)
    (reaches : disk.Reaches directory location) :
    Disk.runSteps none disk (store.writeSteps value disk) = (after, .ok ()) ↔
      (Path.ancestors store.above = [] ∨ Path.Followable store.above) ∧
        ∃ before, disk.putFile store.draftPath (.text (store.codec.encode value)) = .ok before ∧
          before.rename store.draftPath store.path = .ok after := by
  rw [writeSteps_eq, List.append_assoc, Disk.runSteps_append,
    Disk.runSteps_directorySteps (isIn.reaches_above reaches)]
  by_cases usable : Path.ancestors store.above = [] ∨ Path.Followable store.above
  · simp only [if_pos usable, Option.map_none, List.singleton_append]
    rw [Disk.runSteps_pair_eq_ok_iff]
    exact (and_iff_right usable).symm
  · simp [usable]

theorem write_eq (store : FileStore α ε) (fault : Option Disk.Fault) (value : α) (disk : Disk) :
    store.write fault value disk =
      ((Disk.runSteps fault disk (store.writeSteps value disk)).1,
        (Disk.runSteps fault disk (store.writeSteps value disk)).2.mapError .disk) := by
  unfold write
  generalize Disk.runSteps fault disk (store.writeSteps value disk) = outcome
  rfl

theorem write_eq_ok_iff_runSteps :
    store.write fault value disk = (after, .ok ()) ↔
      Disk.runSteps fault disk (store.writeSteps value disk) = (after, .ok ()) := by
  rw [write_eq]
  generalize Disk.runSteps fault disk (store.writeSteps value disk) = outcome
  obtain ⟨next, result⟩ := outcome
  cases result <;> simp [mapError_ok, mapError_error]

/-- `write` succeeds if and only if the directories on the disk allow it and the fault comes too
late. -/
theorem write_eq_ok_iff (isIn : store.IsIn directory name)
    (reaches : disk.Reaches directory location) :
    (∃ after, store.write fault value disk = (after, .ok ())) ↔
      (∀ fault' ∈ fault, (store.writeSteps value disk).length ≤ fault'.step) ∧
        store.Ready location name disk := by
  simp only [write_eq_ok_iff_runSteps, Disk.runSteps_eq_ok_iff,
    runSteps_writeSteps_iff isIn reaches, exists_and_left]
  refine and_congr_right fun _ => ?_
  have draft := draft_and_rename_iff isIn reaches (store.codec.encode value)
  constructor
  · rintro ⟨above, after, before, put, renamed⟩
    obtain ⟨draftPath, path, freeDraft, freeTarget⟩ := draft.mp ⟨before, after, put, renamed⟩
    exact ⟨above, draftPath, path, freeDraft, freeTarget⟩
  · rintro ⟨above, draftPath, path, freeDraft, freeTarget⟩
    obtain ⟨before, after, put, renamed⟩ := draft.mpr ⟨draftPath, path, freeDraft, freeTarget⟩
    exact ⟨above, after, before, put, renamed⟩

theorem written_of_write (isIn : store.IsIn directory name)
    (reaches : disk.Reaches directory location)
    (succeeded : store.write fault value disk = (after, .ok ())) :
    Written location name (store.codec.encode value) disk after := by
  have ran := Disk.runSteps_eq_ok_iff.mp (write_eq_ok_iff_runSteps.mp succeeded)
  obtain ⟨_, before, put, renamed⟩ := (runSteps_writeSteps_iff isIn reaches).mp ran.2
  exact written_rename isIn reaches put renamed

/-- A `write` that fails leaves the file as it was. -/
theorem kept_of_write (isIn : store.IsIn directory name)
    (reaches : disk.Reaches directory location) {result : Except (StoreError ε) Unit}
    (wrote : store.write fault value disk = (after, result)) (failed : result ≠ .ok ()) :
    Kept location name disk after := by
  have drafted := kept_runSteps fault isIn reaches (store.codec.encode value)
  cases ran : Disk.runSteps fault disk (store.writeSteps value disk) with
  | mk next outcome =>
      rw [write_eq, ran] at wrote
      obtain ⟨rfl, rfl⟩ := Prod.mk.inj wrote
      rw [writeSteps_eq, Disk.runSteps_append] at ran
      split at ran
      · rename_i between made
        rw [made] at drafted
        cases outcome with
        | ok => exact absurd rfl failed
        | error path =>
            rw [Disk.runSteps_rename ran]
            exact drafted
      · rw [ran] at drafted
        exact drafted

/-- The stored text, if there is one that can be read. -/
def cell (store : FileStore α ε) (disk : Disk) : Cell := (disk.readText store.path).toOption

theorem cell_eq_some (isIn : store.IsIn directory name)
    (reaches : disk.Reaches directory location) (followable : Path.Followable store.path)
    {number : Nat} {text : String}
    (stored : disk.entries.get? (Location.text (location ++ [name])) =
      some (.file number (.text text))) : store.cell disk = some text := by
  have located := (isIn.locate_path_iff reaches).mpr ⟨followable, rfl⟩
  rw [← Disk.entry?_of_ne_nil disk (by simp)] at stored
  rw [cell, Disk.readText_of_located located stored]
  rfl

theorem cell_congr (isIn : store.IsIn directory name)
    (reaches : before.Reaches directory location) (same : Disk.SameDirectories before after)
    (target : after.entries.get? (Location.text (location ++ [name])) =
      before.entries.get? (Location.text (location ++ [name]))) :
    store.cell after = store.cell before := by
  have reachesAfter := reaches.of_sameDirectories same
  by_cases followable : Path.Followable store.path
  · have atBefore := (isIn.locate_path_iff reaches).mpr ⟨followable, rfl⟩
    have atAfter := (isIn.locate_path_iff reachesAfter).mpr ⟨followable, rfl⟩
    have entries : after.entry? (location ++ [name]) = before.entry? (location ++ [name]) := by
      rwa [Disk.entry?_of_ne_nil _ (by simp), Disk.entry?_of_ne_nil _ (by simp)]
    simp only [cell, Disk.readText, atBefore, atAfter, entries, bind, Except.bind]
  · have nowhere {disk : Disk} (reaches : disk.Reaches directory location) :
        store.cell disk = none := by
      unfold cell Disk.readText
      cases located : disk.locate store.path with
      | error reason => rfl
      | ok found => exact absurd ((isIn.locate_path_iff reaches).mp located).1 followable
    rw [nowhere reaches, nowhere reachesAfter]

theorem read_eq_ok_of_cell {text : String} (full : store.cell disk = some text)
    (decoded : store.codec.decode text = .ok value) : store.read disk = (disk, .ok value) := by
  have stored : disk.readText store.path = .ok text := by
    unfold cell at full
    cases read : disk.readText store.path with
    | error reason => simp [read, Except.toOption] at full
    | ok found => simpa [read, Except.toOption] using full
  simp [read, stored, decoded, mapError_ok]

/-- `read` writes only where nothing is stored yet. -/
theorem fst_read (store : FileStore α ε) (disk : Disk) :
    (store.read disk).1 = disk ∨
      (store.read disk).1 = (store.write none store.codec.fallback disk).1 := by
  unfold read
  generalize store.write none store.codec.fallback disk = outcome
  split
  · exact .inl rfl
  · exact .inr rfl
  · exact .inl rfl

end FileStore

end Curfew
