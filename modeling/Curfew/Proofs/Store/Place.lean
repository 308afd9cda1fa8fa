import Curfew.Proofs.Store.Basic
import Curfew.Store.Operation

namespace Curfew

/-! The place of a file, and what is read there.  The directories above it may have to be made
first; it makes no difference to what is put into the file whether they were there before. -/

namespace FileStore

variable {α ε : Type} {store : FileStore α ε} {disk base before after : Disk}
  {location : Location} {directory name : String} {value : α}

theorem IsIn.reaches_of_above (isIn : store.IsIn directory name)
    (reaches : disk.Reaches store.above location) : disk.Reaches directory location := by
  obtain ⟨above, parent, names, absolute, _⟩ := Path.parent?_join directory isIn.usable
  have same : store.above = above := by rw [FileStore.above, isIn.path, parent, Option.getD_some]
  rw [same] at reaches
  refine reaches.of_names names.symm absolute.symm ?_
  rintro rfl
  exact Path.eq_empty_of_parent?_join isIn.usable parent

theorem readText_of_entry {number : Nat} {text : String} (isIn : store.IsIn directory name)
    (reaches : disk.Reaches directory location) (followable : Path.Followable store.path)
    (stored : disk.entries.get? (Location.text (location ++ [name])) =
      some (.file number (.text text))) : disk.readText store.path = .ok text := by
  have located := (isIn.locate_path_iff reaches).mpr ⟨followable, rfl⟩
  rw [← Disk.entry?_of_ne_nil disk (by simp)] at stored
  exact Disk.readText_of_located located stored

theorem readText_congr (isIn : store.IsIn directory name)
    (reaches : before.Reaches directory location) (followable : Path.Followable store.path)
    (same : Disk.SameDirectories before after)
    (target : after.entries.get? (Location.text (location ++ [name])) =
      before.entries.get? (Location.text (location ++ [name]))) :
    after.readText store.path = before.readText store.path := by
  have atBefore := (isIn.locate_path_iff reaches).mpr ⟨followable, rfl⟩
  have atAfter := (isIn.locate_path_iff (reaches.of_sameDirectories same)).mpr ⟨followable, rfl⟩
  rw [← Disk.entry?_of_ne_nil _ (by simp), ← Disk.entry?_of_ne_nil _ (by simp)] at target
  simp only [Disk.readText, atBefore, atAfter, target, bind, Except.bind]

/-- The value of the stored text, if there is one that can be decoded. -/
def decoded? (store : FileStore α ε) (disk : Disk) : Option α :=
  (store.cell disk).bind fun text => (store.codec.decode text).toOption

/-- `read` gives what can be decoded, and perhaps the fallback where there is nothing. -/
theorem toOption_read (store : FileStore α ε) (disk : Disk) :
    (store.read disk).2.toOption = store.decoded? disk ∨
      store.decoded? disk = none ∧
        (store.read disk).2.toOption = some store.codec.fallback := by
  unfold read decoded? cell
  cases disk.readText store.path with
  | ok text =>
      simp only [Except.toOption, Option.bind_some]
      cases store.codec.decode text with
      | ok value => exact .inl rfl
      | error cause => exact .inl rfl
  | error reason =>
      cases reason with
      | notFound =>
          dsimp only
          generalize store.write none store.codec.fallback disk = wrote
          obtain ⟨after, result⟩ := wrote
          cases result with
          | ok _ => exact .inr ⟨rfl, rfl⟩
          | error cause => exact .inl rfl
      | notADirectory | isADirectory | «exists» | notText | impossiblePath => exact .inl rfl

theorem steps_of_write (wrote : store.write none value disk = (after, .ok ())) :
    ∃ made between,
      Disk.runSteps none disk (disk.directorySteps store.above) = (made, .ok ()) ∧
        made.putFile store.draftPath (.text (store.codec.encode value)) = .ok between ∧
        between.rename store.draftPath store.path = .ok after := by
  rw [write_eq_ok_iff_runSteps, writeSteps_eq, List.append_assoc, Disk.runSteps_append] at wrote
  split at wrote
  · rename_i made steps
    rw [Option.map_none, List.singleton_append, Disk.runSteps_pair_eq_ok_iff] at wrote
    obtain ⟨between, put, renamed⟩ := wrote
    exact ⟨made, between, steps, put, renamed⟩
  · rename_i failed
    exact absurd wrote (failed after)

theorem isIn_of_write (path : store.path = Path.join directory name) (usable : Path.IsName name)
    (wrote : store.write none value disk = (after, .ok ())) : store.IsIn directory name := by
  obtain ⟨made, between, _, put, _⟩ := steps_of_write wrote
  obtain ⟨draft, located, _⟩ := Disk.putFile_eq_ok_iff.mp put
  obtain ⟨followed, _⟩ := Disk.locate_eq_ok_iff.mp located
  have drafted := Path.isName_append_tmp usable
  have names := (Disk.followPath_eq_ok_iff.mp followed).2
  rw [draftPath_eq path usable, Path.names_join _ drafted] at names
  have short := Disk.short_of_follow_concat names drafted.2.2
  rw [String.utf8ByteSize_append] at short
  exact ⟨path, usable, short⟩

theorem directories_of_made {made : Disk}
    (steps : Disk.runSteps none disk (disk.directorySteps store.above) = (made, .ok ())) :
    Disk.runSteps none made (made.directorySteps store.above) = (made, .ok ()) := by
  obtain ⟨location, reaches⟩ := Disk.reaches_of_directorySteps steps
  rw [Disk.runSteps_directorySteps reaches, if_pos (Disk.followable_of_directorySteps steps)]

theorem directories_of_ready (isIn : store.IsIn directory name)
    (reaches : base.Reaches directory location) (ready : store.Ready location name base)
    (same : Disk.SameDirectories base disk) :
    Disk.runSteps none disk (disk.directorySteps store.above) = (disk, .ok ()) := by
  have above := isIn.reaches_above (reaches.of_sameDirectories same)
  rw [Disk.runSteps_directorySteps above, if_pos ready.above]

/-- `write` makes the directories first, and goes on as on a disk that has them. -/
theorem write_of_made {made : Disk}
    (steps : Disk.runSteps none disk (disk.directorySteps store.above) = (made, .ok ()))
    (value : α) : store.write none value disk = store.write none value made := by
  have onwards {start : Disk}
      (steps : Disk.runSteps none start (start.directorySteps store.above) = (made, .ok ())) :
      Disk.runSteps none start (store.writeSteps value start) = Disk.runSteps none made
        ([(store.draftPath, .writeText store.draftPath (store.codec.encode value))] ++
          [(store.path, .rename store.draftPath store.path)]) := by
    rw [writeSteps_eq, List.append_assoc, Disk.runSteps_append, steps]
    simp only [Option.map_none]
  rw [write_eq, write_eq, onwards steps, onwards (directories_of_made steps)]

theorem replace_of_made {made : Disk}
    (steps : Disk.runSteps none disk (disk.directorySteps store.above) = (made, .ok ()))
    (text : String) : store.replace text disk = store.replace text made := by
  have first : disk.withDirectories store.above = made := congrArg Prod.fst steps
  have second : made.withDirectories store.above = made :=
    congrArg Prod.fst (directories_of_made steps)
  change ((disk.withDirectories store.above).putFile _ _).toOption.getD
      (disk.withDirectories store.above) =
    ((made.withDirectories store.above).putFile _ _).toOption.getD (made.withDirectories store.above)
  rw [first, second]

/-- The text is in the place of the store, and nothing else has changed but the draft beside it. -/
structure Put (store : FileStore α ε) (location : Location) (name text : String)
    (before after : Disk) : Prop where
  stored : after.readText store.path = .ok text
  others (key : String) (notDraft : key ≠ Location.text (location ++ [name ++ ".tmp"]))
    (notTarget : key ≠ Location.text (location ++ [name])) :
    after.entries.get? key = before.entries.get? key
  directories : Disk.SameDirectories before after

theorem put_of_write (isIn : store.IsIn directory name)
    (reaches : disk.Reaches directory location) (ready : store.Ready location name disk)
    (value : α) :
    ∃ next, store.write none value disk = (next, .ok ()) ∧
      store.Put location name (store.codec.encode value) disk next := by
  have succeeds : ∃ next, store.write none value disk = (next, .ok ()) :=
    (write_eq_ok_iff isIn reaches).mpr ⟨by simp, ready⟩
  obtain ⟨next, wrote⟩ := succeeds
  have written := written_of_write isIn reaches wrote
  obtain ⟨number, target⟩ := written.target
  have stored := readText_of_entry isIn (reaches.of_sameDirectories written.directories) ready.path
    target
  exact ⟨next, wrote, stored, written.others, written.directories⟩

theorem write_none_of_write {fault : Option Disk.Fault}
    (wrote : store.write fault value disk = (after, .ok ())) :
    store.write none value disk = (after, .ok ()) :=
  write_eq_ok_iff_runSteps.mpr (Disk.runSteps_eq_ok_iff.mp (write_eq_ok_iff_runSteps.mp wrote)).2

/-- After a `write` that succeeds the directory is there, with the text in its place. -/
theorem exists_put_of_write {fault : Option Disk.Fault} (isIn : store.IsIn directory name)
    (wrote : store.write fault value disk = (after, .ok ())) :
    ∃ made location, made.Reaches directory location ∧ store.Ready location name made ∧
      store.Put location name (store.codec.encode value) made after := by
  have plain := write_none_of_write wrote
  obtain ⟨made, _, steps, _⟩ := steps_of_write plain
  rw [write_of_made steps] at plain
  obtain ⟨location, above⟩ := Disk.reaches_of_directorySteps steps
  have reaches := isIn.reaches_of_above above
  obtain ⟨_, ready⟩ := (write_eq_ok_iff isIn reaches).mp ⟨after, plain⟩
  obtain ⟨next, again, put⟩ := put_of_write isIn reaches ready value
  cases plain.symm.trans again
  exact ⟨made, location, reaches, ready, put⟩

theorem put_of_replace (isIn : store.IsIn directory name)
    (reaches : disk.Reaches directory location) (ready : store.Ready location name disk)
    (text : String) : store.Put location name text disk (store.replace text disk) := by
  have above : disk.withDirectories store.above = disk :=
    congrArg Prod.fst (Disk.runSteps_directorySteps (isIn.reaches_above reaches))
  have put : disk.putFile store.path (.text text) =
      .ok (disk.putContent (location ++ [name]) (.text text)) :=
    Disk.putFile_eq_ok_iff.mpr
      ⟨_, (isIn.locate_path_iff reaches).mpr ⟨ready.path, rfl⟩, ready.target, rfl⟩
  have replaced : store.replace text disk = disk.putContent (location ++ [name]) (.text text) := by
    change ((disk.withDirectories store.above).putFile store.path _).toOption.getD
      (disk.withDirectories store.above) = _
    rw [above, put]
    rfl
  obtain ⟨number, entries, workingDirectory⟩ :=
    Disk.putContent_eq disk (location ++ [name]) (.text text)
  have directories := Disk.sameDirectories_of_insert ready.target entries workingDirectory
  have target : (disk.putContent (location ++ [name]) (.text text)).entries.get?
      (Location.text (location ++ [name])) = some (.file number (.text text)) := by
    rw [entries, Table.get?_insert_self]
  have stored := readText_of_entry isIn (reaches.of_sameDirectories directories) ready.path target
  rw [replaced]
  refine ⟨stored, fun key _ notTarget => ?_, directories⟩
  rw [entries, Table.get?_insert_other _ notTarget]

theorem Put.readText_sibling {β δ : Type} {sibling : FileStore β δ} {otherName text : String}
    (put : store.Put location name text before after) (isToo : sibling.IsIn directory otherName)
    (reaches : before.Reaches directory location)
    (ready : sibling.Ready location otherName before) (notTarget : otherName ≠ name)
    (notDraft : otherName ≠ name ++ ".tmp") :
    after.readText sibling.path = before.readText sibling.path := by
  have apart {third : String} (different : otherName ≠ third) :
      Location.text (location ++ [otherName]) ≠ Location.text (location ++ [third]) :=
    fun alike => different (Location.text_concat_inj alike)
  exact readText_congr isToo reaches ready.path put.directories
    (put.others _ (apart notDraft) (apart notTarget))

/-- Two stores in one directory, written one after the other, both hold what was written. -/
theorem readText_of_writes {β δ : Type} {sibling : FileStore β δ} {otherName : String} {other : β}
    {fault faultToo : Option Disk.Fault} {between : Disk} (isIn : store.IsIn directory name)
    (isToo : sibling.IsIn directory otherName) (notTarget : name ≠ otherName)
    (notDraft : name ≠ otherName ++ ".tmp")
    (wrote : store.write fault value disk = (between, .ok ()))
    (wroteToo : sibling.write faultToo other between = (after, .ok ())) :
    after.readText store.path = .ok (store.codec.encode value) ∧
      after.readText sibling.path = .ok (sibling.codec.encode other) := by
  obtain ⟨made, location, reaches, ready, put⟩ := exists_put_of_write isIn wrote
  have plain := write_none_of_write wroteToo
  have reachesThen := reaches.of_sameDirectories put.directories
  obtain ⟨_, readyToo⟩ := (write_eq_ok_iff isToo reachesThen).mp ⟨after, plain⟩
  obtain ⟨next, again, putToo⟩ := put_of_write isToo reachesThen readyToo other
  cases plain.symm.trans again
  have stillReady := (ready_congr put.directories).mpr ready
  have spared := putToo.readText_sibling isIn reachesThen stillReady notTarget notDraft
  exact ⟨spared.trans put.stored, putToo.stored⟩

end FileStore

end Curfew
