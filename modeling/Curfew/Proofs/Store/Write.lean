import Curfew.Proofs.Disk.Directories
import Curfew.Proofs.Store.File

namespace Curfew.FileStore

/-! A write is all or nothing.  Wherever it stops, the place of the file holds what it held before;
if it comes to its end, it holds all that was written. -/

variable {α ε : Type} {store : FileStore α ε} {disk before between after : Disk}
  {target draft location : Location} {name : String} {value : α}
  {result : Except (StoreError ε) Unit}

theorem names_path (named : Path.fileName? store.path = some name) :
    Path.names store.path = Path.names store.above ++ [name] ∧
      Path.isAbsolute store.above = Path.isAbsolute store.path := by
  obtain ⟨above, parent, names, absolute⟩ := Path.parent?_of_fileName? named
  rw [FileStore.above, parent, Option.getD_some]
  exact ⟨names, absolute⟩

theorem names_draftPath (named : Path.fileName? store.path = some name) :
    Path.names store.draftPath = Path.names store.above ++ [name ++ ".tmp"] ∧
      Path.isAbsolute store.draftPath = Path.isAbsolute store.path := by
  have usable := Path.isName_append_tmp (Path.fileName?_eq_some named).1
  rw [draftPath_of_named named, ← (names_path named).2]
  exact ⟨Path.names_join _ usable, Path.isAbsolute_join _ usable⟩

theorem draftPath_ne_path (named : Path.fileName? store.path = some name) :
    store.draftPath ≠ store.path := by
  intro same
  have names := (names_draftPath named).1
  rw [same, (names_path named).1, List.append_cancel_left_eq, List.singleton_inj] at names
  have lengths := congrArg String.length names
  simp at lengths

theorem exists_above_target (named : Path.fileName? store.path = some name)
    (followed : disk.followPath store.path = .ok target) :
    ∃ above, disk.follow (disk.startOf store.path) (Path.names store.above) = .ok above ∧
      target = above ++ [name] :=
  Disk.exists_of_followPath (names_path named).1 (Path.fileName?_eq_some named).1.2.2 followed

theorem exists_above_draft (named : Path.fileName? store.path = some name)
    (followed : disk.followPath store.draftPath = .ok draft) :
    ∃ above, disk.follow (disk.startOf store.path) (Path.names store.above) = .ok above ∧
      draft = above ++ [name ++ ".tmp"] := by
  have usable := Path.isName_append_tmp (Path.fileName?_eq_some named).1
  have start : disk.startOf store.draftPath = disk.startOf store.path := by
    rw [Disk.startOf, Disk.startOf, (names_draftPath named).2]
  rw [← start]
  exact Disk.exists_of_followPath (names_draftPath named).1 usable.2.2 followed

theorem draft_beside_target (named : Path.fileName? store.path = some name)
    (atTarget : disk.followPath store.path = .ok target)
    (atDraft : disk.followPath store.draftPath = .ok draft) :
    draft = target.beside ".tmp" ∧ draft.text ≠ target.text := by
  obtain ⟨above, led, rfl⟩ := exists_above_target named atTarget
  obtain ⟨again, ledToo, rfl⟩ := exists_above_draft named atDraft
  cases led.symm.trans ledToo
  exact ⟨(Location.beside_concat above name ".tmp").symm, draft_ne_target above name⟩

theorem target_ne_nil (named : Path.fileName? store.path = some name)
    (followed : disk.followPath store.path = .ok target) : target ≠ [] := by
  obtain ⟨above, _, rfl⟩ := exists_above_target named followed
  simp

theorem draft_ne_nil (named : Path.fileName? store.path = some name)
    (followed : disk.followPath store.draftPath = .ok draft) : draft ≠ [] := by
  obtain ⟨above, _, rfl⟩ := exists_above_draft named followed
  simp

/-- The disk after a `write` that gave a result: the directories are made, then the draft is put
beside the file, and at last it takes the place of the file. -/
inductive Leaves (store : FileStore α ε) (value : α) (before after : Disk) :
    Except (StoreError ε) Unit → Prop where
  | failed {made : Disk} {error : StoreError ε} (paved : Disk.Paved store.above before made)
      (directories : Disk.SameDirectories made after)
      (others : ∀ key, after.entries.get? key = made.entries.get? key ∨
        after.LeadsTo store.draftPath key) :
      Leaves store value before after (.error error)
  | stored {made : Disk} {target draft : Location} {number : Nat}
      (paved : Disk.Paved store.above before made)
      (directories : Disk.SameDirectories made after)
      (atTarget : after.locate store.path = .ok target)
      (atDraft : after.locate store.draftPath = .ok draft)
      (entries : ∀ key, after.entries.get? key =
        if target.text = key then some (.file number (.text (store.codec.encode value)))
        else if draft.text = key then none else made.entries.get? key) :
      Leaves store value before after (.ok ())

theorem leaves_draft {made : Disk} {content : Content} {error : StoreError ε}
    (paved : Disk.Paved store.above before made)
    (put : made.putFile store.draftPath content = .ok after) :
    Leaves store value before after (.error error) := by
  obtain ⟨draft, number, located, directories, entries⟩ := Disk.putFile_eq_ok put
  refine .failed paved directories fun key => ?_
  rw [entries]
  split
  · rename_i here
    have located := directories.toExtends.locate located
    exact .inr ⟨draft, (Disk.locate_eq_ok_iff.mp located).1, here⟩
  · exact .inl rfl

theorem leaves_stored {made : Disk} (named : Path.fileName? store.path = some name)
    (paved : Disk.Paved store.above before made)
    (put : made.putFile store.draftPath (.text (store.codec.encode value)) = .ok between)
    (renamed : between.rename store.draftPath store.path = .ok after) :
    Leaves store value before after (.ok ()) := by
  obtain ⟨draft, number, located, first, drafted⟩ := Disk.putFile_eq_ok put
  have atDraft := first.toExtends.locate located
  have below := draft_ne_nil named (Disk.locate_eq_ok_iff.mp atDraft).1
  have written : between.entry? draft = some (.file number (.text (store.codec.encode value))) := by
    rw [Disk.entry?_of_ne_nil _ below, drafted, if_pos rfl]
  obtain ⟨target, atTarget, second, entries⟩ := Disk.rename_eq_ok atDraft written renamed
  have whole (key : String) : after.entries.get? key =
      if target.text = key then some (.file number (.text (store.codec.encode value)))
      else if draft.text = key then none else made.entries.get? key := by
    rw [entries, drafted]
    split
    · rfl
    · split <;> rfl
  exact .stored paved (first.trans second) (second.toExtends.locate atTarget)
    (second.toExtends.locate atDraft) whole

theorem leaves_of_made {made : Disk} {fault : Option Disk.Fault} {outcome : Except String Unit}
    (named : Path.fileName? store.path = some name)
    (paved : Disk.Paved store.above before made)
    (ran : Disk.runSteps fault made
      ([(store.draftPath, .writeText store.draftPath (store.codec.encode value))] ++
        [(store.path, .rename store.draftPath store.path)]) = (after, outcome)) :
    Leaves store value before after (outcome.mapError .disk) := by
  rw [Disk.runSteps_append] at ran
  split at ran
  · rename_i between drafted
    have put := Disk.run_of_runSteps drafted
    cases outcome with
    | ok => exact leaves_stored named paved put (Disk.run_of_runSteps ran)
    | error path =>
        obtain rfl := Disk.runSteps_rename ran
        exact leaves_draft paved put
  · rename_i unfinished
    cases outcome with
    | ok => exact absurd ran (unfinished after)
    | error path =>
        rcases Disk.runSteps_writeText ran with rfl | ⟨content, put⟩
        · exact .failed paved (.refl _) fun key => .inl rfl
        · exact leaves_draft paved put

theorem leaves_write (named : Path.fileName? store.path = some name) (fault : Option Disk.Fault)
    (value : α) (disk : Disk) :
    Leaves store value disk (store.write fault value disk).1 (store.write fault value disk).2 := by
  have paved := Disk.paved_directorySteps fault disk store.above
  rw [write_eq, writeSteps_eq, List.append_assoc, Disk.runSteps_append]
  split
  · rename_i made directories
    rw [directories] at paved
    exact leaves_of_made named paved (Prod.eta _).symm
  · rename_i unfinished
    cases directories : Disk.runSteps fault disk (disk.directorySteps store.above) with
    | mk made outcome =>
        rw [directories] at paved
        cases outcome with
        | ok => exact absurd directories (unfinished made)
        | error path => exact .failed paved (.refl made) fun key => .inl rfl

theorem Leaves.toExtends (leaves : Leaves store value before after result) :
    Disk.Extends before after := by
  cases leaves with
  | failed paved directories others => exact paved.toExtends.trans directories.toExtends
  | stored paved directories => exact paved.toExtends.trans directories.toExtends

theorem Leaves.kept (named : Path.fileName? store.path = some name)
    (leaves : Leaves store value before after result) (failed : result ≠ .ok ())
    (followed : after.followPath store.path = .ok location) :
    after.entry? location = before.entry? location ∨
      Disk.MadeFor store.above before after location.text ∧ ".." ∈ Path.names store.path := by
  cases leaves with
  | stored => exact absurd rfl failed
  | failed paved directories others =>
      have below := target_ne_nil named followed
      have made := (others location.text).resolve_right fun ⟨draft, atDraft, same⟩ =>
        (draft_beside_target named followed atDraft).2 same
      rw [Disk.entry?_of_ne_nil _ below, Disk.entry?_of_ne_nil _ below, made]
      refine (paved.entries location.text).imp_right fun madeFor => ?_
      have madeFor := madeFor.of_sameDirectories directories
      have some : name ≠ "" := by
        rintro rfl
        exact absurd (Path.fileName?_eq_some named).1.2.1 (by decide)
      exact ⟨madeFor, madeFor.goes_up (names_path named).1 (names_path named).2 some followed⟩

theorem Leaves.entryAt?_path (named : Path.fileName? store.path = some name)
    (leaves : Leaves store value before after result) (failed : result ≠ .ok ())
    (straight : ".." ∉ Path.names store.path) (rooted : before.Rooted) :
    after.entryAt? store.path = before.entryAt? store.path := by
  have more := leaves.toExtends
  have same {location : Location} (located : after.locate store.path = .ok location) :
      after.entry? location = before.entry? location :=
    (leaves.kept named failed (Disk.locate_eq_ok_iff.mp located).1).resolve_right fun made =>
      straight made.2
  unfold Disk.entryAt?
  cases atBefore : before.locate store.path with
  | ok location =>
      have located := more.locate atBefore
      simp only [located, same located]
  | error reason =>
      cases atAfter : after.locate store.path with
      | error reason => rfl
      | ok location =>
          -- Only directories were missing, so there was nothing in the place either.
          show after.entry? location = none
          refine Decidable.byContradiction fun present => ?_
          rw [same atAfter] at present
          have located := rooted.locate more.workingDirectory straight atAfter (same atAfter).symm
            present
          cases atBefore.symm.trans located

theorem Leaves.stored_path (named : Path.fileName? store.path = some name)
    (leaves : Leaves store value before after (.ok ())) :
    after.readText store.path = .ok (store.codec.encode value) ∧
      ∃ draft, after.locate store.draftPath = .ok draft ∧ after.entry? draft = none := by
  cases leaves with
  | stored paved directories atTarget atDraft entries =>
      have followed := (Disk.locate_eq_ok_iff.mp atTarget).1
      have followedToo := (Disk.locate_eq_ok_iff.mp atDraft).1
      have apart := (draft_beside_target named followed followedToo).2
      have target := Disk.entry?_of_ne_nil after (target_ne_nil named followed)
      have draft := Disk.entry?_of_ne_nil after (draft_ne_nil named followedToo)
      rw [entries, if_pos rfl] at target
      rw [entries, if_neg apart.symm, if_pos rfl] at draft
      exact ⟨Disk.readText_of_located atTarget target, _, atDraft, draft⟩

theorem Leaves.entries (leaves : Leaves store value before after result) (key : String) :
    after.entries.get? key = before.entries.get? key ∨ after.LeadsTo store.draftPath key ∨
      (result = .ok () ∧ after.LeadsTo store.path key) ∨
      Disk.MadeFor store.above before after key := by
  have spared {made : Disk} (paved : Disk.Paved store.above before made)
      (directories : Disk.SameDirectories made after)
      (same : after.entries.get? key = made.entries.get? key) :
      after.entries.get? key = before.entries.get? key ∨
        Disk.MadeFor store.above before after key := by
    rw [same]
    exact (paved.entries key).imp_right fun madeFor => madeFor.of_sameDirectories directories
  cases leaves with
  | failed paved directories others =>
      rcases others key with same | leads
      · exact (spared paved directories same).imp_right fun madeFor => .inr (.inr madeFor)
      · exact .inr (.inl leads)
  | stored paved directories atTarget atDraft entries =>
      have entry := entries key
      split at entry
      · rename_i here
        have followed := (Disk.locate_eq_ok_iff.mp atTarget).1
        exact .inr (.inr (.inl ⟨rfl, _, followed, here⟩))
      split at entry
      · rename_i here
        have followed := (Disk.locate_eq_ok_iff.mp atDraft).1
        exact .inr (.inl ⟨_, followed, here⟩)
      · exact (spared paved directories entry).imp_right fun madeFor => .inr (.inr madeFor)

theorem fst_read_of_undecodable {place : String} {cause : ε}
    (read : (store.read disk).2 = .error (.undecodable place cause)) :
    (store.read disk).1 = disk := by
  unfold FileStore.read at read ⊢
  split at read
  · rfl
  · rw [write_eq] at read
    generalize Disk.runSteps none disk _ = outcome at read
    obtain ⟨after, _ | _⟩ := outcome <;> cases read
  · cases read

/-- What a `write` with a result has made of the disk. -/
structure AllOrNothing (store : FileStore α ε) (value : α) (before after : Disk)
    (result : Except (StoreError ε) Unit) : Prop where
  located {location : Location} (located : before.locate store.path = .ok location) :
    after.locate store.path = .ok location
  /-- A write that failed has left what was in the place of the file.  Only a path that goes up on
  its way can lead to a directory which had to be made for it. -/
  kept {location : Location} (failed : result ≠ .ok ())
    (followed : after.followPath store.path = .ok location) :
    after.entry? location = before.entry? location ∨
      Disk.MadeFor store.above before after location.text ∧ ".." ∈ Path.names store.path
  /-- Any other path leads to what it led to, or to nothing as before. -/
  unchanged (failed : result ≠ .ok ()) (straight : ".." ∉ Path.names store.path)
    (rooted : before.Rooted) : after.entryAt? store.path = before.entryAt? store.path
  /-- A write that succeeded has stored all of its text, and its draft is gone. -/
  stored (succeeded : result = .ok ()) :
    after.readText store.path = .ok (store.codec.encode value) ∧
      ∃ draft, after.locate store.draftPath = .ok draft ∧ after.entry? draft = none
  /-- Nothing else has changed but the draft and the directories that had to be made. -/
  entries (key : String) :
    after.entries.get? key = before.entries.get? key ∨ after.LeadsTo store.draftPath key ∨
      (result = .ok () ∧ after.LeadsTo store.path key) ∨
      Disk.MadeFor store.above before after key

/-- `write` under any fault leaves the file as it was or with the whole text, on any disk of
directories and plain files, and the draft is never the file itself.  A `read` that cannot decode
what is stored changes nothing. -/
theorem write_all_or_nothing (named : Path.fileName? store.path = some name) :
    (store.draftPath ≠ store.path ∧ ∀ (disk : Disk) (target draft : Location),
      disk.followPath store.path = .ok target → disk.followPath store.draftPath = .ok draft →
        draft = target.beside ".tmp" ∧ draft.text ≠ target.text) ∧
    (∀ (fault : Option Disk.Fault) (value : α) (disk : Disk),
      store.AllOrNothing value disk (store.write fault value disk).1
        (store.write fault value disk).2) ∧
    ∀ (disk : Disk) (place : String) (cause : ε),
      (store.read disk).2 = .error (.undecodable place cause) → (store.read disk).1 = disk := by
  refine ⟨⟨draftPath_ne_path named, fun disk target draft => draft_beside_target named⟩, ?_, ?_⟩
  · intro fault value disk
    have leaves := leaves_write named fault value disk
    exact {
      located := leaves.toExtends.locate
      kept := leaves.kept named
      unchanged := leaves.entryAt?_path named
      stored := fun succeeded => (succeeded ▸ leaves).stored_path named
      entries := leaves.entries }
  · intro disk place cause
    exact fst_read_of_undecodable

def countedDisk : Disk where
  entries := .ofList [("/counter", .file 0 (.text "41"))]
  nextNumber := 1

def counterAt (path : String) : FileStore Nat Codec.CounterError := ⟨path, .counter 0⟩

def cutShort : Disk.Fault := ⟨0, some (.text "4")⟩

theorem rooted_countedDisk : countedDisk.Rooted := by
  intro above name present
  by_cases root : above = []
  · rw [root]
    rfl
  · rw [Disk.entry?_of_ne_nil _ (by simp), Option.ne_none_iff_exists'] at present
    obtain ⟨entry, found⟩ := present
    have member := Table.get?_eq_some_iff.mp found
    have only : countedDisk.entries.entries = [("/counter", .file 0 (.text "41"))] := rfl
    rw [only, List.mem_singleton, Prod.mk.injEq, Location.text_concat, if_neg root] at member
    have letters : ("/".intercalate above).toList ++ '/' :: name.toList = "counter".toList := by
      simpa [Location.text] using congrArg String.toList member.1
    have slash : '/' ∈ "counter".toList := by
      rw [← letters]
      simp
    exact absurd slash (by decide)

/-- `write` of 42 that is cut short leaves the 41 that is stored. -/
theorem counter_kept :
    Path.fileName? (counterAt "counter").path = some "counter" ∧
      ((counterAt "counter").write (some cutShort) 42 countedDisk).2 ≠ .ok () ∧
      countedDisk.Rooted ∧
      ((counterAt "counter").write (some cutShort) 42 countedDisk).1.entryAt? "counter" =
        some (.file 0 (.text "41")) ∧
      ((counterAt "counter").write none 42 countedDisk).1.readText "counter" = .ok "42" := by
  have named : Path.fileName? (counterAt "counter").path = some "counter" := by decide +kernel
  have failed : ((counterAt "counter").write (some cutShort) 42 countedDisk).2 ≠ .ok () := by
    intro same
    exact absurd (congrArg Except.isOk same) (by decide +kernel)
  have succeeded : ((counterAt "counter").write none 42 countedDisk).2 = .ok () := by
    with_unfolding_all rfl
  obtain ⟨_, written, _⟩ := write_all_or_nothing named
  have kept := (written (some cutShort) 42 countedDisk).unchanged failed (by decide +kernel)
    rooted_countedDisk
  have encoded : (counterAt "counter").codec.encode 42 = "42" := by decide +kernel
  have stored := ((written none 42 countedDisk).stored succeeded).1
  rw [encoded] at stored
  exact ⟨named, failed, rooted_countedDisk, kept.trans (by decide +kernel), stored⟩

/-- `write` to a path that goes up out of its own place makes that place a directory and fails. -/
theorem counter_becomes_directory :
    Path.fileName? (counterAt "counter/../counter").path = some "counter" ∧
      Disk.entryAt? { entries := .empty } "counter/../counter" = none ∧
      ((counterAt "counter/../counter").write none 1 { entries := .empty }).2 =
        .error (.disk "counter/../counter") ∧
      ((counterAt "counter/../counter").write none 1 { entries := .empty }).1.entryAt?
        "counter/../counter" = some .directory := by
  refine ⟨by decide +kernel, by decide +kernel, by with_unfolding_all rfl, by decide +kernel⟩

end Curfew.FileStore
