import Curfew.Database.Refresh
import Curfew.Proofs.Disk.Step

namespace Curfew

/-! What the files beside a database say, and what a connection makes of them.  A database is
settled when no change to it was cut short. -/

namespace Disk

variable {disk : Disk} {location : Location} {key other : String} {number : Nat}
  {content : Content}

/-- Every file has a number of its own, below the one for the next new file.  No file has two names.
-/
structure Numbered (disk : Disk) : Prop where
  below {key : String} {number : Nat} {content : Content}
    (found : disk.entries.get? key = some (.file number content)) : number < disk.nextNumber
  apart {key other : String} {number : Nat} {content content' : Content}
    (found : disk.entries.get? key = some (.file number content))
    (again : disk.entries.get? other = some (.file number content')) : key = other

def contentIn? (number : Nat) : Entry → Option Content
  | .file other content => if other = number then some content else none
  | .directory => none

theorem contentIn?_eq_some_iff {entry : Entry} :
    contentIn? number entry = some content ↔ entry = .file number content := by
  cases entry with
  | directory => simp [contentIn?]
  | file other held =>
      by_cases same : other = number <;> simp [contentIn?, same]

theorem contentOf_eq (numbered : disk.Numbered)
    (found : disk.entries.get? key = some (.file number content)) :
    disk.contentOf number = content := by
  have member := Table.get?_eq_some_iff.mp found
  have placed : disk.entries.entries.findSome? (fun entry => contentIn? number entry.2) =
      some content := by
    cases result : disk.entries.entries.findSome? fun entry => contentIn? number entry.2 with
    | none =>
        have nowhere := List.findSome?_eq_none_iff.mp result _ member
        rw [contentIn?_eq_some_iff.mpr rfl] at nowhere
        contradiction
    | some other =>
        obtain ⟨⟨otherKey, entry⟩, alsoMember, chosen⟩ := List.exists_of_findSome?_eq_some result
        obtain rfl := contentIn?_eq_some_iff.mp chosen
        have again := Table.get?_eq_some_iff.mpr alsoMember
        obtain rfl := numbered.apart found again
        rw [found] at again
        cases again
        rfl
  change (disk.entries.entries.findSome? (fun entry => contentIn? number entry.2) <|> _).getD _ = _
  rw [placed]
  rfl

theorem Numbered.of_files {next : Disk} (numbered : disk.Numbered)
    (files : ∀ {key : String} {number : Nat} {content : Content},
      next.entries.get? key = some (.file number content) →
        ∃ before, disk.entries.get? key = some (.file number before))
    (nextNumber : next.nextNumber = disk.nextNumber) : next.Numbered where
  below found := by
    obtain ⟨_, before⟩ := files found
    exact nextNumber ▸ numbered.below before
  apart found again := by
    obtain ⟨_, before⟩ := files found
    obtain ⟨_, beforeToo⟩ := files again
    exact numbered.apart before beforeToo

theorem Numbered.putContent (numbered : disk.Numbered) (below : location ≠ []) :
    (disk.putContent location content).Numbered := by
  unfold Disk.putContent
  split
  · rename_i number old found
    rw [entry?_of_ne_nil _ below] at found
    refine numbered.of_files (fun {key} _ _ placed => ?_) rfl
    simp only [put, Table.get?_insert] at placed
    split at placed
    · rename_i same
      cases placed
      exact ⟨old, same ▸ found⟩
    · exact ⟨_, placed⟩
  · have older {key : String} {number : Nat} {content : Content}
        (found : disk.entries.get? key = some (.file number content)) :
        number ≠ disk.nextNumber := Nat.ne_of_lt (numbered.below found)
    refine ⟨fun found => ?_, fun found again => ?_⟩
    · simp only [put, Table.get?_insert] at found ⊢
      split at found
      · cases found
        exact Nat.lt_succ_self _
      · exact Nat.lt_succ_of_lt (numbered.below found)
    · simp only [put, Table.get?_insert] at found again
      split at found <;> split at again
      · rename_i first second
        exact first.symm.trans second
      · cases found
        exact absurd rfl (older again)
      · cases again
        exact absurd rfl (older found)
      · exact numbered.apart found again

theorem Numbered.put_directory (numbered : disk.Numbered) (location : Location) :
    (disk.put location .directory).Numbered := by
  refine numbered.of_files (fun {key _ _} found => ?_) rfl
  simp only [put, Table.get?_insert] at found
  split at found
  · cases found
  · exact ⟨_, found⟩

theorem Numbered.directorySteps (numbered : disk.Numbered) (path : String) :
    (runSteps none disk (disk.directorySteps path)).1.Numbered := by
  refine runSteps_keeps Numbered (fun entry member between next before made => ?_)
    (fun entry member between written before => ?_) numbered
  all_goals
    obtain ⟨directory, _, rfl⟩ := List.mem_map.mp member
  · obtain ⟨location, _, ⟨_, rfl⟩ | ⟨_, rfl⟩⟩ := makeDirectory_eq_ok made
    · exact before
    · exact before.put_directory location
  · exact before

theorem entries_remove (disk : Disk) (location : Location) :
    (disk.remove location).entries = disk.entries.erase location.text := by
  unfold remove detach
  split <;> rfl

theorem remove_eq (disk : Disk) (location : Location) :
    (disk.remove location).nextNumber = disk.nextNumber ∧
      (disk.remove location).connections = disk.connections ∧
      (disk.remove location).workingDirectory = disk.workingDirectory := by
  unfold remove detach
  split <;> exact ⟨rfl, rfl, rfl⟩

theorem Numbered.remove (numbered : disk.Numbered) (location : Location) :
    (disk.remove location).Numbered := by
  refine numbered.of_files (fun {key} _ _ found => ?_) (remove_eq ..).1
  rw [entries_remove, Table.get?_erase] at found
  split at found
  · contradiction
  · exact ⟨_, found⟩

/-- A journal, or none, by which nothing is rolled back. -/
def isSettled : Option Entry → Bool
  | none => true
  | some .directory => false
  | some (.file _ written) => written.isEmpty || written.isVoid

/-- Whether there is a log, unless a directory is in its place. -/
def logState? : Option Entry → Option Bool
  | none => some false
  | some .directory => none
  | some (.file _ written) => some !written.isEmpty

/-- A settled database at a location, in the file with the given number. -/
structure HasDatabase (disk : Disk) (location : Location) (number : Nat) (content : Content)
    (isLogged : Bool) : Prop where
  numbered : disk.Numbered
  below : location ≠ []
  placed : disk.entry? location = some (.file number content)
  journal : isSettled (disk.entry? (location.beside "-journal")) = true
  log : logState? (disk.entry? (location.beside "-wal")) = some isLogged

variable {connection : FileConnection} {next : Disk} {isLogged : Bool}

theorem entry?_remove (disk : Disk) (below : location ≠ []) {removed : Location} :
    Disk.entry? (disk.remove removed) location =
      if removed.text = location.text then none else disk.entry? location := by
  rw [entry?_of_ne_nil _ below, entries_remove, Table.get?_erase, entry?_of_ne_nil _ below]

theorem entry?_putContent_of_ne (disk : Disk) (below : location ≠ []) {put : Location}
    (apart : put.text ≠ location.text) :
    Disk.entry? (disk.putContent put content) location = disk.entry? location := by
  obtain ⟨number, entries, _⟩ := putContent_eq disk put content
  rw [entry?_of_ne_nil _ below, entries, Table.get?_insert, if_neg apart, entry?_of_ne_nil _ below]

/-- `settleJournal?` removes a journal that was left behind, unless it has nothing to roll back. -/
theorem settleJournal?_eq_some (below : connection.location ≠ [])
    (settled : disk.settleJournal? connection content = some next) :
    (next = disk ∨ next = disk.remove connection.journal) ∧
      (isSettled (next.entry? connection.journal) = true ∨
        content.isBlank = true ∧ next.entry? connection.journal = some .directory) := by
  have gone : isSettled (Disk.entry? (disk.remove connection.journal) connection.journal) = true := by
    have besideJournal : connection.journal ≠ [] := Location.beside_ne_nil below _
    rw [entry?_remove _ besideJournal, if_pos rfl]
    rfl
  unfold settleJournal? at settled
  cases found : disk.entry? connection.journal with
  | none =>
      rw [found] at settled
      cases settled
      exact ⟨.inl rfl, .inl (by rw [found]; rfl)⟩
  | some entry =>
      cases entry with
      | directory =>
          simp only [found] at settled
          split at settled
          · rename_i blank
            cases settled
            exact ⟨.inl rfl, .inr ⟨blank, found⟩⟩
          · contradiction
      | file other written =>
          simp only [found] at settled
          split at settled
          · rename_i empty
            cases settled
            exact ⟨.inl rfl, .inl (by simp [found, isSettled, empty])⟩
          · split at settled
            · cases settled
              exact ⟨.inr rfl, .inl gone⟩
            · split at settled
              · contradiction
              · split at settled
                · rename_i void
                  cases settled
                  exact ⟨.inl rfl, .inl (by simp [found, isSettled, void])⟩
                · split at settled
                  · contradiction
                  · cases settled
                    exact ⟨.inr rfl, .inl gone⟩

theorem settleJournal?_of_isSettled (whole : content.isBlank = false)
    (placed : disk.entry? connection.location ≠ none)
    (settled : isSettled (disk.entry? connection.journal) = true) :
    disk.settleJournal? connection content = some disk := by
  unfold settleJournal?
  cases found : disk.entry? connection.journal with
  | none => rfl
  | some entry =>
      cases entry with
      | directory => simp [found, isSettled] at settled
      | file other written =>
          by_cases empty : written.isEmpty = true
          · simp [empty]
          · have void : written.isVoid = true := by simpa [found, isSettled, empty] using settled
            simp [empty, whole, placed, void]

/-- `settleLog?` uses a log that it finds, unless the database is empty. -/
theorem settleLog?_eq_some (below : connection.location ≠ [])
    (settled : disk.settleLog? connection content = some (next, isLogged)) :
    (next = disk ∨ next = disk.remove connection.log ∨
        next = disk.putContent connection.logIndex (.binary 32768)) ∧
      logState? (next.entry? connection.log) = some isLogged ∧
      (isLogged = true → content.isBlank = false) := by
  have besideLog := Location.beside_ne_nil below "-wal"
  have apart : connection.logIndex.text ≠ connection.log.text := fun same =>
    absurd (Location.text_beside_inj below same) (by decide)
  unfold settleLog? at settled
  cases found : disk.entry? connection.log with
  | none =>
      rw [found] at settled
      cases settled
      exact ⟨.inl rfl, by rw [found]; rfl, by simp⟩
  | some entry =>
      cases entry with
      | directory => simp [found] at settled
      | file other written =>
          simp only [found] at settled
          split at settled
          · rename_i empty
            cases settled
            exact ⟨.inl rfl, by simp [found, logState?, empty], by simp⟩
          · rename_i some
            rw [Bool.not_eq_true] at some
            split at settled
            · cases settled
              refine ⟨.inr (.inl rfl), ?_, by simp⟩
              rw [FileConnection.log, entry?_remove _ besideLog, if_pos rfl]
              rfl
            · rename_i whole
              rw [Bool.not_eq_true] at whole
              split at settled
              · contradiction
              · split at settled
                · cases settled
                  exact ⟨.inl rfl, by simp [found, logState?, some], fun _ => whole⟩
                · cases settled
                  refine ⟨.inr (.inr rfl), ?_, fun _ => whole⟩
                  rw [FileConnection.log, entry?_putContent_of_ne _ besideLog apart,
                    ← FileConnection.log, found]
                  simp [logState?, some]

theorem settleLog?_of_logState? (whole : content.isBlank = false)
    (placed : disk.entry? connection.location ≠ none)
    (state : logState? (disk.entry? connection.log) = some isLogged)
    (held : isLogged = true → disk.isLogHeld connection.number = true) :
    disk.settleLog? connection content = some (disk, isLogged) := by
  unfold settleLog?
  cases found : disk.entry? connection.log with
  | none =>
      rw [found] at state
      cases state
      rfl
  | some entry =>
      cases entry with
      | directory => simp [found, logState?] at state
      | file other written =>
          obtain rfl : (!written.isEmpty) = isLogged := by
            rw [found] at state
            exact Option.some.inj state
          by_cases empty : written.isEmpty = true
          · simp [empty]
          · have held := held (by simpa using empty)
            simp [empty, whole, placed, held]

end Disk

end Curfew
