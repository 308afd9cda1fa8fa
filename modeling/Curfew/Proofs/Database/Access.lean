import Curfew.Database.Access
import Curfew.Proofs.Database.Refresh

namespace Curfew

/-! Several connections to one database: each reads what any of them has written. -/

namespace FileConnection

variable {connection : FileConnection} {rows : Table String} {changes : Nat}

/-- What the connection has cached is not from another database. -/
structure Knows (connection : FileConnection) (rows : Table String) (changes : Nat) : Prop where
  view : ∃ cached, connection.view = .table cached ∧
    (connection.isLogged = false → connection.changes = changes → ∀ known ∈ cached, known = rows)
  recent : connection.changes ≤ changes

/-- The connection with the rows and the count of changes cached. -/
def upTo (connection : FileConnection) (rows : Table String) (changes : Nat) : FileConnection :=
  { connection with view := .table rows, changes }

theorem knows_upTo (connection : FileConnection) (rows : Table String) (changes : Nat) :
    (connection.upTo rows changes).Knows rows changes where
  view := ⟨some rows, rfl, fun _ _ _ same => (Option.some.inj same).symm⟩
  recent := Nat.le_refl _

theorem seeing_settings (connection : FileConnection) (content : Content) :
    (connection.seeing content).number = connection.number ∧
      (connection.seeing content).isLogged = connection.isLogged ∧
      (connection.seeing content).location = connection.location ∧
      (connection.seeing content).isWritable = connection.isWritable := by
  unfold seeing
  split
  · split <;> exact ⟨rfl, rfl, rfl, rfl⟩
  · split
    · exact ⟨rfl, rfl, rfl, rfl⟩
    · split <;> exact ⟨rfl, rfl, rfl, rfl⟩

theorem readingRows_seeing (knows : connection.Knows rows changes) :
    (connection.seeing (.database rows changes)).readingRows (.database rows changes) =
      (connection.upTo rows changes, some rows) := by
  obtain ⟨⟨cached, view, same⟩, _⟩ := knows
  obtain ⟨location, number, isWritable, shown, counted, isLogged⟩ := connection
  simp only at view same
  subst view
  by_cases current : counted = changes ∧ isLogged = false
  · obtain ⟨rfl, rfl⟩ := current
    cases cached with
    | none => simp [seeing, readingRows, upTo]
    | some known =>
        obtain rfl := same rfl rfl known rfl
        simp [seeing, readingRows, upTo]
  · have stale : ¬ (DatabaseView.table cached ≠ .unread ∧ counted = changes ∧
        (!isLogged) = true) := by
      simpa using current
    simp only [seeing, if_neg stale, readingRows, upTo]

end FileConnection

namespace Disk

variable {disk next : Disk} {location : Location} {number handle : Nat} {isLogged : Bool}
  {content : Content} {connection : FileConnection} {rows : Table String} {changes : Nat}

theorem HasDatabase.contentOf (has : disk.HasDatabase location number content isLogged) :
    disk.contentOf number = content := by
  have placed := has.placed
  rw [entry?_of_ne_nil _ has.below] at placed
  exact contentOf_eq has.numbered placed

theorem HasDatabase.congr (has : disk.HasDatabase location number content isLogged)
    (entries : next.entries = disk.entries) (nextNumber : next.nextNumber = disk.nextNumber) :
    next.HasDatabase location number content isLogged := by
  have entry (at' : Location) : next.entry? at' = disk.entry? at' := by
    cases at' with
    | nil => rfl
    | cons => exact congrArg (Table.get? · _) entries
  refine ⟨has.numbered.of_files (fun found => ⟨_, entries ▸ found⟩) nextNumber, has.below, ?_, ?_, ?_⟩
  · rw [entry, has.placed]
  · rw [entry, has.journal]
  · rw [entry, has.log]

/-- `refresh` on a settled database changes nothing on the disk. -/
theorem refresh_of_hasDatabase (connection : FileConnection)
    (has : disk.HasDatabase location number content isLogged)
    (whole : content.isBlank = false) (atLocation : connection.location = location)
    (ofNumber : connection.number = number)
    (log : connection.isLogged = isLogged ∨
      connection.isLogged = false ∧ disk.isLogHeld number = true) :
    disk.refresh connection = (disk, { connection.seeing content with isLogged }, true) := by
  subst atLocation ofNumber
  have placed : disk.entry? connection.location ≠ none := by simp [has.placed]
  unfold refresh
  rw [has.contentOf]
  by_cases logged : connection.isLogged = true
  · have both : isLogged = true := by
      rcases log with same | ⟨off, _⟩
      · exact same.symm.trans logged
      · simp [off] at logged
    rw [if_pos logged, both, ← logged, ← (connection.seeing_settings content).2.1]
  · rw [if_neg logged, settleJournal?_of_isSettled whole placed has.journal]
    have held : isLogged = true → disk.isLogHeld connection.number = true := by
      rintro rfl
      rcases log with same | ⟨_, held⟩
      · exact absurd same logged
      · exact held
    simp only
    rw [settleLog?_of_logState? whole placed has.log held]

theorem get?_overwrite (numbered : disk.Numbered) {key : String} {old : Content}
    (placed : disk.entries.get? key = some (.file number old)) (content : Content)
    (other : String) :
    (disk.overwrite number content).entries.get? other =
      if key = other then some (.file number content) else disk.entries.get? other := by
  simp only [overwrite, Table.get?_map]
  split
  · rename_i same
    simp [← same, placed]
  · rename_i apart
    cases found : disk.entries.get? other with
    | none => rfl
    | some entry =>
        cases entry with
        | directory => rfl
        | file otherNumber held =>
            have different : otherNumber ≠ number := by
              rintro rfl
              exact apart (numbered.apart placed found)
            simp [different]

theorem any_set {α : Type} {list : List α} {position : Nat} {old new : α} (test : α → Bool)
    (found : list[position]? = some old) (same : test new = test old) :
    (list.set position new).any test = list.any test := by
  induction list generalizing position with
  | nil => rfl
  | cons first rest ih =>
      cases position with
      | zero =>
          obtain rfl : first = old := by simpa using found
          simp [same]
      | succ position => simp [ih (by simpa using found)]

/-- `isLogHeld` does not depend on what a connection has cached. -/
theorem isLogHeld_of_connections {old new : FileConnection}
    (found : disk.connections[handle]? = some (.file old))
    (connections : next.connections = disk.connections.set handle (.file new))
    (log : new.isLogged = old.isLogged) (same : new.number = old.number) (number : Nat) :
    next.isLogHeld number = disk.isLogHeld number := by
  unfold isLogHeld
  rw [connections]
  exact any_set _ found (by simp only [log, same])

theorem connections_changeRows (disk : Disk) (handle : Nat) (connection : FileConnection)
    (rows : Table String) :
    (disk.changeRows handle connection rows).connections =
      disk.connections.set handle (.file (connection.upTo rows
        (if connection.isLogged then connection.changes else connection.changes + 1))) := by
  unfold changeRows putConnection overwrite
  simp only
  split
  · rfl
  · rw [(remove_eq ..).2.1]
    rfl

/-- After `changeRows` the file holds the new rows, and there is no journal unless changes go to the
log. -/
theorem get?_changeRows (handle : Nat) (has : disk.HasDatabase location number content isLogged)
    (atLocation : connection.location = location) (ofNumber : connection.number = number)
    (rows : Table String) (key : String) :
    (disk.changeRows handle connection rows).entries.get? key =
      if location.text = key then
        some (.file number (.database rows
          (if connection.isLogged then connection.changes else connection.changes + 1)))
      else if connection.isLogged = false ∧ (location.beside "-journal").text = key then none
      else disk.entries.get? key := by
  subst atLocation ofNumber
  have placed := has.placed
  rw [entry?_of_ne_nil _ has.below] at placed
  have apart := Location.text_beside_ne has.below (show "-journal" ≠ "" by decide)
  change (overwrite (if connection.isLogged then disk else disk.remove connection.journal)
    connection.number _).entries.get? key = _
  cases logged : connection.isLogged with
  | true =>
      simp only [if_true, Bool.true_eq_false, false_and, if_false]
      exact get?_overwrite has.numbered placed _ key
  | false =>
      have stillPlaced : (disk.remove connection.journal).entries.get? connection.location.text =
          some (.file connection.number content) := by
        rw [entries_remove, FileConnection.journal, Table.get?_erase, if_neg apart, placed]
      simp only [Bool.false_eq_true, if_false, true_and]
      rw [get?_overwrite (has.numbered.remove _) stillPlaced, entries_remove, Table.get?_erase]
      rfl

theorem hasDatabase_changeRows (has : disk.HasDatabase location number content isLogged)
    (atLocation : connection.location = location) (ofNumber : connection.number = number)
    (rows : Table String) :
    (disk.changeRows handle connection rows).HasDatabase location number
      (.database rows (if connection.isLogged then connection.changes else connection.changes + 1))
      isLogged := by
  have found := get?_changeRows handle has atLocation ofNumber rows
  have besideJournal := Location.beside_ne_nil has.below "-journal"
  have besideLog := Location.beside_ne_nil has.below "-wal"
  have journal := has.journal
  have log := has.log
  rw [entry?_of_ne_nil _ besideJournal] at journal
  rw [entry?_of_ne_nil _ besideLog] at log
  refine ⟨?_, has.below, ?_, ?_, ?_⟩
  · refine has.numbered.of_files (fun {key number' content'} placed => ?_) ?_
    · rw [found] at placed
      split at placed
      · rename_i same
        cases placed
        have before := has.placed
        rw [entry?_of_ne_nil _ has.below, same] at before
        exact ⟨_, before⟩
      · split at placed
        · contradiction
        · exact ⟨_, placed⟩
    · unfold changeRows putConnection overwrite
      simp only
      split
      · rfl
      · exact (remove_eq ..).1
  · rw [entry?_of_ne_nil _ has.below, found, if_pos rfl]
  · have apart := Location.text_beside_ne has.below (show "-journal" ≠ "" by decide)
    rw [entry?_of_ne_nil _ besideJournal, found, if_neg apart.symm]
    split
    · rfl
    · exact journal
  · have apart := Location.text_beside_ne has.below (show "-wal" ≠ "" by decide)
    have different : (location.beside "-journal").text ≠ (location.beside "-wal").text :=
      fun same => absurd (Location.text_beside_inj has.below same) (by decide)
    rw [entry?_of_ne_nil _ besideLog, found, if_neg apart.symm, if_neg (by simp [different])]
    exact log

theorem canChange_of_hasDatabase (has : disk.HasDatabase location number content isLogged)
    (atLocation : connection.location = location) (ofNumber : connection.number = number) :
    disk.canChange connection = (connection.isWritable &&
      if connection.isLogged then decide (disk.entry? connection.logIndex ≠ some .directory)
      else !disk.isLogHeld number &&
        decide ((connection.journal.getLast?.getD "").utf8ByteSize ≤ Path.maxNameWidth)) := by
  subst atLocation ofNumber
  have noDirectory : disk.entry? connection.journal ≠ some .directory := by
    intro here
    have settled := has.journal
    rw [show connection.location.beside "-journal" = connection.journal from rfl, here] at settled
    contradiction
  simp [canChange, isInPlace, has.placed, noDirectory]

/-- A connection to the file at a location, in the mode that keeps a log or not. -/
structure IsTo (connection : FileConnection) (location : Location) (number : Nat)
    (isLogged : Bool) : Prop where
  location : connection.location = location
  number : connection.number = number
  isLogged : connection.isLogged = isLogged

/-- Connections to one settled database, all of which read the same rows. -/
structure Shares (disk : Disk) (handles : List Nat) (location : Location) (number : Nat)
    (isLogged changeable : Bool) (rows : Table String) (changes : Nat) : Prop where
  database : disk.HasDatabase location number (.database rows changes) isLogged
  connected : ∀ handle ∈ handles, ∃ connection,
    disk.connections[handle]? = some (.file connection) ∧
      IsTo connection location number isLogged ∧ connection.Knows rows changes ∧
        disk.canChange connection = changeable

variable {handles : List Nat} {changeable : Bool} {rows' : Table String} {changes' : Nat}

theorem shares_single (has : disk.HasDatabase location number (.database rows changes) isLogged)
    (found : disk.connections[handle]? = some (.file connection))
    (isTo : IsTo connection location number isLogged) (knows : connection.Knows rows changes) :
    disk.Shares [handle] location number isLogged (disk.canChange connection) rows changes := by
  refine ⟨has, fun other member => ?_⟩
  obtain rfl := List.mem_singleton.mp member
  exact ⟨connection, found, isTo, knows, rfl⟩

/-- The connections still share their database after one of them has cached or changed its rows. -/
theorem Shares.set (shares : disk.Shares handles location number isLogged changeable rows changes)
    (found : disk.connections[handle]? = some (.file connection))
    (isTo : IsTo connection location number isLogged)
    (database : next.HasDatabase location number (.database rows' changes') isLogged)
    (connections : next.connections =
      disk.connections.set handle (.file (connection.upTo rows' changes')))
    (index : next.entry? (location.beside "-shm") = some .directory ↔
      disk.entry? (location.beside "-shm") = some .directory)
    (known : ∀ other : FileConnection, other.isLogged = isLogged → other.Knows rows changes →
      other.Knows rows' changes') :
    next.Shares handles location number isLogged changeable rows' changes' := by
  have canChange {one other : FileConnection} (isTo : IsTo one location number isLogged)
      (isToo : IsTo other location number isLogged) (writable : other.isWritable = one.isWritable) :
      next.canChange other = disk.canChange one := by
    have held := isLogHeld_of_connections found connections rfl rfl number
    rw [canChange_of_hasDatabase database isToo.location isToo.number,
      canChange_of_hasDatabase shares.database isTo.location isTo.number, writable, held,
      isToo.isLogged, isTo.isLogged, FileConnection.logIndex, FileConnection.logIndex,
      FileConnection.journal, FileConnection.journal, isToo.location, isTo.location]
    simp only [ne_eq, index]
  refine ⟨database, fun other member => ?_⟩
  obtain ⟨connected, there, isToo, knows, changes⟩ := shares.connected other member
  by_cases same : other = handle
  · subst same
    cases found.symm.trans there
    have within : other < disk.connections.length := (List.getElem?_eq_some_iff.mp there).1
    refine ⟨connection.upTo rows' changes', ?_, ⟨isTo.location, isTo.number, isTo.isLogged⟩,
      connection.knows_upTo rows' changes', ?_⟩
    · rw [connections, List.getElem?_set_self within]
    · exact (canChange isTo ⟨isTo.location, isTo.number, isTo.isLogged⟩ rfl).trans changes
  · refine ⟨connected, ?_, isToo, known connected isToo.isLogged knows, ?_⟩
    · rw [connections, List.getElem?_set_ne (Ne.symm same), there]
    · exact (canChange isToo isToo rfl).trans changes

theorem rowsOf_of_shares
    (shares : disk.Shares handles location number isLogged changeable rows changes)
    (member : handle ∈ handles) :
    ∃ connection, disk.connections[handle]? = some (.file connection) ∧
      IsTo connection location number isLogged ∧
      disk.rowsOf handle =
        (disk.putConnection handle (.file (connection.upTo rows changes)), some rows) ∧
      (disk.rowsOf handle).1.Shares handles location number isLogged changeable rows changes := by
  obtain ⟨connection, found, isTo, knows, _⟩ := shares.connected handle member
  have looked := refresh_of_hasDatabase connection shares.database rfl
    isTo.location isTo.number (.inl isTo.isLogged)
  obtain ⟨sameNumber, sameLog, _⟩ := connection.seeing_settings (.database rows changes)
  have unchanged : { connection.seeing (.database rows changes) with isLogged } =
      connection.seeing (.database rows changes) := by
    rw [← isTo.isLogged, ← sameLog]
  have read : disk.rowsOf handle =
      (disk.putConnection handle (.file (connection.upTo rows changes)), some rows) := by
    simp only [rowsOf, found, looked, unchanged, if_true]
    rw [sameNumber, isTo.number, shares.database.contentOf,
      FileConnection.readingRows_seeing knows]
  refine ⟨connection, found, isTo, read, ?_⟩
  rw [read]
  exact shares.set found isTo (shares.database.congr rfl rfl) rfl .rfl fun _ _ knows => knows

/-- After `putRows?` through one connection, `rowsOf` gives the new rows through all of them. -/
theorem putRows?_of_shares
    (shares : disk.Shares handles location number isLogged changeable rows changes)
    (member : handle ∈ handles) (rows' : Table String) :
    if changeable then
      ∃ next changes', (disk.rowsOf handle).1.putRows? handle rows' = some next ∧
        next.Shares handles location number isLogged changeable rows' changes'
    else (disk.rowsOf handle).1.putRows? handle rows' = none := by
  obtain ⟨connection, found, isTo, read, still⟩ := rowsOf_of_shares shares member
  have within : handle < disk.connections.length := (List.getElem?_eq_some_iff.mp found).1
  have upToDate : (disk.rowsOf handle).1.connections[handle]? =
      some (.file (connection.upTo rows changes)) := by
    rw [read]
    exact List.getElem?_set_self within
  obtain ⟨connected, there, isToo, knows, canChange⟩ := still.connected handle member
  obtain rfl : connection.upTo rows changes = connected := by
    simpa using upToDate.symm.trans there
  simp only [putRows?, upToDate, canChange]
  cases changeable with
  | false => rfl
  | true =>
      refine ⟨_, _, rfl, still.set upToDate isToo
        (hasDatabase_changeRows still.database isToo.location isToo.number rows')
        (connections_changeRows ..) ?_ ?_⟩
      · have below := still.database.below
        have besideIndex := Location.beside_ne_nil below "-shm"
        have notDatabase := Location.text_beside_ne below (show "-shm" ≠ "" by decide)
        have notJournal : (location.beside "-journal").text ≠ (location.beside "-shm").text :=
          fun same => absurd (Location.text_beside_inj below same) (by decide)
        rw [entry?_of_ne_nil _ besideIndex, get?_changeRows handle still.database isToo.location
          isToo.number, if_neg notDatabase.symm, if_neg (by simp [notJournal]),
          entry?_of_ne_nil _ besideIndex]
      · intro other sameLog known
        obtain ⟨⟨cached, view, _⟩, recent⟩ := known
        rw [isToo.isLogged, ← sameLog]
        cases logged : other.isLogged with
        | true =>
            exact ⟨⟨cached, view, fun off => by simp [logged] at off⟩, recent⟩
        | false =>
            -- The change is counted, so what others have kept is known to be older.
            refine ⟨⟨cached, view, fun _ current => ?_⟩, Nat.le_succ_of_le recent⟩
            exact absurd current (Nat.ne_of_lt (Nat.lt_succ_of_le recent))

end Disk

end Curfew
