import Curfew.Proofs.Database.Opening
import Curfew.Proofs.SavedState
import Curfew.Store.Codec
import Curfew.Store.Database

namespace Curfew

/-! Stores in databases that nobody else changes. -/

namespace Disk

variable {disk : Disk} {handles : List Nat} {handle : Nat} {changeable : Bool}

/-- The rows that are read through a connection. -/
def rows? (disk : Disk) (handle : Nat) : Option (Table String) := (disk.rowsOf handle).2

/-- Connections each of which has a memory of its own, or which share a database that can be changed
or not. -/
inductive Keeps (handles : List Nat) : Bool → Disk → Prop where
  | memory {disk : Disk}
      (each : ∀ handle ∈ handles, ∃ rows, disk.connections[handle]? = some (.memory rows)) :
      Keeps handles true disk
  | file {disk : Disk} {location : Location} {number : Nat} {isLogged changeable : Bool}
      {rows : Table String} {changes : Nat}
      (shares : disk.Shares handles location number isLogged changeable rows changes) :
      Keeps handles changeable disk

theorem rows?_of_shares {location : Location} {number : Nat} {isLogged : Bool}
    {rows : Table String} {changes : Nat}
    (shares : disk.Shares handles location number isLogged changeable rows changes)
    (member : handle ∈ handles) : disk.rows? handle = some rows := by
  obtain ⟨_, _, _, read, _⟩ := rowsOf_of_shares shares member
  rw [rows?, read]

theorem Keeps.rowsOf (keeps : Keeps handles changeable disk) (member : handle ∈ handles) :
    (∃ rows, disk.rows? handle = some rows) ∧ Keeps handles changeable (disk.rowsOf handle).1 ∧
      ∀ other ∈ handles, (disk.rowsOf handle).1.rows? other = disk.rows? other := by
  cases keeps with
  | memory each =>
      obtain ⟨rows, found⟩ := each handle member
      have read : disk.rowsOf handle = (disk, some rows) := by simp [Disk.rowsOf, found]
      rw [rows?, read]
      exact ⟨⟨rows, rfl⟩, .memory each, fun _ _ => rfl⟩
  | file shares =>
      obtain ⟨_, _, _, read, still⟩ := rowsOf_of_shares shares member
      refine ⟨⟨_, congrArg Prod.snd read⟩, .file still, fun other alsoMember => ?_⟩
      rw [rows?_of_shares still alsoMember, rows?_of_shares shares alsoMember]

theorem putRows?_of_memory
    (each : ∀ handle ∈ handles, ∃ rows, disk.connections[handle]? = some (.memory rows))
    (member : handle ∈ handles) (rows : Table String) :
    ∃ next, (disk.rowsOf handle).1.putRows? handle rows = some next ∧
      (∀ handle ∈ handles, ∃ rows, next.connections[handle]? = some (.memory rows)) ∧
      next.rows? handle = some rows ∧
      ∀ other ∈ handles, other ≠ handle → next.rows? other = disk.rows? other := by
  obtain ⟨old, found⟩ := each handle member
  have within := (List.getElem?_eq_some_iff.mp found).1
  have read : (disk.rowsOf handle).1 = disk := by simp [Disk.rowsOf, found]
  have here : (disk.putConnection handle (.memory rows)).connections[handle]? =
      some (.memory rows) := List.getElem?_set_self within
  have elsewhere {other : Nat} (different : other ≠ handle) :
      (disk.putConnection handle (.memory rows)).connections[other]? =
        disk.connections[other]? := List.getElem?_set_ne different.symm
  refine ⟨disk.putConnection handle (.memory rows), ?_, fun other alsoMember => ?_, ?_,
    fun other alsoMember different => ?_⟩
  · rw [read]
    simp [Disk.putRows?, found]
  · by_cases same : other = handle
    · exact ⟨rows, same ▸ here⟩
    · obtain ⟨others, there⟩ := each other alsoMember
      exact ⟨others, (elsewhere same).trans there⟩
  · simp [rows?, Disk.rowsOf, here]
  · obtain ⟨others, there⟩ := each other alsoMember
    simp [rows?, Disk.rowsOf, (elsewhere different).trans there, there]

/-- After `putRows?` the new rows are read through that connection and through every other that
shares its database. -/
theorem Keeps.putRows? (keeps : Keeps handles changeable disk) (member : handle ∈ handles)
    (rows : Table String) :
    if changeable then
      ∃ next, (disk.rowsOf handle).1.putRows? handle rows = some next ∧
        Keeps handles changeable next ∧ next.rows? handle = some rows ∧
        ∀ other ∈ handles, other ≠ handle → next.rows? other = disk.rows? other ∨
          next.rows? other = some rows ∧ disk.rows? other = disk.rows? handle
    else (disk.rowsOf handle).1.putRows? handle rows = none := by
  cases keeps with
  | memory each =>
      obtain ⟨next, put, still, here, others⟩ := putRows?_of_memory each member rows
      exact ⟨next, put, .memory still, here, fun other alsoMember different =>
        .inl (others other alsoMember different)⟩
  | file shares =>
      have put := putRows?_of_shares shares member rows
      cases changeable with
      | false => exact put
      | true =>
          obtain ⟨next, changes, put, still⟩ := put
          refine ⟨next, put, .file still, rows?_of_shares still member,
            fun other alsoMember _ => .inr ⟨rows?_of_shares still alsoMember, ?_⟩⟩
          rw [rows?_of_shares shares alsoMember, rows?_of_shares shares member]

end Disk

namespace DatabaseStore

variable {α ε β δ : Type} {store : DatabaseStore α ε} {disk : Disk} {handles : List Nat}
  {changeable : Bool} {fault : Option Disk.Fault} {value : α}

/-- The text in the row of the store. -/
def cell (store : DatabaseStore α ε) (disk : Disk) : Cell :=
  (disk.rows? store.connection).bind (·.get? store.key)

theorem write_none_of_keeps (keeps : Disk.Keeps handles true disk)
    (member : store.connection ∈ handles) (value : α) :
    ∃ next rows, store.write none value disk = (next, .ok ()) ∧ Disk.Keeps handles true next ∧
      disk.rows? store.connection = some rows ∧
      next.rows? store.connection =
        some (rows.insert store.key (store.codec.encode value)) ∧
      ∀ other ∈ handles, other ≠ store.connection → next.rows? other = disk.rows? other ∨
        disk.rows? other = some rows ∧
          next.rows? other = some (rows.insert store.key (store.codec.encode value)) := by
  obtain ⟨⟨rows, shown⟩, _, _⟩ := keeps.rowsOf member
  have put := keeps.putRows? member (rows.insert store.key (store.codec.encode value))
  rw [if_pos rfl] at put
  obtain ⟨next, put, keepsNext, here, others⟩ := put
  have read : (disk.rowsOf store.connection).2 = some rows := shown
  refine ⟨next, rows, ?_, keepsNext, shown, here, fun other alsoMember different => ?_⟩
  · simp [write, read, put]
  · refine (others other alsoMember different).imp_right fun both => ?_
    exact ⟨both.2.trans shown, both.1⟩

/-- A `write` that fails leaves every row as it was. -/
theorem write_of_refused (keeps : Disk.Keeps handles changeable disk)
    (member : store.connection ∈ handles) (refused : fault ≠ none ∨ changeable = false)
    (value : α) :
    ∃ next, store.write fault value disk = (next, .error .database) ∧
      Disk.Keeps handles changeable next ∧
      ∀ other ∈ handles, next.rows? other = disk.rows? other := by
  cases fault with
  | some fault => exact ⟨disk, rfl, keeps, fun _ _ => rfl⟩
  | none =>
      obtain rfl : changeable = false := by simpa using refused
      obtain ⟨⟨rows, shown⟩, still, same⟩ := keeps.rowsOf member
      have put := keeps.putRows? member (rows.insert store.key (store.codec.encode value))
      rw [if_neg (by simp)] at put
      have read : (disk.rowsOf store.connection).2 = some rows := shown
      exact ⟨_, by simp [write, read, put], still, same⟩

theorem cell_of_rows {rows : Table String} (shown : disk.rows? store.connection = some rows) :
    store.cell disk = rows.get? store.key := by
  simp [cell, shown]

/-- A `write` leaves the row of a store with another key and another connection. -/
theorem cell_of_write_other {other : DatabaseStore β δ} (keeps : Disk.Keeps handles changeable disk)
    (member : store.connection ∈ handles) (alsoMember : other.connection ∈ handles)
    (connections : other.connection ≠ store.connection) (keys : store.key ≠ other.key)
    (fault : Option Disk.Fault) (value : α) :
    other.cell (store.write fault value disk).1 = other.cell disk := by
  by_cases refused : fault ≠ none ∨ changeable = false
  · obtain ⟨next, wrote, _, same⟩ := write_of_refused keeps member refused value
    rw [wrote, cell, cell, same _ alsoMember]
  · obtain ⟨rfl, rfl⟩ : fault = none ∧ changeable = true := by simpa using refused
    obtain ⟨next, rows, wrote, _, _, _, others⟩ := write_none_of_keeps keeps member value
    rw [wrote]
    rcases others _ alsoMember connections with same | ⟨before, after⟩
    · rw [cell, cell, same]
    · rw [cell_of_rows before, cell_of_rows after, Table.get?_insert_other _ keys.symm]

theorem read_eq_ok_of_cell {text : String} (full : store.cell disk = some text)
    (decoded : store.codec.decode text = .ok value) : (store.read disk).2 = .ok value := by
  obtain ⟨rows, shown, found⟩ := Option.bind_eq_some_iff.mp full
  have read : (disk.rowsOf store.connection).2 = some rows := shown
  simp [DatabaseStore.read, read, found, decoded, mapError_ok]

theorem fst_read (store : DatabaseStore α ε) (disk : Disk) :
    (store.read disk).1 = (disk.rowsOf store.connection).1 ∨
      (store.read disk).1 =
        (store.write none store.codec.fallback (disk.rowsOf store.connection).1).1 := by
  unfold read
  generalize disk.rowsOf store.connection = looked
  obtain ⟨next, rows?⟩ := looked
  cases rows? with
  | none => exact .inl rfl
  | some rows =>
      cases found : rows.get? store.key with
      | some text => simp [found]
      | none => simp [found]

theorem keeps_write (keeps : Disk.Keeps handles changeable disk)
    (member : store.connection ∈ handles) (fault : Option Disk.Fault) (value : α) :
    Disk.Keeps handles changeable (store.write fault value disk).1 := by
  by_cases refused : fault ≠ none ∨ changeable = false
  · obtain ⟨next, wrote, still, _⟩ := write_of_refused keeps member refused value
    rw [wrote]
    exact still
  · obtain ⟨rfl, rfl⟩ : fault = none ∧ changeable = true := by simpa using refused
    obtain ⟨next, _, wrote, still, _⟩ := write_none_of_keeps keeps member value
    rw [wrote]
    exact still

theorem keeps_read (keeps : Disk.Keeps handles changeable disk)
    (member : store.connection ∈ handles) :
    Disk.Keeps handles changeable (store.read disk).1 := by
  obtain ⟨_, still, _⟩ := keeps.rowsOf member
  rcases store.fst_read disk with looked | wrote
  · rw [looked]
    exact still
  · rw [wrote]
    exact keeps_write still member ..

end DatabaseStore

namespace Disk

variable {disk next last : Disk} {handle again : Nat} {text : String}

theorem keeps_of_openDatabase (numbered : disk.Numbered)
    (opened : disk.openDatabase text = (next, some handle)) :
    ∃ changeable, Keeps [handle] changeable next := by
  obtain ⟨name, _, ⟨_, added⟩ | ⟨_, below, opened⟩⟩ := openDatabase_eq_some opened
  · cases added
    refine ⟨true, .memory fun other member => ?_⟩
    obtain rfl := List.mem_singleton.mp member
    exact ⟨.empty, getElem?_addConnection disk _⟩
  · obtain ⟨_, _, _, _, _, _, _, shares, _⟩ := shares_of_openDatabaseFile numbered below opened
    exact ⟨_, .file shares⟩

theorem keeps_of_openDatabase_again (numbered : disk.Numbered)
    (opened : disk.openDatabase text = (next, some handle))
    (reopened : next.openDatabase text = (last, some again)) :
    again ≠ handle ∧ ∃ changeable, Keeps [handle, again] changeable last := by
  obtain ⟨name, read, first⟩ := openDatabase_eq_some opened
  obtain ⟨same, readToo, second⟩ := openDatabase_eq_some reopened
  obtain rfl : name = same := Option.some.inj (read.symm.trans readToo)
  rcases first with ⟨memory, added⟩ | ⟨file, below, opened⟩
  · obtain ⟨_, addedToo⟩ := second.resolve_right fun both => by simp [memory] at both
    cases added
    cases addedToo
    refine ⟨by simp, true, .memory fun other member => ?_⟩
    rcases List.mem_cons.mp member with rfl | last
    · exact ⟨.empty, by simp⟩
    · obtain rfl := List.mem_singleton.mp last
      exact ⟨.empty, getElem?_addConnection _ _⟩
  · obtain ⟨_, _, openedToo⟩ := second.resolve_left fun both => by simp [file] at both
    obtain ⟨directory, _, _, _, _, _, _, shares, found, writable⟩ :=
      shares_of_openDatabaseFile numbered below opened
    rw [directory] at openedToo
    obtain ⟨different, _, shared⟩ :=
      shares_of_openDatabaseFile_again shares found writable openedToo
    exact ⟨different, _, .file shared⟩

end Disk

end Curfew
