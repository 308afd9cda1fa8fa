import Curfew.Database.Placement
import Curfew.Database.Refresh

namespace Curfew.Disk

/-! How databases are opened, read, written and closed. -/

def putConnection (disk : Disk) (handle : Nat) (connection : Connection) : Disk :=
  { disk with connections := disk.connections.set handle connection }

/-- Adds a connection, whose handle is its position. -/
def addConnection (disk : Disk) (connection : Connection) : Disk × Nat :=
  ({ disk with connections := disk.connections ++ [connection] }, disk.connections.length)

/-- The rows of the database that has been opened. -/
def rowsOf (disk : Disk) (handle : Nat) : Disk × Option (Table String) :=
  match disk.connections[handle]? with
  | some (.memory rows) => (disk, some rows)
  | some (.file connection) =>
      let (disk, connection, isSeen) := disk.refresh connection
      let (connection, rows?) :=
        if isSeen then connection.readingRows (disk.contentOf connection.number)
        else (connection, none)
      (disk.putConnection handle (.file connection), rows?)
  | some .closed | none => (disk, none)

/-- Whether a change can be written.  Without a log the file must be where it was and leave room
for a journal, and no one else may hold a log. -/
def canChange (disk : Disk) (connection : FileConnection) : Bool :=
  connection.isWritable &&
    if connection.isLogged then decide (disk.entry? connection.logIndex ≠ some .directory)
    else
      disk.isInPlace connection && !disk.isLogHeld connection.number &&
        decide (disk.entry? connection.journal ≠ some .directory) &&
        (connection.journal.getLast?.getD "").utf8ByteSize ≤ Path.maxNameWidth

/-- Puts other content into the file with a number. -/
def overwrite (disk : Disk) (number : Nat) (content : Content) : Disk :=
  { disk with
    entries := disk.entries.map fun _ entry =>
      match entry with
      | .file other old => .file other (if other = number then content else old)
      | .directory => .directory
    detached := disk.detached.map fun (other, old) =>
      (other, if other = number then content else old) }

/-- Puts rows into the file of a connection.  Without a log the change is counted, and nothing is
left of its journal. -/
def changeRows (disk : Disk) (handle : Nat) (connection : FileConnection)
    (rows : Table String) : Disk :=
  let changes := if connection.isLogged then connection.changes else connection.changes + 1
  let disk := if connection.isLogged then disk else disk.remove connection.journal
  (disk.overwrite connection.number (.database rows changes)).putConnection handle
    (.file { connection with view := .table rows, changes })

/-- Puts rows in the place of those of an open database. -/
def putRows? (disk : Disk) (handle : Nat) (rows : Table String) : Option Disk :=
  match disk.connections[handle]? with
  | some (.memory _) => some (disk.putConnection handle (.memory rows))
  | some (.file connection) =>
      if disk.canChange connection then some (disk.changeRows handle connection rows) else none
  | some .closed | none => none

/-- The last connection that has a log takes it away, if it could write to it. -/
def closeDatabase (disk : Disk) (handle : Nat) : Disk :=
  match disk.connections[handle]? with
  | some (.file connection) =>
      let disk := disk.putConnection handle .closed
      if !connection.isLogged || disk.isLogHeld connection.number ||
          decide (disk.entry? connection.logIndex = some .directory) then disk
      else (disk.remove connection.log).remove connection.logIndex
  | _ => disk.putConnection handle .closed

def closeDatabases (disk : Disk) : Disk :=
  (List.range disk.connections.length).foldl closeDatabase disk

/-- Opens the database in a file and makes its table if it has none. -/
def openDatabaseFile (disk : Disk) (name : DatabaseName) (location : Location) :
    Disk × Option Nat :=
  match disk.openFile? name.mode location with
  | none => (disk, none)
  | some (disk, number) =>
      let (disk, connection, _) :=
        disk.refresh { location, number, isWritable := name.isWritable }
      let (disk, handle) := disk.addConnection (.file connection)
      match connection.view with
      | .table _ => (disk, some handle)
      | .blank =>
          match disk.putRows? handle .empty with
          | some disk => (disk, some handle)
          | none => (disk.closeDatabase handle, none)
      | .unread => (disk.closeDatabase handle, none)

/-- Opens a database by its name.  A file that was made for it stays also when that fails. -/
def openDatabase (disk : Disk) (text : String) : Disk × Option Nat :=
  match DatabaseName.read? text with
  | none => (disk, none)
  | some name =>
      if name.inMemory then
        if name.isWritable then (disk.addConnection (.memory .empty)).map id some
        else (disk, none)
      else if name.lender.any fun path => disk.entryAt? path = none then (disk, none)
      else match disk.databaseLocation? name.path with
        | none => (disk, none)
        | some location => disk.openDatabaseFile name location

end Curfew.Disk
