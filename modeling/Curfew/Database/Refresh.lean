import Curfew.Disk.Tree

namespace Curfew

/-! How a connection looks at its file before it reads or writes.  Beside the file there can be a
journal, with which a change that was cut short is taken back, and a log, in which changes are
collected. -/

namespace Content

def isEmpty : Content → Bool
  | .text letters => letters.isEmpty
  | .binary size => size == 0
  | .database .. => false

/-- Whether a database can be made out of it: a single byte is as good as none. -/
def isBlank : Content → Bool
  | .text letters => letters.utf8ByteSize < 2
  | .binary size => size < 2
  | .database .. => false

/-- Whether it begins with a zero byte, as journals do that are done with. -/
def isVoid : Content → Bool
  | .text letters => letters.startsWith "\x00"
  | _ => false

end Content

namespace FileConnection

/-- What a connection holds when it has looked at its file.  With a log it does not rely on the
count of changes, and the database in the file need not be whole. -/
def seeing (connection : FileConnection) : Content → FileConnection
  | .database _ changes =>
      if connection.view ≠ .unread ∧ connection.changes = changes ∧ !connection.isLogged then
        connection
      else { connection with view := .table none, changes }
  | content =>
      if connection.isLogged then connection
      else if content.isBlank then { connection with view := .blank }
      else { connection with view := .unread, changes := 0 }

/-- What a connection holds when it has read the rows, and the rows. -/
def readingRows (connection : FileConnection) (content : Content) :
    FileConnection × Option (Table String) :=
  match connection.view, content with
  | .table (some rows), _ => (connection, some rows)
  | .table none, .database rows _ => ({ connection with view := .table rows }, some rows)
  | _, _ => (connection, none)

def journal (connection : FileConnection) : Location := connection.location.beside "-journal"
def log (connection : FileConnection) : Location := connection.location.beside "-wal"
def logIndex (connection : FileConnection) : Location := connection.location.beside "-shm"

end FileConnection

namespace Disk

/-- What the file with a number holds, wherever it is. -/
def contentOf (disk : Disk) (number : Nat) : Content :=
  let placed := disk.entries.entries.findSome? fun (_, entry) =>
    match entry with
    | .file other content => if other = number then some content else none
    | .directory => none
  (placed <|> disk.detached.lookup number).getD (.text "")

/-- Whether the file of a connection is still at its location. -/
def isInPlace (disk : Disk) (connection : FileConnection) : Bool :=
  match disk.entry? connection.location with
  | some (.file number _) => number = connection.number
  | _ => false

/-- Whether someone has opened the file with a number and keeps a log of it. -/
def isLogHeld (disk : Disk) (number : Nat) : Bool :=
  disk.connections.any fun
    | .file connection => connection.isLogged && connection.number == number
    | _ => false

/-- Removes a journal that was left behind.  If the database is not empty the journal must be a
file that can be opened, for which there must be something at the location of the database, and
no one may hold a log. -/
def settleJournal? (disk : Disk) (connection : FileConnection) (content : Content) :
    Option Disk :=
  match disk.entry? connection.journal with
  | none => some disk
  | some .directory => if content.isBlank then some disk else none
  | some (.file _ written) =>
      if written.isEmpty then some disk
      else if content.isBlank then some (disk.remove connection.journal)
      else if disk.entry? connection.location = none then none
      else if written.isVoid then some disk
      else if disk.isLogHeld connection.number then none
      else some (disk.remove connection.journal)

/-- Looks for a log and gives the disk back with whether there is one.  An empty database has no
use for it. -/
def settleLog? (disk : Disk) (connection : FileConnection) (content : Content) :
    Option (Disk × Bool) :=
  match disk.entry? connection.log with
  | none => some (disk, false)
  | some .directory => none
  | some (.file _ written) =>
      if written.isEmpty then some (disk, false)
      else if content.isBlank then some (disk.remove connection.log, false)
      else if disk.entry? connection.location = none then none
      else if disk.isLogHeld connection.number ∨
          disk.entry? connection.logIndex = some .directory then some (disk, true)
      else some (disk.putContent connection.logIndex (.binary 32768), true)

/-- A connection looks at its file.  Whether it could is said at the end. -/
def refresh (disk : Disk) (connection : FileConnection) : Disk × FileConnection × Bool :=
  let content := disk.contentOf connection.number
  if connection.isLogged then (disk, connection.seeing content, true)
  else match disk.settleJournal? connection content with
    | none => (disk, connection, false)
    | some disk =>
        match disk.settleLog? connection content with
        | none => (disk, connection, false)
        | some (disk, isLogged) => (disk, { connection.seeing content with isLogged }, true)

end Disk

end Curfew
