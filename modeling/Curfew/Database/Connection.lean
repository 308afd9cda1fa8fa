import Curfew.Path
import Curfew.Table

namespace Curfew

/-! Connections to databases.  A database counts the changes that are made to it, and a connection
keeps what it has read until it meets another count. -/

/-- What a connection holds of its database. -/
inductive DatabaseView where
  | unread
  /-- The file was empty, so it has no table. -/
  | blank
  /-- The rows are read when they are needed. -/
  | table (rows : Option (Table String))
deriving DecidableEq, Repr

/-- A connection to the file with a number, which was found at a location. -/
structure FileConnection where
  location : Location
  number : Nat
  isWritable : Bool
  view : DatabaseView := .unread
  /-- The count of changes under which the database was read. -/
  changes : Nat := 0
  /-- Whether there is a log beside the file to which changes go. -/
  isLogged : Bool := false
deriving DecidableEq, Repr

inductive Connection where
  | closed
  /-- A database of its own, which is gone when it is closed. -/
  | memory (rows : Table String)
  | file (connection : FileConnection)
deriving DecidableEq, Repr

end Curfew
