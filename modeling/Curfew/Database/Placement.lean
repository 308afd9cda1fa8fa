import Curfew.Database.Name
import Curfew.Disk.Tree

namespace Curfew.Disk

/-! Where a path to a database leads, and the file that is opened there. -/

/-- The longest location that a path may pass, and the longest that a database may have. -/
def maxPassedWidth : Nat := 511
def maxDatabaseWidth : Nat := 504

/-- What a path passes may be missing, but it cannot lie below a file. -/
def passable (disk : Disk) (location : Location) : Bool :=
  location.text.utf8ByteSize ≤ maxPassedWidth &&
    match disk.follow [] location with
    | .ok _ | .error .notFound => true
    | .error _ => false

/-- Where a path to a database leads.  Its names are taken one by one, and two dots take away the
name before them, whether there is such a directory or not. -/
def databaseLocation? (disk : Disk) (path : String) : Option Location := do
  let start := if Path.isAbsolute path then [] else disk.workingDirectory
  let location ← (Path.names path).foldlM (fun location name =>
    if name = ".." then some location.dropLast
    else if disk.passable (location ++ [name]) then some (location ++ [name])
    else none) start
  if location ≠ [] ∧ location.text.utf8ByteSize ≤ maxDatabaseWidth then some location else none

/-- The number of the file that is opened. -/
def openFile? (disk : Disk) (mode : DatabaseMode) (location : Location) : Option (Disk × Nat) :=
  match disk.entry? location with
  | some .directory => none
  | some (.file number _) => some (disk, number)
  | none =>
      if mode = .create ∧ disk.entry? location.dropLast = some .directory then
        some (disk.putContent location (.text ""), disk.nextNumber)
      else none

end Curfew.Disk
