import Curfew.Database.Connection
import Curfew.Path

namespace Curfew

/-! Files and directories.  There are no links, neither symbolic nor hard ones: every file has one
name, and a path passes through directories alone. -/

/-- Only what can be told apart by reading is kept of a file: its text, its rows and the count of
its changes if it is a database, or how many bytes it has that are no text. -/
inductive Content where
  | text (text : String)
  | binary (size : Nat)
  | database (rows : Table String) (changes : Nat)
deriving DecidableEq, Repr

def Content.ofBytes (bytes : List UInt8) : Content :=
  match String.fromUTF8? ⟨bytes.toArray⟩ with
  | some letters => .text letters
  | none => .binary bytes.length

/-- A file keeps its number when it is overwritten or renamed.  No entry stands for another one: what
would follow a link, or write to a file under its other name, is outside this model. -/
inductive Entry where
  | directory
  | file (number : Nat) (content : Content)
deriving DecidableEq, Repr

inductive DiskError where
  | notFound
  | notADirectory
  | isADirectory
  | exists
  | notText
  /-- Neither a file nor a directory could have this path. -/
  | impossiblePath
deriving DecidableEq, Repr

/-- Entries by the text of their location.  The root is always there and not listed.  Who has
opened a file can go on reading it when it is gone. -/
structure Disk where
  entries : Table Entry
  /-- The number of the next new file. -/
  nextNumber : Nat := 0
  /-- What was in files that are at no location any more, by their numbers. -/
  detached : List (Nat × Content) := []
  connections : List Connection := []
  workingDirectory : Location := []

namespace Disk

def entry? (disk : Disk) : Location → Option Entry
  | [] => some .directory
  | location => disk.entries.get? location.text

def put (disk : Disk) (location : Location) (entry : Entry) : Disk :=
  { disk with entries := disk.entries.insert location.text entry }

/-- Keeps what a location holds for those who have opened it. -/
def detach (disk : Disk) (location : Location) : Disk :=
  match disk.entry? location with
  | some (.file number content) =>
      { disk with detached := (number, content) :: disk.detached }
  | _ => disk

def remove (disk : Disk) (location : Location) : Disk :=
  let disk := disk.detach location
  { disk with entries := disk.entries.erase location.text }

/-- Puts a file, which keeps its number if there is one. -/
def putContent (disk : Disk) (location : Location) (content : Content) : Disk :=
  match disk.entry? location with
  | some (.file number _) => disk.put location (.file number content)
  | _ =>
      { disk with nextNumber := disk.nextNumber + 1 }.put location
        (.file disk.nextNumber content)

/-- Follows names from a directory on.  There need be nothing at the last of them, but all
others must be directories. -/
def follow (disk : Disk) (directory : Location) : List String → Except DiskError Location
  | [] => .ok directory
  | name :: rest =>
      if name = ".." then disk.follow directory.dropLast rest
      else if name.utf8ByteSize > Path.maxNameWidth then .error .impossiblePath
      else if rest.isEmpty then .ok (directory ++ [name])
      else match disk.entry? (directory ++ [name]) with
        | some .directory => disk.follow (directory ++ [name]) rest
        | some (.file ..) => .error .notADirectory
        | none => .error .notFound

/-- Where the names of a path lead to. -/
def followPath (disk : Disk) (path : String) : Except DiskError Location :=
  if path.isEmpty then .error .notFound
  else if path.toList.contains '\x00' || path.utf8ByteSize > Path.maxWidth then .error .impossiblePath
  else
    disk.follow (if Path.isAbsolute path then [] else disk.workingDirectory) (Path.names path)

/-- Where a path leads to.  If it can only mean a directory there must be one. -/
def locate (disk : Disk) (path : String) : Except DiskError Location := do
  let location ← disk.followPath path
  if Path.namesDirectory path then
    match disk.entry? location with
    | some .directory => return location
    | some (.file ..) => throw .notADirectory
    | none => throw .notFound
  else return location

def entryAt? (disk : Disk) (path : String) : Option Entry :=
  match disk.locate path with
  | .ok location => disk.entry? location
  | .error _ => none

def isDirectory (disk : Disk) (path : String) : Bool :=
  match disk.entryAt? path with
  | some .directory => true
  | _ => false

def readText (disk : Disk) (path : String) : Except DiskError String := do
  match disk.entry? (← disk.locate path) with
  | some (.file _ (.text text)) => return text
  | some (.file ..) => throw .notText
  | some .directory => throw .isADirectory
  | none => throw .notFound

/-- The names in a directory, in ascending order. -/
def namesIn? (disk : Disk) (path : String) : Option (List String) :=
  match disk.locate path with
  | .error _ => none
  | .ok location =>
      match disk.entry? location with
      | some .directory =>
          let above := if location.isEmpty then "/" else location.text ++ "/"
          some (disk.entries.keys.filterMap fun key =>
            let name := key.toList.drop above.length
            if key.startsWith above && !name.contains '/' then some (String.ofList name) else none)
      | _ => none

end Disk

end Curfew
