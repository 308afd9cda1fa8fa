import Curfew.Disk.Tree

namespace Curfew

/-! Changes to a disk, one step at a time.  Each step happens as a whole or not at all; only writing
may be cut short and leave anything in the file that is written.  Below them are whole directories:
what is in them, filling them and removing them. -/

namespace Disk

inductive Step where
  | makeDirectory (path : String)
  | writeText (path text : String)
  | rename (source target : String)
deriving DecidableEq, Repr

/-- A directory that is there already is no error.  Slashes at the end of the path mean nothing,
but what a dot at its end names must be there. -/
def makeDirectory (disk : Disk) (path : String) : Except DiskError Disk := do
  let location ← if Path.endsInDot path then disk.locate path else disk.followPath path
  match disk.entry? location with
  | none => return disk.put location .directory
  | some .directory => return disk
  | some (.file ..) => throw .exists

/-- A file that is there already is overwritten. -/
def putFile (disk : Disk) (path : String) (content : Content) : Except DiskError Disk := do
  let location ← disk.locate path
  match disk.entry? location with
  | some .directory => throw .isADirectory
  | _ => return disk.putContent location content

/-- Only files are renamed.  A file at the target gives way. -/
def rename (disk : Disk) (source target : String) : Except DiskError Disk := do
  let origin ← disk.locate source
  match disk.entry? origin with
  | none => throw .notFound
  | some .directory => throw .isADirectory
  | some (.file number content) =>
      let disk := { disk with entries := disk.entries.erase origin.text }
      let location ← disk.locate target
      match disk.entry? location with
      | some .directory => throw .isADirectory
      | _ => return (disk.detach location).put location (.file number content)

namespace Step

def run (disk : Disk) : Step → Except DiskError Disk
  | .makeDirectory path => disk.makeDirectory path
  | .writeText path text => disk.putFile path (.text text)
  | .rename source target => disk.rename source target

/-- What a step leaves that did not come to its end: `written` is what the file held by
then, if it was opened at all. -/
def interrupted (disk : Disk) (written : Option Content) : Step → Disk
  | .writeText path _ =>
      match written.map (disk.putFile path) with
      | some (.ok next) => next
      | _ => disk
  | _ => disk

end Step

/-- The number of the step that does not come to its end, and what it has written. -/
structure Fault where
  step : Nat
  written : Option Content := none

/-- The fault as the steps after the first see it. -/
def Fault.shifted (fault : Fault) : Fault := { fault with step := fault.step - 1 }

/-- Runs steps up to the first that fails, and gives the path that stands by that one. -/
def runSteps (fault : Option Fault) (disk : Disk) :
    List (String × Step) → Disk × Except String Unit
  | [] => (disk, .ok ())
  | (path, step) :: rest =>
      match fault.filter fun fault => fault.step == 0 with
      | some fault => (step.interrupted disk fault.written, .error path)
      | none =>
          match step.run disk with
          | .ok next => runSteps (fault.map Fault.shifted) next rest
          | .error _ => (disk, .error path)

/-- The steps that make a directory and what is missing above it: from the innermost directory on
that is there or can be made, or whose path fails in another way. -/
def directorySteps (disk : Disk) (path : String) : List (String × Step) :=
  let isMissing (directory : String) : Bool :=
    match disk.makeDirectory directory with
    | .error .notFound => true
    | _ => false
  let all := Path.ancestors path
  let needed := all.take ((all.takeWhile isMissing).length + 1)
  needed.reverse.map fun directory => (path, .makeDirectory directory)

/-- What is below a directory, by its path from there, in ascending order.  Directories end
in a slash. -/
def listing (disk : Disk) (directory : String) : List String :=
  let above := directory ++ "/"
  let shown := disk.entries.entries.filterMap fun (key, entry) =>
    if key.startsWith above then
      let name := String.ofList (key.toList.drop above.length)
      some (if entry = .directory then name ++ "/" else name)
    else none
  shown.mergeSort fun left right => decide (left ≤ right)

/-- Makes a directory and those above it, as far as that is possible. -/
def withDirectories (disk : Disk) (path : String) : Disk :=
  (runSteps none disk (disk.directorySteps path)).1

/-- Puts a file and the directories above it, as far as that is possible. -/
def withFile (disk : Disk) (path : String) (content : Content) : Disk :=
  let disk := disk.withDirectories ((Path.parent? path).getD "")
  ((disk.putFile path content).toOption).getD disk

/-- Removes what is at a path and below it. -/
def without (disk : Disk) (path : String) : Disk :=
  match disk.locate path with
  | .error _ => disk
  | .ok location =>
      let gone := disk.entries.keys.filter fun key =>
        key == location.text || key.startsWith (location.text ++ "/")
      gone.foldl (fun disk key => disk.remove (Path.names key)) disk

end Disk

end Curfew
