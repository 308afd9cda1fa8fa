import Curfew.Disk.Step
import Curfew.Store.Codec

namespace Curfew

/-! One value in a text file.  It is written to a file beside it first, which then takes
its place. -/

structure FileStore (α ε : Type) where
  path : String
  codec : Codec α ε

namespace FileStore

variable {α ε : Type}

/-- The file that is written before it takes the place of the stored one. -/
def draftPath (store : FileStore α ε) : String :=
  Path.withFileName store.path ((Path.fileName? store.path).getD "" ++ ".tmp")

def writeSteps (store : FileStore α ε) (value : α) (disk : Disk) : List (String × Disk.Step) :=
  disk.directorySteps ((Path.parent? store.path).getD "") ++
    [(store.draftPath, .writeText store.draftPath (store.codec.encode value)),
      (store.path, .rename store.draftPath store.path)]

def write (fault : Option Disk.Fault) (store : FileStore α ε) (value : α) (disk : Disk) :
    Disk × Except (StoreError ε) Unit :=
  let (disk, result) := Disk.runSteps fault disk (store.writeSteps value disk)
  (disk, result.mapError .disk)

/-- When there is no file the fallback is written and returned. -/
def read (store : FileStore α ε) (disk : Disk) : Disk × Except (StoreError ε) α :=
  match disk.readText store.path with
  | .ok text => (disk, (store.codec.decode text).mapError (.undecodable store.path))
  | .error .notFound =>
      let (disk, result) := store.write none store.codec.fallback disk
      (disk, result.map fun _ => store.codec.fallback)
  | .error _ => (disk, .error (.disk store.path))

/-- A directory that is missing is no harm, but a file in its place is. -/
def isHealthy (store : FileStore α ε) (disk : Disk) : Bool :=
  match (Path.parent? store.path).bind disk.entryAt? with
  | some (.file ..) => false
  | _ => true

end FileStore

end Curfew
