import Curfew.Store.Database
import Curfew.Store.File

namespace Curfew

/-! A store holds one value, in a file or in a database. -/

inductive Store (α ε : Type) where
  | file (store : FileStore α ε)
  | database (store : DatabaseStore α ε)

namespace Store

variable {α ε : Type}

def read (store : Store α ε) (disk : Disk) : Disk × Except (StoreError ε) α :=
  match store with
  | .file store => store.read disk
  | .database store => store.read disk

def write (fault : Option Disk.Fault) (store : Store α ε) (value : α) (disk : Disk) :
    Disk × Except (StoreError ε) Unit :=
  match store with
  | .file store => store.write fault value disk
  | .database store => store.write fault value disk

def isHealthy (store : Store α ε) (disk : Disk) : Bool :=
  match store with
  | .file store => store.isHealthy disk
  | .database _ => true

/-- Gives up the database that was opened for a store. -/
def close (store : Store α ε) (disk : Disk) : Disk :=
  match store with
  | .file _ => disk
  | .database store => disk.closeDatabase store.connection

/-- Where the value is kept: a path, or a key in a database. -/
def place : Store α ε → String
  | .file store => store.path
  | .database store => store.key

end Store

end Curfew
