import Curfew.Database.Access
import Curfew.Disk.Step
import Curfew.Store.Codec

namespace Curfew

/-! One value in a row of a database.  Stores with different keys can share a database. -/

structure DatabaseStore (α ε : Type) where
  /-- The handle of the open database. -/
  connection : Nat
  key : String
  codec : Codec α ε

namespace DatabaseStore

variable {α ε : Type}

def location (store : DatabaseStore α ε) : String :=
  s!"sqlite table stored_values, key '{store.key}'"

/-- Opens a database for a store. -/
def open? (path key : String) (codec : Codec α ε) (disk : Disk) :
    Disk × Option (DatabaseStore α ε) :=
  (disk.openDatabase path).map id fun handle? =>
    handle?.map fun connection => { connection, key, codec }

/-- A row is written as a whole or not at all, whatever the step at which a fault occurs. -/
def write (fault : Option Disk.Fault) (store : DatabaseStore α ε) (value : α) (disk : Disk) :
    Disk × Except (StoreError ε) Unit :=
  if fault.isSome then (disk, .error .database)
  else
    let (disk, rows?) := disk.rowsOf store.connection
    match rows?.bind fun rows =>
        disk.putRows? store.connection (rows.insert store.key (store.codec.encode value)) with
    | some disk => (disk, .ok ())
    | none => (disk, .error .database)

/-- When there is no row the fallback is written and returned. -/
def read (store : DatabaseStore α ε) (disk : Disk) : Disk × Except (StoreError ε) α :=
  let (disk, rows?) := disk.rowsOf store.connection
  match rows? with
  | none => (disk, .error .database)
  | some rows =>
      match rows.get? store.key with
      | some text => (disk, (store.codec.decode text).mapError (.undecodable store.location))
      | none =>
          let (disk, result) := store.write none store.codec.fallback disk
          (disk, result.map fun _ => store.codec.fallback)

/-- Opens a database for one use of a store in it.  Without a result it cannot be opened. -/
def once (path key : String) (codec : Codec α ε) (disk : Disk)
    (use : DatabaseStore α ε → Disk → Disk × β) : Disk × Option β :=
  match open? path key codec disk with
  | (disk, none) => (disk, none)
  | (disk, some store) =>
      let (disk, result) := use store disk
      (disk.closeDatabase store.connection, some result)

end DatabaseStore

end Curfew
